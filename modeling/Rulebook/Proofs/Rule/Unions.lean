import Rulebook.Proofs.Rule.Merging
import Rulebook.Proofs.Value.Tabulated

/-!
Merging is an ordered union that loses nothing. The names of merged failures are all names that were reported, in the
order in which they first were, and each has the detail that was reported last. The names follow the first report and
the details the last, so both together settle the result; and maps can be merged in groups of neighbours, group by
group, without changing a name, a detail or the order.
-/

namespace Rulebook

/-! ### Keys and values of unions -/

namespace Ordered

variable {κ α : Type} [DecidableEq κ]

/-- An insertion moves no key, and adds its own at the end if it is new. -/
theorem keys_insert (k : κ) (a : α) (m : List (κ × α)) :
    (insert k a m).map (·.1) = if k ∈ m.map (·.1) then m.map (·.1) else m.map (·.1) ++ [k] := by
  split
  · next hmem =>
    induction m with
    | nil => cases hmem
    | cons p rest ih =>
      by_cases hp : p.1 = k
      · simp [insert, hp]
      · have hrest : k ∈ rest.map (·.1) := (List.mem_cons.mp hmem).resolve_left fun h => hp h.symm
        simpa [insert, hp] using ih hrest
  · next hfresh =>
    rw [insert_of_fresh (told_of_lawful m) hfresh]
    exact List.map_append

/-- The keys of a map are those of its pairs, in order of first appearance. -/
theorem keys_ofList (pairs : List (κ × α)) : (ofList pairs).map (·.1) = (pairs.map (·.1)).eraseDups := by
  induction pairs using List.reverseRecOn with
  | nil => rfl
  | append_singleton pairs p ih =>
    have hlast : ofList (pairs ++ [p]) = insert p.1 p.2 (ofList pairs) := union_append [] pairs [p]
    rw [hlast, keys_insert, ih, List.map_append, List.map_singleton, eraseDups_concat]
    simp only [List.mem_eraseDups]

/-- A union has the values of the new map, where that has one. -/
theorem get?_union_of_nodup (k : κ) (m : List (κ × α)) {new : List (κ × α)}
    (nodup : (new.map (·.1)).Nodup) : get? k (union m new) = (get? k new).or (get? k m) := by
  have hnew : ofList new = new := union_eq_append (m := []) (told_of_lawful _) nodup
  rw [get?_union (apart_of_lawful k), ← get?_ofList (apart_of_lawful k), hnew]

end Ordered

/-! ### Merges of all maps that are given -/

namespace Failures

theorem names_merge (maps : List Failures) :
    (merge maps).map (·.1) = (maps.flatMap (·.map (·.1))).eraseDups := by
  rw [merge_eq_ofList, Ordered.keys_ofList, List.map_flatten, List.flatMap_def]

/-- The last map with a name has its detail. The induction takes the maps from the last one on, as the search does. -/
theorem get?_merge (name : String) {maps : List Failures} (nodup : ∀ m ∈ maps, (m.map (·.1)).Nodup) :
    Ordered.get? name (merge maps) = maps.reverse.findSome? (Ordered.get? name) := by
  induction maps using List.reverseRecOn with
  | nil => rfl
  | append_singleton maps m ih =>
    obtain ⟨hmaps, hm⟩ := List.forall_mem_append.mp nodup
    rw [merge_concat, Ordered.get?_union_of_nodup name _ (hm m (List.mem_singleton_self m)), ih hmaps,
      List.reverse_append, List.reverse_singleton, List.singleton_append, List.findSome?_cons]
    cases Ordered.get? name m <;> rfl

/-- Groups of maps that are given or not can be merged one by one, and then the merged groups. -/
theorem mergeGiven_groups (groups : List (List (Option Failures))) :
    mergeGiven (groups.map fun g => some (mergeGiven g)) = mergeGiven groups.flatten := by
  have hgroups : (groups.map fun g => some (mergeGiven g)).filterMap id =
      (groups.map (·.filterMap id)).map merge := by
    simp [mergeGiven, List.filterMap_map, Function.comp_def]
  rw [mergeGiven, hgroups, merge_groups, mergeGiven, List.filterMap_flatten]

/-- A merge has all names, in the order of their first report, each with the detail of its last report; and merging
groups of neighbours first changes nothing. -/
theorem mergeGiven_union {maps : List (Option Failures)}
    (nodup : ∀ m : Failures, some m ∈ maps → (m.map (·.1)).Nodup) :
    (mergeGiven maps).map (·.1) = (maps.reduceOption.flatMap (·.map (·.1))).eraseDups ∧
    (∀ name, Ordered.get? name (mergeGiven maps) =
      maps.reduceOption.reverse.findSome? (Ordered.get? name)) ∧
    ∀ groups : List (List (Option Failures)), groups.flatten = maps →
      mergeGiven (groups.map fun g => some (mergeGiven g)) = mergeGiven maps := by
  refine ⟨names_merge _, fun name => get?_merge name fun m hm => ?_, fun groups hcut => ?_⟩
  · exact nodup m (List.reduceOption_mem_iff.mp hm)
  · rw [mergeGiven_groups, hcut]

/-- A name that is reported again keeps its place and has the later detail. -/
theorem mergeGiven_union_again :
    let early : Failures := [("enum", .int 1), ("type", .int 2)]
    let late : Failures := [("const", .int 3), ("enum", .int 4)]
    let maps := [some early, none, some late]
    (∀ m : Failures, some m ∈ maps → (m.map (·.1)).Nodup) ∧
      (mergeGiven maps).map (·.1) = ["enum", "type", "const"] ∧
      Ordered.get? "enum" (mergeGiven maps) = some (.int 4) ∧
      mergeGiven [some (mergeGiven [some early, none]), some (mergeGiven [some late])] = mergeGiven maps := by
  intro early late maps
  have nodup : ∀ m : Failures, some m ∈ maps → (m.map (·.1)).Nodup := by
    simp [maps, early, late]
  obtain ⟨hnames, hdetails, hgroups⟩ := mergeGiven_union nodup
  exact ⟨nodup, hnames, hdetails "enum", hgroups [[some early, none], [some late]] rfl⟩

end Failures

end Rulebook
