import Mathlib
import Rulebook.Files.Tree

/-!
Places in a tree of files. What stands at the end of some steps down is found entry by entry. A walk that takes steps
up as well ends where the steps lead that are left when each step up has taken back the one before it, so resolving a
path keeps its place; and what is seen at a path without steps up is what stands there.
-/

namespace Rulebook

/-! ### Steps without steps up -/

namespace Path

variable {trail parts : List String} {directory p : Path}

theorem foldl_advance_of_plain (plain : ".." ∉ parts) (trail : List String) :
    parts.foldl advance trail = trail ++ parts := by
  induction parts generalizing trail with
  | nil => exact (List.append_nil trail).symm
  | cons part rest ih =>
    obtain ⟨hpart, hrest⟩ := not_or.mp (mt List.mem_cons.mpr plain)
    have hstep : advance trail part = trail ++ [part] := by simp [advance, Ne.symm hpart]
    rw [List.foldl_cons, ih hrest, hstep, List.append_assoc, List.singleton_append]

theorem plain_advance (plain : ".." ∉ trail) (part : String) : ".." ∉ advance trail part := by
  unfold advance
  split
  · exact fun h => plain (List.mem_of_mem_dropLast h)
  · next hpart =>
    simp only [List.mem_append, List.mem_singleton, not_or]
    exact ⟨plain, fun h => hpart (beq_iff_eq.mpr h.symm)⟩

theorem plain_foldl_advance (plain : ".." ∉ trail) (parts : List String) :
    ".." ∉ parts.foldl advance trail := by
  induction parts generalizing trail with
  | nil => exact plain
  | cons part rest ih => exact ih (plain_advance plain part)

theorem plain_resolve (directory p : Path) : ".." ∉ (resolve directory p).parts :=
  plain_foldl_advance List.not_mem_nil _

theorem join_of_absolute (absolute : p.isAbsolute = true) (directory : Path) : directory.join p = p :=
  if_pos absolute

theorem isAbsolute_join (absolute : directory.isAbsolute = true) (p : Path) :
    (directory.join p).isAbsolute = true := by
  unfold join
  split
  · assumption
  · exact absolute

end Path

/-! ### What stands at a place -/

namespace Tree

variable {root t u : Tree} {trail steps : List String} {above : List Tree}

/-- What stands at the end of some steps down. -/
def at? : Tree → List String → Option Tree
  | t, [] => some t
  | .directory entries, name :: rest => (below? name entries).bind fun t => t.at? rest
  | .file _, _ :: _ => none

/-- What is seen of it. -/
def sighting : Tree → Sighting
  | .file text => .file text
  | .directory _ => .directory

theorem at?_append (t : Tree) (steps more : List String) :
    t.at? (steps ++ more) = (t.at? steps).bind fun u => u.at? more := by
  induction steps generalizing t with
  | nil => rfl
  | cons name rest ih =>
    cases t with
    | file text => rfl
    | directory entries =>
      rw [List.cons_append, at?, at?, Option.bind_assoc]
      exact Option.bind_congr fun u _ => ih u

/-- A place at the end of a trail from the root, below the directories that the trail leads through, the nearest
first. -/
inductive Along (root : Tree) : List String → List Tree → Tree → Prop
  | top : Along root [] [] root
  | down {trail : List String} {above : List Tree} {entries : List (String × Tree)} {name : String} {t : Tree}
      (h : Along root trail above (.directory entries)) (hbelow : below? name entries = some t) :
      Along root (trail ++ [name]) (.directory entries :: above) t

namespace Along

theorem at?_eq (h : Along root trail above t) : root.at? trail = some t := by
  induction h with
  | top => rfl
  | down _ hbelow ih => rw [at?_append, ih, Option.bind_some, at?, hbelow, Option.bind_some, at?]

theorem up (h : Along root trail (u :: above) t) : Along root trail.dropLast above u := by
  cases h with
  | down h _ => rwa [List.dropLast_concat]

/-- A walk ends, if at something, where the trail leads that its steps make. -/
theorem walk (h : Along root trail above t) (hseen : walk above t steps = u.sighting) :
    ∃ place, root.at? (steps.foldl Path.advance trail) = some place ∧ place.sighting = u.sighting := by
  induction steps generalizing trail above t with
  | nil =>
    refine ⟨t, h.at?_eq, ?_⟩
    rw [← hseen]
    cases t <;> rfl
  | cons part rest ih =>
    cases t with
    | file text => cases u <;> cases hseen
    | directory entries =>
      unfold Tree.walk at hseen
      rw [List.foldl_cons, Path.advance]
      split at hseen
      · next hup =>
        rw [if_pos hup]
        cases above with
        | nil =>
          -- At the root the trail is empty, and a step up leaves it so.
          cases h with
          | top => exact ih .top hseen
        | cons nearest above => exact ih h.up hseen
      · next hup =>
        rw [if_neg hup]
        cases hbelow : below? part entries with
        | none =>
          rw [hbelow] at hseen
          cases u <;> cases hseen
        | some t =>
          rw [hbelow] at hseen
          exact ih (h.down hbelow) hseen

end Along

/-- Steps down lead a walk to what stands at their end. -/
theorem walk_of_at? (plain : ".." ∉ steps) (h : t.at? steps = some u) : walk above t steps = u.sighting := by
  induction steps generalizing above t with
  | nil =>
    cases h
    cases u <;> rfl
  | cons part rest ih =>
    obtain ⟨hpart, hrest⟩ := not_or.mp (mt List.mem_cons.mpr plain)
    cases t with
    | file text => cases h
    | directory entries =>
      obtain ⟨next, hbelow, h⟩ := Option.bind_eq_some_iff.mp h
      have hup : ¬ (part == "..") = true := fun hup => hpart (beq_iff_eq.mp hup).symm
      unfold walk
      rw [if_neg hup, hbelow]
      exact ih hrest h

/-- A file is seen at the end of steps down when it stands there. -/
theorem walk_eq_file_iff (plain : ".." ∉ steps) {text : String} :
    walk [] t steps = .file text ↔ t.at? steps = some (.file text) := by
  constructor
  · intro hseen
    obtain ⟨place, hplace, hsame⟩ := Along.top.walk (u := .file text) hseen
    rw [Path.foldl_advance_of_plain plain, List.nil_append] at hplace
    cases place with
    | file other => cases hsame; exact hplace
    | directory entries => cases hsame
  · exact walk_of_at? plain

end Tree

namespace Surroundings

variable {w : Surroundings} {p : Path}

/-- The place of a directory is kept when its path is resolved. -/
theorem at?_resolve (h : w.look p = .directory) :
    ∃ entries, w.tree.at? (Path.resolve w.directory p).parts = some (.directory entries) := by
  obtain ⟨place, hplace, hsame⟩ := Tree.Along.top.walk (u := .directory []) h
  cases place with
  | file text => cases hsame
  | directory entries => exact ⟨entries, hplace⟩

theorem isFile_iff : w.isFile p = true ↔ ∃ text, w.look p = .file text := by
  unfold isFile
  cases w.look p <;> simp [Sighting.isFile]

/-- A path from the root without steps up names a file when one stands at its end. -/
theorem isFile_iff_at? (absolute : p.isAbsolute = true) (plain : ".." ∉ p.parts) :
    w.isFile p = true ↔ ∃ text, w.tree.at? p.parts = some (.file text) := by
  rw [isFile_iff, look, Path.join_of_absolute absolute]
  exact exists_congr fun text => Tree.walk_eq_file_iff plain

end Surroundings

/-! ### Upwards from a path -/

namespace Path

theorem lineage_concat (origin : Origin) (parts : List String) (part : String) :
    lineage ⟨origin, parts ++ [part]⟩ = ⟨origin, parts ++ [part]⟩ :: lineage ⟨origin, parts⟩ := by
  have hlength : (parts ++ [part]).length = parts.length + 1 := List.length_append
  unfold lineage
  rw [hlength, List.range_succ, List.reverse_append, List.reverse_singleton, List.singleton_append,
    List.map_cons, ← hlength, List.take_length]
  refine congrArg _ (List.map_congr_left fun n hn => ?_)
  have hshort : n ≤ parts.length := by simpa [Nat.lt_succ_iff] using hn
  rw [List.take_append_of_le_length hshort]

theorem mem_lineage {p q : Path} : q ∈ p.lineage ↔ ∃ d, d <+: p.parts ∧ q = ⟨p.origin, d⟩ := by
  unfold lineage
  simp only [List.mem_map, List.mem_reverse, List.mem_range]
  constructor
  · rintro ⟨n, -, rfl⟩
    exact ⟨_, List.take_prefix n _, rfl⟩
  · rintro ⟨d, hd, rfl⟩
    exact ⟨d.length, Nat.lt_succ_of_le hd.length_le, by rw [← List.prefix_iff_eq_take.mp hd]⟩

/-- What is found first from a path upwards is what the deepest of the directories has that have anything. -/
theorem findSome?_lineage_eq_some_iff {α : Type} {f : Path → Option α} {p : Path} {a : α} :
    p.lineage.findSome? f = some a ↔ ∃ d, d <+: p.parts ∧ f ⟨p.origin, d⟩ = some a ∧
      ∀ d', d' <+: p.parts → d.length < d'.length → f ⟨p.origin, d'⟩ = none := by
  obtain ⟨origin, parts⟩ := p
  dsimp only
  induction parts using List.reverseRecOn with
  | nil =>
    have hlineage : lineage ⟨origin, []⟩ = [⟨origin, []⟩] := rfl
    rw [hlineage, List.findSome?_singleton]
    constructor
    · refine fun h => ⟨[], List.prefix_rfl, h, fun d' hd' hlt => ?_⟩
      exact absurd hd'.length_le (Nat.not_le.mpr hlt)
    · rintro ⟨d, hd, h, -⟩
      rwa [List.prefix_nil.mp hd] at h
  | append_singleton parts part ih =>
    -- The path itself is asked first. If it has anything no directory is deeper, and else it is one of those that
    -- have nothing.
    rw [lineage_concat, List.findSome?_cons]
    cases hwhole : f ⟨origin, parts ++ [part]⟩ with
    | some b =>
      constructor
      · rintro ⟨⟩
        refine ⟨_, List.prefix_rfl, hwhole, fun d' hd' hlt => ?_⟩
        exact absurd hd'.length_le (Nat.not_le.mpr hlt)
      · rintro ⟨d, hd, h, hnone⟩
        rcases List.prefix_concat_iff.mp hd with rfl | hd
        · exact hwhole.symm.trans h
        · have hlt : d.length < (parts ++ [part]).length := by
            simpa [Nat.lt_succ_iff] using hd.length_le
          rw [hnone _ List.prefix_rfl hlt] at hwhole
          cases hwhole
    | none =>
      refine ih.trans (exists_congr fun d => ?_)
      constructor
      · rintro ⟨hd, h, hnone⟩
        refine ⟨hd.trans (List.prefix_append ..), h, fun d' hd' hlt => ?_⟩
        rcases List.prefix_concat_iff.mp hd' with rfl | hd'
        · exact hwhole
        · exact hnone d' hd' hlt
      · rintro ⟨hd, h, hnone⟩
        refine ⟨?_, h, fun d' hd' => hnone d' (hd'.trans (List.prefix_append ..))⟩
        rcases List.prefix_concat_iff.mp hd with rfl | hd
        · rw [hwhole] at h
          cases h
        · exact hd

end Path

end Rulebook
