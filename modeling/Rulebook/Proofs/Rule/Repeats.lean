import Rulebook.Rule.Keyword
import Rulebook.Proofs.Rule.Duplicates
import Rulebook.Proofs.Rule.Evaluation
import Rulebook.Proofs.Value.Equivalence

/-!
Repeated items. The search for duplicates compares an item with the first occurrences before it and
with the duplicates found so far only. As equality is symmetric and transitive these stand for all the
items before it: what equals none of them is the first of its kind, and what equals a first occurrence
and no duplicate is the second. So the duplicates of a list are the items that equal exactly one item
before them, and of every kind that has two or more items there is one.
-/

namespace Rulebook.Leaf

variable {u v : Value} {before seen found rest items : List Value}

/-- How many of some items a value equals. -/
def copies (v : Value) (items : List Value) : Nat := items.countP (v.equal ·)

/-- The items that equal exactly one of the items before them, in order of place. -/
def seconds (items : List Value) : List Value :=
  (items.zipIdx.filter fun (v, place) => copies v (items.take place) == 1).map (·.1)

/-- The same of the rest of a list, whose first items are given. -/
def secondsAfter (before : List Value) : List Value → List Value
  | [] => []
  | v :: rest =>
    if copies v before = 1 then v :: secondsAfter (before ++ [v]) rest
    else secondsAfter (before ++ [v]) rest

theorem secondsAfter_eq (before rest : List Value) : secondsAfter before rest =
    ((rest.zipIdx before.length).filter fun (v, place) =>
      copies v ((before ++ rest).take place) == 1).map (·.1) := by
  induction rest generalizing before with
  | nil => rfl
  | cons v rest ih =>
    have hrest := ih (before ++ [v])
    rw [List.length_append, List.append_assoc] at hrest
    rw [secondsAfter, List.zipIdx_cons, List.filter_cons, hrest]
    by_cases hv : copies v before = 1 <;> simp [hv]

theorem seconds_eq (items : List Value) : seconds items = secondsAfter [] items :=
  (secondsAfter_eq [] items).symm

/-! ### Copies -/

@[simp] theorem copies_nil (u : Value) : copies u [] = 0 := rfl

@[simp] theorem copies_cons (u v : Value) (items : List Value) :
    copies u (v :: items) = copies u items + if u.equal v then 1 else 0 := List.countP_cons

@[simp] theorem copies_concat (u v : Value) (items : List Value) :
    copies u (items ++ [v]) = copies u items + if u.equal v then 1 else 0 := by
  simp [copies, List.countP_append, List.countP_cons]

/-- Equal values have the same copies. -/
theorem copies_congr (hu : u.Keyed) (hv : v.Keyed) (h : u.equal v = true) (items : List Value) :
    copies u items = copies v items :=
  List.countP_congr fun w _ => by rw [Value.equal_congr_left hu hv h w]

/-! ### The search -/

/-- What the search keeps of the items before a place: a value equals one of `seen` when it has a copy
among them, and one of `found` when it has two or more. -/
structure Sifted (before seen found : List Value) : Prop where
  seen_iff : ∀ v : Value, v.Keyed → (seen.any (v.equal ·) = true ↔ 1 ≤ copies v before)
  found_iff : ∀ v : Value, v.Keyed → (found.any (v.equal ·) = true ↔ 2 ≤ copies v before)

namespace Sifted

theorem start : Sifted [] [] [] := ⟨by simp, by simp⟩

/-- With the next item only what is asked of its copies can change. -/
theorem next {seen' found' : List Value} (h : Sifted before seen found) (hv : v.Keyed)
    (others : ∀ u : Value, u.equal v = false → seen'.any (u.equal ·) = seen.any (u.equal ·) ∧
      found'.any (u.equal ·) = found.any (u.equal ·))
    (seen_copy : ∀ u : Value, u.Keyed → u.equal v = true → seen'.any (u.equal ·) = true)
    (found_copy : ∀ u : Value, u.Keyed → u.equal v = true →
      (found'.any (u.equal ·) = true ↔ 1 ≤ copies v before)) :
    Sifted (before ++ [v]) seen' found' := by
  constructor
  · intro u hu
    rw [copies_concat]
    by_cases huv : u.equal v = true
    · rw [seen_copy u hu huv, if_pos huv]
      simp
    · rw [(others u (by simpa using huv)).1, h.seen_iff u hu, if_neg huv, Nat.add_zero]
  · intro u hu
    rw [copies_concat]
    by_cases huv : u.equal v = true
    · rw [found_copy u hu huv, if_pos huv, copies_congr hu hv huv before]
      omega
    · rw [(others u (by simpa using huv)).2, h.found_iff u hu, if_neg huv, Nat.add_zero]

theorem first (h : Sifted before seen found) (hv : v.Keyed) (none : copies v before = 0) :
    Sifted (before ++ [v]) (v :: seen) found := by
  refine h.next hv (fun u huv => by simp [huv]) (fun u _ huv => by simp [huv]) fun u hu huv => ?_
  rw [h.found_iff u hu, copies_congr hu hv huv]
  omega

theorem second (h : Sifted before seen found) (hv : v.Keyed) (one : copies v before = 1) :
    Sifted (before ++ [v]) seen (v :: found) := by
  refine h.next hv (fun u huv => by simp [huv]) (fun u hu huv => ?_) fun u _ huv => by simp [huv, one]
  rw [h.seen_iff u hu, copies_congr hu hv huv]
  omega

theorem later (h : Sifted before seen found) (hv : v.Keyed) (more : 2 ≤ copies v before) :
    Sifted (before ++ [v]) seen found := by
  refine h.next hv (fun _ _ => ⟨rfl, rfl⟩) (fun u hu huv => ?_) fun u hu huv => ?_
  · rw [h.seen_iff u hu, copies_congr hu hv huv]
    omega
  · rw [h.found_iff u hu, copies_congr hu hv huv]
    omega

end Sifted

/-- The search finds the items that are the second of their kind. -/
theorem duplicatesFrom_eq (h : Sifted before seen found) (keyed : ∀ v ∈ rest, v.Keyed) :
    duplicatesFrom seen found rest = found.reverse ++ secondsAfter before rest := by
  induction rest generalizing before seen found with
  | nil => simp [duplicatesFrom, secondsAfter]
  | cons v rest ih =>
    obtain ⟨hv, hrest⟩ := List.forall_mem_cons.mp keyed
    unfold duplicatesFrom secondsAfter
    simp only [h.seen_iff v hv, h.found_iff v hv]
    rcases (by omega : copies v before = 0 ∨ copies v before = 1 ∨ 2 ≤ copies v before) with
      none | one | more
    · rw [if_neg (by omega), if_neg (by omega), ih (h.first hv none) hrest]
    · rw [if_pos (by omega), if_neg (by omega), if_pos one, ih (h.second hv one) hrest]
      simp
    · rw [if_pos (by omega), if_pos (by omega), if_neg (by omega), ih (h.later hv more) hrest]

theorem duplicates_eq_seconds (keyed : ∀ v ∈ items, v.Keyed) :
    duplicates (.list items) = seconds items := by
  rw [duplicates, duplicatesFrom_eq .start keyed, seconds_eq]
  rfl

/-! ### One of each kind -/

/-- A value with two or more copies in a list has one among the seconds, if it has one after a place
that follows at most one copy. -/
theorem copies_secondsAfter (hu : u.Keyed) (keyed : ∀ v ∈ rest, v.Keyed) (before : List Value) :
    (if 2 ≤ copies u before then 1 else 0) + copies u (secondsAfter before rest) =
      if 2 ≤ copies u (before ++ rest) then 1 else 0 := by
  induction rest generalizing before with
  | nil => simp [secondsAfter]
  | cons v rest ih =>
    obtain ⟨hv, hrest⟩ := List.forall_mem_cons.mp keyed
    have hafter := ih hrest (before ++ [v])
    rw [List.append_assoc, List.singleton_append, copies_concat] at hafter
    rw [← hafter, secondsAfter]
    by_cases huv : u.equal v = true
    · have hcopies := copies_congr hu hv huv before
      by_cases one : copies v before = 1
      · simp [one, huv, hcopies]
        omega
      · have hsame : 2 ≤ copies v before ↔ 2 ≤ copies v before + 1 := by omega
        simp [one, huv, hcopies, hsame]
    · by_cases one : copies v before = 1 <;> simp [one, huv]

theorem copies_seconds (hu : u.Keyed) (keyed : ∀ v ∈ items, v.Keyed) :
    copies u (seconds items) = if 2 ≤ copies u items then 1 else 0 := by
  simpa [seconds_eq] using copies_secondsAfter hu keyed []

theorem secondsAfter_sublist (before rest : List Value) : (secondsAfter before rest).Sublist rest := by
  induction rest generalizing before with
  | nil => exact .slnil
  | cons v rest ih =>
    rw [secondsAfter]
    split
    · exact (ih _).cons_cons v
    · exact (ih _).cons v

/-- Values that have at most one copy each among themselves are pairwise different. -/
theorem pairwise_of_copies_le_one (keyed : ∀ v ∈ items, v.Keyed)
    (single : ∀ v ∈ items, copies v items ≤ 1) : items.Pairwise fun a b => a.equal b = false := by
  induction items with
  | nil => exact .nil
  | cons v rest ih =>
    obtain ⟨hv, hrest⟩ := List.forall_mem_cons.mp keyed
    refine List.pairwise_cons.mpr ⟨fun w hw => ?_, ih hrest fun u hu => ?_⟩
    · by_contra hne
      have hvw : v.equal w = true := by simpa using hne
      have hself := Value.equal_self_of_equal hv (hrest w hw) hvw
      have hcopy : 0 < copies v rest := List.countP_pos_iff.mpr ⟨w, hw, hvw⟩
      have htwo := single v (List.mem_cons_self ..)
      rw [copies_cons, if_pos hself] at htwo
      omega
    · have hone := single u (List.mem_cons_of_mem _ hu)
      rw [copies_cons] at hone
      omega

theorem seconds_sublist (items : List Value) : (seconds items).Sublist items :=
  seconds_eq items ▸ secondsAfter_sublist [] items

theorem seconds_pairwise (keyed : ∀ v ∈ items, v.Keyed) :
    (seconds items).Pairwise fun a b => a.equal b = false := by
  have hkeyed : ∀ v ∈ seconds items, v.Keyed := fun v hv =>
    keyed v ((seconds_sublist items).subset hv)
  refine pairwise_of_copies_le_one hkeyed fun v hv => ?_
  rw [copies_seconds (hkeyed v hv) keyed]
  split <;> omega

/-! ### The report -/

theorem duplicates_isEmpty_iff : (duplicates (.list items)).isEmpty = true ↔
    ∀ i j, (hj : j < items.length) → (hij : i < j) → items[j].equal items[i] = false := by
  rw [List.isEmpty_iff, duplicates_list_eq_nil_iff, List.pairwise_iff_getElem]
  exact ⟨fun h i j hj hij => h i j (by omega) hj hij, fun h i j _ hj hij => h i j hj hij⟩

/-- The rule that items be unique passes a list when no item equals an earlier one. A report of a
failure names the items that equal exactly one earlier item, in order of place: no two of them are
equal, and a value of the list has one copy among them if it has two or more in the list. -/
theorem unique_reports_seconds (items : List Value) (keyed : ∀ v ∈ items, v.Keyed) :
    (∃ r, Keyword.uniqueItems.make false (.bool true) = .ret r ∧
      ∀ invert, ∃ o, r.check (.list items) invert = .ret o ∧
        (o.valid = true ↔
          ((∀ i j, (hj : j < items.length) → (hij : i < j) → items[j].equal items[i] = false) ↔
            invert = false)) ∧
        (o.valid = false →
          o.errors = [("uniqueItems", .record [("duplicate_items", .list (seconds items))])])) ∧
    ((seconds items).Pairwise fun a b => a.equal b = false) ∧
    ∀ v ∈ items, copies v (seconds items) = if 2 ≤ copies v items then 1 else 0 := by
  refine ⟨⟨.leaf .unique, rfl, fun invert => ?_⟩, seconds_pairwise keyed, fun v hv => ?_⟩
  · refine ⟨unique.finish (.list items) (duplicates (.list items)).isEmpty invert, rfl, ?_, ?_⟩
    · rw [finish_valid, ← duplicates_isEmpty_iff]
      cases (duplicates (.list items)).isEmpty <;> cases invert <;> simp [differ]
    · intro hfailed
      rw [finish_errors _ _ hfailed, ← duplicates_eq_seconds keyed]
      rfl
  · exact copies_seconds (keyed v hv) keyed

/-- A number three times and an object twice, spelled in different ways, beside a truth value and an
indefinite number that equals nothing: the second of each kind is reported. -/
theorem unique_reports_seconds_mixed :
    let pair := Value.object [(.text "a", .int 1), (.text "b", .null)]
    let turned := Value.object [(.text "b", .null), (.text "a", .int 1)]
    let one := Value.float (.ofDyadic (.ofInt 1))
    let items := [.int 1, .float .nan, pair, one, .bool true, .float .nan, turned, .int 1]
    (∀ v ∈ items, v.Keyed) ∧ seconds items = [one, turned] ∧
    ∃ r o, Keyword.uniqueItems.make false (.bool true) = .ret r ∧
      r.check (.list items) false = .ret o ∧ o.valid = false ∧
      o.errors = [("uniqueItems", .record [("duplicate_items", .list [one, turned])])] := by
  intro pair turned one items
  have hpair : pair.Keyed := by
    refine .object ⟨by simp, by decide⟩ ?_
    simp [Value.Over.scalar]
  have hturned : turned.Keyed := by
    refine .object ⟨by simp, by decide⟩ ?_
    simp [Value.Over.scalar]
  have keyed : ∀ v ∈ items, v.Keyed := by
    simp [items, one, hpair, hturned, Value.Over.scalar]
  have hseconds : seconds items = [one, turned] := by rfl
  obtain ⟨⟨r, made, reports⟩, -, -⟩ := unique_reports_seconds items keyed
  obtain ⟨o, ho, hvalid, herrors⟩ := reports false
  have hfailed : o.valid = false := by
    by_contra hpassed
    have hequal := (hvalid.mp (by simpa using hpassed)).mpr rfl 0 3 (by decide) (by decide)
    exact absurd hequal (by decide)
  exact ⟨keyed, hseconds, r, o, made, ho, hfailed, hseconds ▸ herrors hfailed⟩

end Rulebook.Leaf
