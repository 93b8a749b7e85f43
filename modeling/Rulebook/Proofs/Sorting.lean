import Mathlib.Data.List.Sort

/-!
Stable sorting. An item that is put before a list is sorted in before the first that is no less than it.
So a first item that is no greater than the rest stays first, and it makes no difference whether items
are left out before or after sorting. Items are mostly sorted by a key.
-/

namespace Rulebook.Sorting

variable {α : Type} {le : α → α → Bool}

theorem key_trans {β : Type} [LinearOrder β] (key : α → β)
    [∀ a b, Decidable (key a ≤ key b)] (a b c : α) (hab : decide (key a ≤ key b) = true)
    (hbc : decide (key b ≤ key c) = true) : decide (key a ≤ key c) = true :=
  decide_eq_true (le_trans (of_decide_eq_true hab) (of_decide_eq_true hbc))

theorem key_total {β : Type} [LinearOrder β] (key : α → β)
    [∀ a b, Decidable (key a ≤ key b)] (a b : α) :
    (decide (key a ≤ key b) || decide (key b ≤ key a)) = true := by
  simpa using le_total (key a) (key b)

/-- Sorting puts an item before the first that is no less than it. -/
theorem mergeSort_cons_eq (trans : ∀ a b c, le a b = true → le b c = true → le a c = true)
    (total : ∀ a b, (le a b || le b a) = true) (x : α) (xs : List α) :
    ∃ less more, xs.mergeSort le = less ++ more ∧ (x :: xs).mergeSort le = less ++ x :: more ∧
      (∀ y ∈ less, le x y = false) ∧ ∀ y ∈ more, le x y = true := by
  obtain ⟨less, more, hsorted, hrest, hless⟩ := List.mergeSort_cons trans total x xs
  refine ⟨less, more, hrest, hsorted, fun y hy => by simpa using hless y hy, ?_⟩
  have hpairs := List.pairwise_mergeSort trans total (x :: xs)
  rw [hsorted, List.pairwise_append, List.pairwise_cons] at hpairs
  exact hpairs.2.1.1

/-- An item that is no greater than any other comes first if it was first. -/
theorem mergeSort_cons_of_least (trans : ∀ a b c, le a b = true → le b c = true → le a c = true)
    (total : ∀ a b, (le a b || le b a) = true) {x : α} {xs : List α}
    (least : ∀ y ∈ xs, le x y = true) : (x :: xs).mergeSort le = x :: xs.mergeSort le := by
  obtain ⟨less, more, hrest, hsorted, hless, -⟩ := mergeSort_cons_eq trans total x xs
  have hnone : less = [] := by
    refine List.eq_nil_iff_forall_not_mem.mpr fun y hy => ?_
    have hmem : y ∈ xs.mergeSort le := hrest ▸ List.mem_append_left _ hy
    have hle := least y (List.mem_mergeSort.mp hmem)
    rw [hless y hy] at hle
    cases hle
  rw [hsorted, hrest, hnone, List.nil_append, List.nil_append]

/-- A sorted list is split in one way into what is less than an item and the rest. -/
theorem split_unique {x : α} {less more less' more' : List α} (h : less ++ more = less' ++ more')
    (hless : ∀ y ∈ less, le x y = false) (hmore : ∀ y ∈ more, le x y = true)
    (hless' : ∀ y ∈ less', le x y = false) (hmore' : ∀ y ∈ more', le x y = true) :
    less = less' ∧ more = more' := by
  have hleft := congrArg (List.filter fun y => !le x y) h
  have hright := congrArg (List.filter (le x)) h
  simp only [List.filter_append] at hleft hright
  rw [List.filter_eq_self.mpr (by simpa using hless), List.filter_eq_nil_iff.mpr (by simpa using hmore),
    List.filter_eq_self.mpr (by simpa using hless'), List.filter_eq_nil_iff.mpr (by simpa using hmore')]
    at hleft
  rw [List.filter_eq_nil_iff.mpr (by simpa using hless), List.filter_eq_self.mpr hmore,
    List.filter_eq_nil_iff.mpr (by simpa using hless'), List.filter_eq_self.mpr hmore'] at hright
  simpa using And.intro hleft hright

/-- Sorting and leaving items out can be exchanged. -/
theorem filter_mergeSort (trans : ∀ a b c, le a b = true → le b c = true → le a c = true)
    (total : ∀ a b, (le a b || le b a) = true) (keep : α → Bool) (xs : List α) :
    (xs.mergeSort le).filter keep = (xs.filter keep).mergeSort le := by
  induction xs with
  | nil => simp
  | cons x rest ih =>
    obtain ⟨less, more, hrest, hsorted, hless, hmore⟩ := mergeSort_cons_eq trans total x rest
    rw [hrest, List.filter_append] at ih
    rw [hsorted, List.filter_append]
    cases hx : keep x with
    | false =>
      rw [List.filter_cons_of_neg (by simp [hx]), List.filter_cons_of_neg (by simp [hx]), ih]
    | true =>
      obtain ⟨less', more', hrest', hsorted', hless', hmore'⟩ :=
        mergeSort_cons_eq trans total x (rest.filter keep)
      obtain ⟨rfl, rfl⟩ := split_unique (ih.trans hrest')
        (fun y hy => hless y (List.mem_of_mem_filter hy))
        (fun y hy => hmore y (List.mem_of_mem_filter hy)) hless' hmore'
      rw [List.filter_cons_of_pos hx, List.filter_cons_of_pos hx, hsorted']

end Rulebook.Sorting
