import Rulebook.Rule.Leaf
import Rulebook.Proofs.Value.Respelling

/-!
Duplicates of a list. None is found exactly when no item equals an earlier one, so a respelling of the
list has duplicates when the list has.
-/

namespace Rulebook.Leaf

/-- A duplicate that has been found is reported. -/
theorem duplicatesFrom_cons_ne_nil (seen found items : List Value) (d : Value) :
    duplicatesFrom seen (d :: found) items ≠ [] := by
  induction items generalizing seen found d with
  | nil => simp [duplicatesFrom]
  | cons v rest ih =>
    unfold duplicatesFrom
    split
    · split
      · exact ih seen found d
      · exact ih seen (d :: found) v
    · exact ih (v :: seen) found d

theorem duplicatesFrom_eq_nil_iff {seen items : List Value} : duplicatesFrom seen [] items = [] ↔
    (∀ v ∈ items, ∀ s ∈ seen, v.equal s = false) ∧
      items.Pairwise fun earlier later => later.equal earlier = false := by
  induction items generalizing seen with
  | nil => simp [duplicatesFrom]
  | cons v rest ih =>
    unfold duplicatesFrom
    by_cases hseen : seen.any (v.equal ·) = true
    · rw [if_pos hseen]
      obtain ⟨s, hs, heq⟩ := List.any_eq_true.mp hseen
      constructor
      · intro h
        exact absurd h (duplicatesFrom_cons_ne_nil seen [] rest v)
      · rintro ⟨hnone, -⟩
        rw [hnone v (List.mem_cons_self ..) s hs] at heq
        cases heq
    · rw [if_neg hseen, ih]
      have hfresh : ∀ s ∈ seen, v.equal s = false := by
        intro s hs
        by_contra hne
        exact hseen (List.any_eq_true.mpr ⟨s, hs, by simpa using hne⟩)
      constructor
      · rintro ⟨hrest, hpairs⟩
        refine ⟨?_, List.pairwise_cons.mpr ⟨fun u hu => hrest u hu v (List.mem_cons_self ..), hpairs⟩⟩
        intro u hu s hs
        rcases List.mem_cons.mp hu with rfl | hu
        · exact hfresh s hs
        · exact hrest u hu s (List.mem_cons_of_mem _ hs)
      · rintro ⟨hnone, hpairs⟩
        obtain ⟨hv, hpairs⟩ := List.pairwise_cons.mp hpairs
        refine ⟨fun u hu s hs => ?_, hpairs⟩
        rcases List.mem_cons.mp hs with rfl | hs
        · exact hv u hu
        · exact hnone u (List.mem_cons_of_mem _ hu) s hs

/-- A list has no duplicates when no item equals an earlier one. -/
theorem duplicates_list_eq_nil_iff {items : List Value} : duplicates (.list items) = [] ↔
    items.Pairwise fun earlier later => later.equal earlier = false := by
  rw [duplicates, duplicatesFrom_eq_nil_iff]
  simp

theorem duplicates_eq_nil_of_respelling {v w : Value} (h : Respelling v w)
    (hv : duplicates v = []) : duplicates w = [] := by
  cases h with
  | @list xs ys length each =>
    rw [duplicates_list_eq_nil_iff, List.pairwise_iff_getElem] at hv ⊢
    intro i j hi hj hij
    have hitem : ∀ (k : Nat) (hx : k < xs.length) (hy : k < ys.length), Respelling xs[k] ys[k] :=
      fun k hx hy => each k _ _ (List.getElem?_eq_getElem hx) (List.getElem?_eq_getElem hy)
    have hi' : i < xs.length := length ▸ hi
    have hj' : j < xs.length := length ▸ hj
    rw [← (hitem j hj' hj).equal_congr (hitem i hi' hi)]
    exact hv i j hi' hj' hij
  | _ => rfl

theorem duplicates_isEmpty_congr {v w : Value} (h : Respelling v w) :
    (duplicates v).isEmpty = (duplicates w).isEmpty := by
  rw [Bool.eq_iff_iff, List.isEmpty_iff, List.isEmpty_iff]
  exact ⟨duplicates_eq_nil_of_respelling h, duplicates_eq_nil_of_respelling h.symm⟩

end Rulebook.Leaf
