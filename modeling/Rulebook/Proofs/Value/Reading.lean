import Rulebook.Value.Coercion
import Rulebook.Proofs.Run
import Rulebook.Proofs.Value.Respelling

/-!
Readings of a value. Each way of looking at a value, its emptiness, its kind, the number or truth
value it is or spells, its loose equality to another, gives one answer for a value and for every
respelling of it, where both have an answer.
-/

namespace Rulebook

namespace Number

theorem isDefinite_ok {a : Number} {b : Bool} (h : a.isDefinite = .ok b) : b = !a.isNaN := by
  cases a with
  | int n =>
    by_cases hn : (Binary64.ofInt? n).isSome
    · simp only [isDefinite, hn, if_true, Except.ok.injEq] at h
      exact h.symm
    · simp [isDefinite, hn] at h
  | float x =>
    cases h
    rfl

theorem Alike.isIntegral {a b : Number} (h : a.Alike b) : a.isIntegral = b.isIntegral := by
  rcases h with rfl | h
  · rfl
  · exact isIntegral_congr h

theorem Alike.compareBy_left {rel : Extended → Extended → Bool} {a b : Number} (c : Number)
    (h : a.Alike b) : compareBy rel a c = compareBy rel b c := by
  rcases h with rfl | h
  · rfl
  · exact compareBy_congr_left c h

theorem Alike.compareBy_right {rel : Extended → Extended → Bool} {a b : Number} (c : Number)
    (h : a.Alike b) : compareBy rel c a = compareBy rel c b := by
  rcases h with rfl | h
  · rfl
  · exact compareBy_congr_right c h

end Number

namespace Respelling

variable {v w : Value}

theorem isEmpty (h : Respelling v w) : v.isEmpty = w.isEmpty := by
  cases h <;> rfl

theorem isList (h : Respelling v w) : v.isList = w.isList := by
  cases h <;> rfl

theorem isObject (h : Respelling v w) : v.isObject = w.isObject := by
  cases h <;> rfl

theorem number? (h : Respelling v w) :
    Except.Agree (Option.Rel Number.Alike) v.number? w.number? := by
  cases h with
  | scalar s => exact .refl _ fun o => by cases o <;> simp [Number.Alike]
  | @number a b hab =>
    refine .bind (R := fun p q => p = !a.isNaN ∧ q = !b.isNaN) ?_ ?_
    · intro p q hp hq
      exact ⟨Number.isDefinite_ok hp, Number.isDefinite_ok hq⟩
    · rintro _ _ ⟨rfl, rfl⟩
      rw [Number.isNaN_of_eq hab, Number.isNaN_of_eq (Number.eq_symm hab)]
      exact .pure (.some (.inr hab))
  | list _ _ => exact .pure .none
  | object _ _ _ => exact .pure .none

theorem toNumber? (h : Respelling v w) :
    Except.Agree (Option.Rel Number.Alike) v.toNumber? w.toNumber? := by
  cases h with
  | scalar s => exact .refl _ fun o => by cases o <;> simp [Number.Alike]
  | number hab => exact Respelling.number? (.number hab)
  | list length each => exact Respelling.number? (.list length each)
  | object keyed keys each => exact Respelling.number? (.object keyed keys each)

theorem isKind (h : Respelling v w) (k : Kind) : Except.Agree Eq (v.isKind k) (w.isKind k) := by
  cases k with
  | string => cases h <;> exact .pure rfl
  | number =>
    refine .bind h.number? ?_
    rintro _ _ (_ | _) <;> exact .pure rfl
  | integer =>
    refine .bind h.number? ?_
    rintro _ _ (hab | _)
    · exact .pure hab.isIntegral
    · exact .pure rfl
  | boolean => cases h <;> exact .pure rfl
  | null => cases h <;> exact .pure rfl

theorem isKindNamed (h : Respelling v w) (name : String) :
    Except.Agree Eq (v.isKindNamed name) (w.isKindNamed name) := by
  unfold Value.isKindNamed
  split
  · exact h.isKind _
  · exact .pure rfl

theorem toTruth? (h : Respelling v w) : Except.Agree Eq v.toTruth? w.toTruth? := by
  cases h with
  | scalar s => exact .refl _ fun _ => rfl
  | number hab =>
    refine .bind (Respelling.number? (.number hab)) ?_
    rintro _ _ (@⟨m, n, hmn⟩ | _)
    · have hone : m.eq (.int 1) = n.eq (.int 1) := hmn.compareBy_left _
      have hzero : m.isZero = n.isZero := hmn.compareBy_left _
      simp only [hone, hzero]
      exact .pure rfl
    · exact .pure rfl
  | list _ _ => exact .refl _ fun _ => rfl
  | object _ _ _ => exact .refl _ fun _ => rfl

theorem looselyEqual (h : Respelling v w) (e : Value) :
    Except.Agree Eq (e.looselyEqual v) (e.looselyEqual w) := by
  unfold Value.looselyEqual
  rw [h.equal_congr_right e]
  split
  · exact .pure rfl
  · refine .bind (.refl (R := Eq) e.number? fun _ => rfl) ?_
    rintro expected _ rfl
    cases expected with
    | some n =>
      refine .bind h.toNumber? ?_
      rintro _ _ (hab | _)
      · exact .pure (hab.compareBy_left n)
      · exact .pure rfl
    | none =>
      dsimp only
      split
      · refine .bind h.toTruth? ?_
        rintro t _ rfl
        exact .pure rfl
      · exact .pure h.isEmpty
      · exact .pure rfl

end Respelling

end Rulebook
