import Rulebook.Proofs.Number.Place

/-!
Numbers in order. Definite numbers have places on the extended dyadic line, whose order is transitive; so of
two definite numbers the one is below the other when the other is not at most it, and integers are ordered as
such.
-/

namespace Rulebook

theorem Extended.ble_self (x : Extended) : x.ble x = true := by
  cases x with
  | bottom => rfl
  | dyadic d => exact Dyadic.le_refl d
  | top => rfl

theorem Extended.ble_trans {x y z : Extended} (hxy : x.ble y = true) (hyz : y.ble z = true) :
    x.ble z = true := by
  cases x with
  | bottom => rfl
  | dyadic p =>
    cases y with
    | bottom => cases hxy
    | dyadic q =>
      cases z with
      | bottom => cases hyz
      | dyadic r => exact Dyadic.le_trans hxy hyz
      | top => rfl
    | top => cases z <;> first | rfl | cases hyz
  | top =>
    cases y with
    | top => exact hyz
    | _ => cases hxy

namespace Number

variable {a b c : Number}

theorem exists_place (h : a.isNaN = false) : ∃ x, a.extended? = some x := by
  rcases a with n | (_ | _ | _ | _)
  all_goals first | exact ⟨_, rfl⟩ | cases h

theorem compareBy_iff {rel : Extended → Extended → Bool} : compareBy rel a b = true ↔
    ∃ x y, a.extended? = some x ∧ b.extended? = some y ∧ rel x y = true := by
  unfold compareBy
  cases a.extended? <;> cases b.extended? <;> simp

theorem le_trans (hab : a.le b = true) (hbc : b.le c = true) : a.le c = true := by
  obtain ⟨x, y, hx, hy, hxy⟩ := compareBy_iff.mp hab
  obtain ⟨y', z, hy', hz, hyz⟩ := compareBy_iff.mp hbc
  cases hy.symm.trans hy'
  exact compareBy_iff.mpr ⟨x, z, hx, hz, Extended.ble_trans hxy hyz⟩

/-- A definite number is below another when the other is not at most it. -/
theorem lt_eq_not_le (ha : a.isNaN = false) (hb : b.isNaN = false) : a.lt b = !b.le a := by
  obtain ⟨x, hx⟩ := exists_place ha
  obtain ⟨y, hy⟩ := exists_place hb
  simp only [lt, le, compareBy, hx, hy, Extended.blt]

theorem int_le_int (m n : Int) : (int m).le (int n) = decide (m ≤ n) := by
  have hplaces : (int m).le (int n) = (Dyadic.ofInt m).ble (.ofInt n) := rfl
  have hiff : (Dyadic.ofInt m).ble (.ofInt n) = true ↔ m ≤ n := by
    show Dyadic.ofInt m ≤ .ofInt n ↔ _
    rw [← Dyadic.toRat_le_toRat_iff, Dyadic.toRat_ofInt, Dyadic.toRat_ofInt, Int.cast_le]
  rw [hplaces, Bool.eq_iff_iff, hiff, decide_eq_true_iff]

end Number

end Rulebook
