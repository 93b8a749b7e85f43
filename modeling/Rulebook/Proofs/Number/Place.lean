import Rulebook.Number.Basic
import Rulebook.Proofs.Number.Rounding

/-!
Numbers and their places. Two numbers are equal when they have one place on the extended dyadic line,
so whatever looks at a number through its place cannot tell two spellings of it apart: comparisons,
the whole number it is and, since a float that is whole is the float nearest to that whole number, the
remainder by a divisor. The floats of two integers leave no remainder when the one rounded integer
divides the other.
-/

namespace Rulebook

namespace Number

/-! ### Equal numbers have one place -/

theorem eq_iff {a b : Number} : a.eq b = true ↔ ∃ x, a.extended? = some x ∧ b.extended? = some x := by
  unfold eq compareBy
  cases ha : a.extended? <;> cases hb : b.extended? <;> simp [eq_comm]

theorem extended?_congr {a b : Number} (h : a.eq b = true) : a.extended? = b.extended? := by
  obtain ⟨x, ha, hb⟩ := eq_iff.mp h
  rw [ha, hb]

theorem eq_symm {a b : Number} (h : a.eq b = true) : b.eq a = true := by
  obtain ⟨x, ha, hb⟩ := eq_iff.mp h
  exact eq_iff.mpr ⟨x, hb, ha⟩

theorem compareBy_congr_left {rel : Extended → Extended → Bool} {a b : Number} (c : Number)
    (h : a.eq b = true) : compareBy rel a c = compareBy rel b c := by
  rw [compareBy, compareBy, extended?_congr h]

theorem compareBy_congr_right {rel : Extended → Extended → Bool} {a b : Number} (c : Number)
    (h : a.eq b = true) : compareBy rel c a = compareBy rel c b := by
  rw [compareBy, compareBy, extended?_congr h]

theorem eq_trans {a b c : Number} (hab : a.eq b = true) (hbc : b.eq c = true) : a.eq c = true := by
  rw [eq, compareBy_congr_left c hab]
  exact hbc

theorem isNaN_of_eq {a b : Number} (h : a.eq b = true) : a.isNaN = false := by
  obtain ⟨x, hx, -⟩ := eq_iff.mp h
  rcases a with n | (_ | _ | _ | _)
  all_goals first | rfl | cases hx

end Number

/-! ### Whole numbers -/

/-- The whole number that a dyadic rational is, if it is one. -/
def Dyadic.whole? : Dyadic → Option Int
  | .zero => some 0
  | .ofOdd n (.ofNat 0) _ => some n
  | .ofOdd n (.negSucc k) _ => some (n * twoTo (k + 1))
  | _ => none

theorem Dyadic.toRat_of_whole? {d : Dyadic} {n : Int} (h : Dyadic.whole? d = some n) :
    d.toRat = n := by
  unfold Dyadic.whole? at h
  split at h
  · cases h
    rfl
  · cases h
    rw [Dyadic.toRat_ofOdd_eq_mul_two_pow]
    simp
  · cases h
    rw [Dyadic.toRat_ofOdd_eq_mul_two_pow, Int.neg_negSucc, zpow_natCast, twoTo_eq]
    push_cast
    rfl
  · cases h

theorem Dyadic.whole?_isSome {n k : Int} {h : n % 2 = 1} (hk : k ≤ 0) :
    (Dyadic.whole? (.ofOdd n k h)).isSome := by
  rcases k with (_ | k) | k
  · rfl
  · simp at hk
    omega
  · rfl

/-- An integer on the dyadic line is whole, and is the same integer. -/
theorem Dyadic.whole?_ofInt (n : Int) : Dyadic.whole? (.ofInt n) = some n := by
  have hsome : (Dyadic.whole? (.ofInt n)).isSome := by
    by_cases hn : n = 0
    · subst hn
      rfl
    · obtain ⟨m, t, h, heq, -⟩ := Dyadic.ofInt_eq_ofOdd hn
      rw [heq]
      exact Dyadic.whole?_isSome (by omega)
  obtain ⟨m, hm⟩ := Option.isSome_iff_exists.mp hsome
  have hrat : (m : Rat) = n := by rw [← Dyadic.toRat_of_whole? hm, Dyadic.toRat_ofInt]
  rw [hm, Int.cast_injective hrat]

theorem Binary64.toInt?_eq_bind (x : Binary64) : x.toInt? = x.value?.bind Dyadic.whole? := by
  unfold Binary64.toInt?
  cases x.value? with
  | none => rfl
  | some d =>
    cases d with
    | zero => rfl
    | ofOdd n k h => rcases k with (_ | k) | k <;> rfl

namespace Number

/-- The whole number at a place, if there is one. -/
def wholeAt? : Extended → Option Int
  | .dyadic d => Dyadic.whole? d
  | _ => none

theorem toInt?_eq_bind (a : Number) : a.toInt? = a.extended?.bind wholeAt? := by
  rcases a with n | (_ | _ | b | _)
  · exact (Dyadic.whole?_ofInt n).symm
  · exact Binary64.toInt?_eq_bind _
  · rfl
  · cases b <;> rfl
  · rfl

theorem isIntegral_congr {a b : Number} (h : a.eq b = true) : a.isIntegral = b.isIntegral := by
  rw [isIntegral, isIntegral, toInt?_eq_bind, toInt?_eq_bind, extended?_congr h]

/-! ### Remainders -/

theorem value?_of_place {x : Binary64} {p : Dyadic} (h : (float x).extended? = some (.dyadic p)) :
    x.value? = some p := by
  rcases x with ⟨d, hd⟩ | _ | (_ | _) | _ <;> cases h <;> rfl

theorem infinity_of_place {x : Binary64} {p : Extended} (h : (float x).extended? = some p)
    (hp : ∀ d, p ≠ .dyadic d) : x = .infinity (decide (p = .bottom)) := by
  rcases x with ⟨d, hd⟩ | _ | (_ | _) | _ <;> cases h <;> simp at hp ⊢

/-- The remainder of a finite dividend is decided by its value. -/
theorem remainderIsZero?_of_value {x : Binary64} {p : Dyadic} (h : x.value? = some p)
    (d : Binary64) : x.remainderIsZero? d = match d with
      | .nan => some false
      | .infinity _ => some (some p == some .zero)
      | .finite q _ => some (Dyadic.divides q p)
      | .negativeZero => some (Dyadic.divides .zero p) := by
  rcases x with _ | _ | _ | _ <;> cases h <;> cases d <;> rfl

/-- Only an infinite dividend has no remainder. -/
theorem remainderIsZero?_isSome {x : Binary64} (hx : ∀ negative, x ≠ .infinity negative)
    (d : Binary64) : ∃ b, x.remainderIsZero? d = some b := by
  cases x with
  | infinity negative => exact absurd rfl (hx negative)
  | nan => exact ⟨false, by cases d <;> rfl⟩
  | finite x fits => cases d <;> exact ⟨_, rfl⟩
  | negativeZero => cases d <;> exact ⟨_, rfl⟩

theorem remainderIsZero?_congr {x y : Binary64} (d : Binary64) (h : (float x).eq (float y) = true) :
    x.remainderIsZero? d = y.remainderIsZero? d := by
  obtain ⟨p, hx, hy⟩ := eq_iff.mp h
  cases p with
  | dyadic p =>
    rw [remainderIsZero?_of_value (value?_of_place hx), remainderIsZero?_of_value (value?_of_place hy)]
  | bottom => rw [infinity_of_place hx (by simp), infinity_of_place hy (by simp)]
  | top => rw [infinity_of_place hx (by simp), infinity_of_place hy (by simp)]

/-- An integer that a float equals fits. -/
theorem fits_of_int_eq {n : Int} {y : Binary64} (h : (int n).eq (float y) = true) :
    FitsBinary64 (.ofInt n) := by
  obtain ⟨p, hint, hfloat⟩ := eq_iff.mp h
  cases hint
  rcases y with ⟨d, hd⟩ | _ | (_ | _) | _
  · cases hfloat
    exact hd
  · have hzero : Dyadic.zero = .ofInt n := by simpa [extended?] using hfloat
    rw [← hzero]
    trivial
  all_goals cases hfloat

/-- The float nearest to a whole number that a float holds has the place of that float. -/
theorem float_eq_of_int_eq {n : Int} {x y : Binary64} (hn : Binary64.ofInt? n = some x)
    (h : (int n).eq (float y) = true) : (float x).eq (float y) = true := by
  obtain ⟨p, hint, hfloat⟩ := eq_iff.mp h
  cases hint
  rw [Binary64.ofInt?_of_fits (fits_of_int_eq h)] at hn
  cases hn
  exact eq_iff.mpr ⟨_, rfl, hfloat⟩

/-- Equal numbers have floats that leave the same remainders. -/
theorem remainder_toBinary64?_congr {a b : Number} {x y : Binary64} (d : Binary64)
    (h : a.eq b = true) (ha : a.toBinary64? = some x) (hb : b.toBinary64? = some y) :
    x.remainderIsZero? d = y.remainderIsZero? d := by
  cases a with
  | int m =>
    cases b with
    | int n =>
      have hmn : m = n := by
        obtain ⟨p, hm, hn⟩ := eq_iff.mp h
        cases hm
        exact Dyadic.ofInt_injective (by simpa [extended?] using hn.symm)
      subst hmn
      rw [Option.some.inj (ha.symm.trans hb)]
    | float z =>
      cases hb
      exact remainderIsZero?_congr d (float_eq_of_int_eq ha h)
  | float z =>
    cases ha
    cases b with
    | int n => exact (remainderIsZero?_congr d (float_eq_of_int_eq hb (eq_symm h))).symm
    | float w =>
      cases hb
      exact remainderIsZero?_congr d h

end Number

/-! ### Remainders of integers -/

/-- A scaled odd part is the value over the common unit. -/
theorem Dyadic.toRat_ofOdd_mul {n k c : Int} (h : n % 2 = 1) (hkc : k ≤ c) :
    ((n * twoTo (c - k).toNat : Int) : Rat) = (Dyadic.ofOdd n k h).toRat * 2 ^ c := by
  obtain ⟨u, hu⟩ := Int.eq_ofNat_of_zero_le (Int.sub_nonneg_of_le hkc)
  rw [Dyadic.toRat_ofOdd_eq_mul_two_pow, hu, Int.toNat_natCast, twoTo_eq, mul_assoc,
    ← zpow_add₀ (by norm_num), show -k + c = u by omega, zpow_natCast]
  push_cast
  rfl

/-- One dyadic rational goes into another when that is an integral multiple of it. -/
theorem Dyadic.divides_iff {d x : Dyadic} :
    Dyadic.divides d x = true ↔ ∃ q : Int, x.toRat = d.toRat * q := by
  cases x with
  | zero =>
    cases d <;> exact iff_of_true rfl ⟨0, by simp⟩
  | ofOdd m j hm =>
    cases d with
    | zero =>
      refine iff_of_false (by simp [Dyadic.divides]) ?_
      rintro ⟨q, hq⟩
      have hzero : Dyadic.zero.toRat = 0 := Dyadic.toRat_zero
      rw [hzero, zero_mul, ← hzero] at hq
      cases Dyadic.toRat_inj.mp hq
    | ofOdd n k hn =>
      have hunit : (2 : Rat) ^ max k j ≠ 0 := zpow_ne_zero _ (by norm_num)
      unfold Dyadic.divides
      rw [decide_eq_true_iff]
      refine exists_congr fun q => ?_
      rw [← @Int.cast_inj Rat, Dyadic.toRat_ofOdd_mul hm (le_max_right k j), Int.cast_mul,
        Dyadic.toRat_ofOdd_mul hn (le_max_left k j), mul_right_comm, mul_left_inj' hunit]

/-- The value of an integer goes into that of another when the one divides the other. -/
theorem Dyadic.divides_ofInt_iff {d n : Int} :
    Dyadic.divides (.ofInt d) (.ofInt n) = true ↔ d ∣ n := by
  rw [Dyadic.divides_iff, Dyadic.toRat_ofInt, Dyadic.toRat_ofInt]
  exact exists_congr fun q => by norm_cast

/-- The floats of two integers leave no remainder when the one rounded integer divides the other. -/
theorem Binary64.remainderIsZero?_ofInt? {d n : Int} {x y : Binary64} (hx : ofInt? n = some x)
    (hy : ofInt? d = some y) : x.remainderIsZero? y = some (decide (rounded d ∣ rounded n)) := by
  have hdivides : Dyadic.divides (.ofInt (rounded d)) (.ofInt (rounded n)) =
      decide (rounded d ∣ rounded n) := by
    rw [Bool.eq_iff_iff, Dyadic.divides_ofInt_iff, decide_eq_true_iff]
  have hyvalue := value?_of_ofInt? hy
  rw [Number.remainderIsZero?_of_value (value?_of_ofInt? hx), ← hdivides]
  cases y with
  | finite q fits =>
    cases hyvalue
    rfl
  | negativeZero =>
    rw [← Option.some.inj hyvalue]
  | infinity negative => cases hyvalue
  | nan => cases hyvalue

end Rulebook
