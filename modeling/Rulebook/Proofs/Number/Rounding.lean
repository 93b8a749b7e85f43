import Mathlib
import Rulebook.Number.Binary64

/-!
Rounding an integer to the nearest float. The value of that float is the integer rounded to 53
significant bits: it is at most half a unit in the last place away, and no integer that fits is nearer. So
an integer that fits is its own nearest float.
-/

namespace Rulebook

theorem twoTo_eq (k : Nat) : twoTo k = 2 ^ k := rfl

/-! ### Integers on the dyadic line -/

/-- An integer is an odd number times a power of two. -/
theorem Dyadic.ofInt_eq_ofOdd {n : Int} (hn : n ≠ 0) :
    ∃ m t h, Dyadic.ofInt n = .ofOdd m (-(t : Nat)) h ∧ n = m * 2 ^ t := by
  refine ⟨n >>> n.trailingZeros, n.trailingZeros, Int.shiftRight_trailingZeros_mod_two hn, ?_, ?_⟩
  · unfold Dyadic.ofInt Dyadic.ofIntWithPrec
    simp [hn]
  · have hdvd := Int.two_pow_trailingZeros_dvd hn
    rw [Int.shiftRight_eq_div_pow]
    push_cast
    exact (Int.ediv_mul_cancel hdvd).symm

theorem Dyadic.ofInt_ne_zero {n : Int} (hn : n ≠ 0) : Dyadic.ofInt n ≠ .zero := by
  obtain ⟨m, t, h, heq, -⟩ := Dyadic.ofInt_eq_ofOdd hn
  rw [heq]
  simp

theorem Dyadic.toRat_ofInt (n : Int) : (Dyadic.ofInt n).toRat = n := Dyadic.toRat_intCast n

theorem Dyadic.ofInt_injective {m n : Int} (h : Dyadic.ofInt m = .ofInt n) : m = n := by
  have hrat : (m : Rat) = n := by rw [← Dyadic.toRat_ofInt, h, Dyadic.toRat_ofInt]
  exact Int.cast_injective hrat

namespace Binary64

/-! ### Rounded quotients -/

/-- A quotient is rounded down or up, to the nearer integer. -/
theorem roundDiv_cases (num den : Nat) :
    (roundDiv num den = num / den ∧ 2 * (num % den) ≤ den) ∨
    (roundDiv num den = num / den + 1 ∧ den ≤ 2 * (num % den)) := by
  unfold roundDiv
  dsimp only
  split
  · omega
  · split <;> omega

theorem roundDiv_one (num : Nat) : roundDiv num 1 = num := by simp [roundDiv, Nat.mod_one]

/-- A rounded quotient is at most one half away from the ratio. -/
theorem roundDiv_near (num den : Nat) (hden : 0 < den) :
    2 * num ≤ 2 * (roundDiv num den * den) + den ∧ 2 * (roundDiv num den * den) ≤ 2 * num + den := by
  have hsplit : num / den * den + num % den = num := Nat.div_add_mod' num den
  have hlt : num % den < den := Nat.mod_lt num hden
  obtain ⟨hround, hhalf⟩ | ⟨hround, hhalf⟩ := roundDiv_cases num den
  · rw [hround]
    omega
  · rw [hround, Nat.add_mul]
    omega

/-! ### Rounded integers -/

/-- The unit in the last place of the floats near an integer, at least one. -/
def lastPlace (n : Int) : Nat := 2 ^ (n.natAbs.log2 - 52)

/-- The significand of an integer in this unit. -/
def significand (n : Int) : Nat := roundDiv n.natAbs (lastPlace n)

/-- An integer rounded to 53 significant bits. -/
def rounded (n : Int) : Int := n.sign * (significand n * lastPlace n : Nat)

theorem lastPlace_pos (n : Int) : 0 < lastPlace n := Nat.two_pow_pos _

theorem lastPlace_of_small {n : Int} (h : n.natAbs < 2 ^ 53) : lastPlace n = 1 := by
  have hlog : n.natAbs.log2 < 53 := by
    by_cases hn : n.natAbs = 0
    · rw [hn]
      decide
    · exact (Nat.log2_lt hn).mpr h
  rw [lastPlace, Nat.sub_eq_zero_of_le (by omega), pow_zero]

/-- A magnitude of 53 bits or more has 53 bits from its last place up. -/
theorem le_natAbs_of_large {n : Int} (h : 2 ^ 52 ≤ n.natAbs) :
    2 ^ 52 * lastPlace n ≤ n.natAbs := by
  have hn : n.natAbs ≠ 0 := by omega
  have hlog : 52 ≤ n.natAbs.log2 := (Nat.le_log2 hn).mpr h
  rw [lastPlace, ← pow_add, Nat.add_sub_cancel' hlog]
  exact Nat.log2_self_le hn

/-- How far the magnitude is rounded is how far the integer is. -/
theorem sub_rounded_natAbs (n : Int) :
    (n - rounded n).natAbs = ((n.natAbs : Int) - (significand n * lastPlace n : Nat)).natAbs := by
  by_cases hn : n = 0
  · subst hn
    rfl
  · have hfactor : n - rounded n = n.sign * (n.natAbs - (significand n * lastPlace n : Nat)) := by
      rw [rounded, Int.mul_sub, Int.sign_mul_natAbs]
    rw [hfactor, Int.natAbs_mul, Int.natAbs_sign_of_ne_zero hn, Nat.one_mul]

/-- A rounded integer is at most half a unit away. -/
theorem rounded_near (n : Int) : 2 * (n - rounded n).natAbs ≤ lastPlace n := by
  have hnear := roundDiv_near n.natAbs (lastPlace n) (lastPlace_pos n)
  rw [sub_rounded_natAbs]
  unfold significand
  omega

/-- Small integers are not rounded. -/
theorem rounded_of_small {n : Int} (h : n.natAbs < 2 ^ 53) : rounded n = n := by
  have hnear := rounded_near n
  rw [lastPlace_of_small h] at hnear
  omega

/-- No multiple of the unit is nearer. -/
theorem rounded_near_of_dvd {n m : Int} (h : (lastPlace n : Int) ∣ m) :
    (n - rounded n).natAbs ≤ (n - m).natAbs := by
  have hnear := rounded_near n
  by_cases hm : rounded n = m
  · rw [hm]
  · have hdvd : (lastPlace n : Int) ∣ m - rounded n := by
      refine Int.dvd_sub h ?_
      rw [rounded, Int.natCast_mul, ← Int.mul_assoc]
      exact Int.dvd_mul_left _ _
    have hunit : lastPlace n ≤ (m - rounded n).natAbs := by
      refine Nat.le_of_dvd (by omega) ?_
      exact Int.natCast_dvd.mp hdvd
    omega

/-- An integer that fits is small or a multiple of the unit. -/
theorem dvd_or_lt_of_fits {m : Int} (n : Int) (fits : FitsBinary64 (.ofInt m)) :
    (lastPlace n : Int) ∣ m ∨ m.natAbs < 2 ^ 52 * lastPlace n := by
  by_cases hm : m = 0
  · subst hm
    exact .inl (Int.dvd_zero _)
  obtain ⟨k, t, hodd, hofInt, hk⟩ := Dyadic.ofInt_eq_ofOdd hm
  have hbits : k.natAbs < 2 ^ 53 := by
    rw [hofInt] at fits
    exact fits.1
  unfold lastPlace
  generalize n.natAbs.log2 - 52 = u
  rcases Nat.lt_or_ge t u with htu | hut
  · right
    calc m.natAbs = k.natAbs * 2 ^ t := by rw [hk, Int.natAbs_mul, Int.natAbs_pow]; rfl
      _ < 2 ^ 53 * 2 ^ t := Nat.mul_lt_mul_of_pos_right hbits (Nat.two_pow_pos t)
      _ = 2 ^ 52 * 2 ^ (t + 1) := by ring
      _ ≤ 2 ^ 52 * 2 ^ u := Nat.mul_le_mul_left _ (Nat.pow_le_pow_right (by decide) htu)
  · left
    rw [hk]
    push_cast
    exact Dvd.dvd.mul_left (pow_dvd_pow 2 hut) k

/-- No integer that fits is nearer. -/
theorem rounded_nearest {m : Int} (n : Int) (fits : FitsBinary64 (.ofInt m)) :
    (n - rounded n).natAbs ≤ (n - m).natAbs := by
  by_cases small : n.natAbs < 2 ^ 53
  · rw [rounded_of_small small, Int.sub_self]
    exact Nat.zero_le _
  rcases dvd_or_lt_of_fits n fits with hdvd | hlt
  · exact rounded_near_of_dvd hdvd
  · -- the least magnitude with this unit lies between `m` and `n`
    have hlow := le_natAbs_of_large (n := n) (by omega)
    have hedge := rounded_near_of_dvd (n := n) (m := n.sign * (2 ^ 52 * lastPlace n : Nat))
      ⟨n.sign * 2 ^ 52, by push_cast; ring⟩
    rcases (by omega : n = 0 ∨ 0 < n ∨ n < 0) with hn | hn | hn
    · subst hn
      exact absurd (by decide) small
    · rw [Int.sign_eq_one_of_pos hn] at hedge
      omega
    · rw [Int.sign_eq_neg_one_of_neg hn] at hedge
      omega

/-- An integer that fits is not rounded. -/
theorem rounded_of_fits {n : Int} (fits : FitsBinary64 (.ofInt n)) : rounded n = n := by
  have hnearest := rounded_nearest n fits
  omega

theorem significand_pos {n : Int} (hn : n ≠ 0) : 0 < significand n := by
  have habs : n.natAbs ≠ 0 := by omega
  have hplace : lastPlace n ≤ n.natAbs := by
    calc lastPlace n ≤ 2 ^ n.natAbs.log2 := Nat.pow_le_pow_right (by decide) (Nat.sub_le _ _)
      _ ≤ n.natAbs := Nat.log2_self_le habs
  by_contra hzero
  have hnear := rounded_near n
  rw [rounded, Nat.eq_zero_of_not_pos hzero, Nat.zero_mul, Int.natCast_zero, Int.mul_zero,
    Int.sub_zero] at hnear
  omega

/-! ### The nearest float -/

theorem unitExponent_one {n : Nat} (hn : n ≠ 0) : unitExponent n 1 = (n.log2 : Int) - 52 := by
  have hone : (1 : Nat).log2 = 0 := by decide
  have hreach : twoTo n.log2 ≤ n := Nat.log2_self_le hn
  have hnonneg : (0 : Int) ≤ (n.log2 : Int) - (0 : Nat) - 53 + 53 := by omega
  have hexp : ((n.log2 : Int) - (0 : Nat) - 53 + 53).toNat = n.log2 := by omega
  unfold unitExponent
  simp only [hone, hexp, hnonneg, if_true, Nat.one_mul, hreach]
  omega

/-- The float nearest to a magnitude has the rounded magnitude as its value. -/
theorem nearestMagnitude_natAbs {n : Int} (hn : n ≠ 0) :
    nearestMagnitude n.natAbs 1 = .ofInt (significand n * lastPlace n : Nat) := by
  have habs : n.natAbs ≠ 0 := by omega
  unfold nearestMagnitude significand lastPlace
  rw [unitExponent_one habs, ← Dyadic.toRat_inj, Dyadic.toRat_ofInt]
  rcases Nat.lt_or_ge n.natAbs.log2 52 with hlt | hge
  · -- the unit is a fraction of one, so that a larger integer is rounded, which changes nothing
    obtain ⟨u, hu⟩ := Nat.exists_eq_add_of_lt hlt
    have hnonneg : ¬ 0 ≤ (n.natAbs.log2 : Int) - 52 := by omega
    have hexp : -((n.natAbs.log2 : Int) - 52) = (u + 1 : Nat) := by omega
    simp only [hnonneg, if_false, hexp, Int.toNat_natCast, twoTo_eq, Nat.sub_eq_zero_of_le hlt.le,
      pow_zero, roundDiv_one, Nat.mul_one]
    rw [Dyadic.toRat_ofIntWithPrec_eq_mul_two_pow, zpow_neg, zpow_natCast]
    push_cast
    field_simp
  · obtain ⟨u, hu⟩ := Nat.exists_eq_add_of_le hge
    simp only [hu, show ((52 + u : Nat) : Int) - 52 = u by omega, Int.natCast_nonneg, if_true,
      Int.toNat_natCast, Nat.one_mul, twoTo_eq, Nat.add_sub_cancel_left]
    rw [Dyadic.toRat_ofIntWithPrec_eq_mul_two_pow, neg_neg, zpow_natCast]
    push_cast
    rfl

theorem nearest_of_ne_zero {negative : Bool} {num den : Nat} {x : Dyadic}
    (hx : nearestMagnitude num den = x) (hne : x ≠ .zero) :
    nearest negative num den = ofDyadic (if negative then -x else x) := by
  unfold nearest
  rw [hx]
  cases negative with
  | false => rfl
  | true =>
    cases x with
    | zero => exact absurd rfl hne
    | ofOdd n k h => rfl

theorem ofDyadic_of_fits {x : Dyadic} (h : FitsBinary64 x) : ofDyadic x = .finite x h := dif_pos h

/-- The float nearest to an integer has the rounded integer as its value, if that fits. -/
theorem nearest_natAbs {n : Int} (hn : n ≠ 0) :
    nearest (decide (n < 0)) n.natAbs 1 = ofDyadic (.ofInt (rounded n)) := by
  have hpos : 0 < significand n * lastPlace n := Nat.mul_pos (significand_pos hn) (lastPlace_pos n)
  rw [nearest_of_ne_zero (nearestMagnitude_natAbs hn) (Dyadic.ofInt_ne_zero (by omega))]
  congr 1
  rcases (by omega : n < 0 ∨ 0 < n) with hneg | hpos
  · rw [rounded, Int.sign_eq_neg_one_of_neg hneg, Int.neg_one_mul]
    simp only [hneg, decide_true, if_true]
    exact Dyadic.neg_ofIntWithPrec
  · rw [rounded, Int.sign_eq_one_of_pos hpos, Int.one_mul]
    simp only [Int.not_lt.mpr hpos.le, decide_false, Bool.false_eq_true, if_false]

/-- An integer that fits is its own nearest float. -/
theorem ofInt?_of_fits {n : Int} (h : FitsBinary64 (.ofInt n)) :
    ofInt? n = some (.finite (.ofInt n) h) := by
  unfold ofInt?
  by_cases hn : n = 0
  · subst hn
    rfl
  · rw [nearest_natAbs hn, rounded_of_fits h, ofDyadic_of_fits h]

/-- The float of an integer has the rounded integer as its value. -/
theorem value?_of_ofInt? {n : Int} {x : Binary64} (h : ofInt? n = some x) :
    x.value? = some (.ofInt (rounded n)) := by
  by_cases hn : n = 0
  · subst hn
    cases h
    rfl
  unfold ofInt? at h
  rw [nearest_natAbs hn] at h
  by_cases fits : FitsBinary64 (.ofInt (rounded n))
  · rw [ofDyadic_of_fits fits] at h
    cases h
    rfl
  · rw [ofDyadic, dif_neg fits] at h
    cases h

theorem ofInt?_ne_infinity {n : Int} {x : Binary64} (h : ofInt? n = some x) (negative : Bool) :
    x ≠ .infinity negative := by
  unfold ofInt? at h
  split at h
  · cases h
  · next hx =>
    cases h
    exact hx negative

/-! ### The range of floats -/

/-- An integer that fits has at most 1024 bits. -/
theorem log2_lt_of_fits {m : Int} (fits : FitsBinary64 (.ofInt m)) : m.natAbs.log2 < 1024 := by
  by_cases hm : m = 0
  · subst hm
    decide
  obtain ⟨k, t, hodd, hofInt, hk⟩ := Dyadic.ofInt_eq_ofOdd hm
  have hlog : (k.natAbs.log2 : Int) - -(t : Int) < 1024 := by
    rw [hofInt] at fits
    exact fits.2.2
  have hlt : m.natAbs < 2 ^ (k.natAbs.log2 + 1 + t) := by
    rw [hk, Int.natAbs_mul, Int.natAbs_pow, pow_add]
    exact Nat.mul_lt_mul_of_pos_right Nat.lt_log2_self (Nat.two_pow_pos t)
  have hbits := (Nat.log2_lt (Int.natAbs_ne_zero.mpr hm)).mpr hlt
  omega

/-- Rounding does not take a magnitude below the power of two under it. -/
theorem two_pow_log2_le_rounded {n : Int} (h : 2 ^ 52 ≤ n.natAbs) :
    2 ^ n.natAbs.log2 ≤ (rounded n).natAbs := by
  have hlog : 52 ≤ n.natAbs.log2 := (Nat.le_log2 (by omega)).mpr h
  have hsignificand : 2 ^ 52 ≤ significand n := by
    have hdiv : 2 ^ 52 ≤ n.natAbs / lastPlace n :=
      (Nat.le_div_iff_mul_le (lastPlace_pos n)).mpr (le_natAbs_of_large h)
    unfold significand
    rcases roundDiv_cases n.natAbs (lastPlace n) with ⟨hround, -⟩ | ⟨hround, -⟩ <;> omega
  calc 2 ^ n.natAbs.log2 = 2 ^ 52 * lastPlace n := by rw [lastPlace, ← pow_add, Nat.add_sub_cancel' hlog]
    _ ≤ significand n * lastPlace n := Nat.mul_le_mul_right _ hsignificand
    _ = (rounded n).natAbs := by
      rw [rounded, Int.natAbs_mul, Int.natAbs_sign_of_ne_zero (by omega), Nat.one_mul, Int.natAbs_natCast]

/-- An integer with a float near it has at most 1024 bits. -/
theorem log2_lt_of_ofInt? {n : Int} (h : (ofInt? n).isSome = true) : n.natAbs.log2 < 1024 := by
  by_contra hlog
  have hn : n ≠ 0 := by
    rintro rfl
    exact hlog (by decide)
  have hlarge : 2 ^ 52 ≤ n.natAbs := (Nat.le_log2 (Int.natAbs_ne_zero.mpr hn)).mp (by omega)
  have hrounded : n.natAbs.log2 ≤ (rounded n).natAbs.log2 := by
    have hle := two_pow_log2_le_rounded hlarge
    exact (Nat.le_log2 (Nat.ne_of_gt (Nat.lt_of_lt_of_le (Nat.two_pow_pos _) hle))).mpr hle
  have hfits : ¬ FitsBinary64 (.ofInt (rounded n)) := fun fits => by
    have hbits := log2_lt_of_fits fits
    omega
  rw [ofInt?, nearest_natAbs hn, ofDyadic, dif_neg hfits] at h
  cases h

end Binary64

end Rulebook
