import Rulebook.Number.Literal
import Rulebook.Proofs.Number.Rounding

/-!
Numerals. A row of digits, with or without a minus before it, is read as the integer that it denotes while it has
at most `maxDigits` digits. A longer row is read as the float nearest to that integer, if there is one, and as no
number if there is none. The text of an integer that has a float near it is short enough to be read back.
-/

namespace Rulebook

/-! ### Digits -/

theorem toNat_of_isDigit {c : Char} (h : c.isDigit = true) : 48 ≤ c.toNat ∧ c.toNat ≤ 57 := by
  rw [Char.isDigit, Bool.and_eq_true_iff, decide_eq_true_iff, decide_eq_true_iff] at h
  exact ⟨UInt32.le_iff_toNat_le.mp h.1, UInt32.le_iff_toNat_le.mp h.2⟩

theorem digitValue?_of_isDigit {c : Char} (h : c.isDigit = true) :
    digitValue? c = some (c.toNat - '0'.toNat) := by
  have hsmall : c.toNat < 0x80 := lt_of_le_of_lt (toNat_of_isDigit h).2 (by decide)
  unfold digitValue?
  rw [if_pos hsmall, if_pos h]
  rfl

theorem digitsValue_eq_ofDigitChars {ds : List Char} (digits : ∀ c ∈ ds, c.isDigit = true) :
    digitsValue ds = Nat.ofDigitChars 10 ds 0 := by
  rw [digitsValue, Nat.ofDigitChars_eq_foldl]
  refine List.foldl_ext _ _ 0 fun n c hc => ?_
  rw [digitValue?_of_isDigit (digits c hc)]
  rfl

theorem digits_toDigits (n : Nat) : ∀ c ∈ Nat.toDigits 10 n, c.isDigit = true :=
  fun _ hc => Nat.isDigit_of_mem_toDigits (by decide) (by decide) hc

/-- The digits of a number denote it. -/
theorem digitsValue_toDigits (n : Nat) : digitsValue (Nat.toDigits 10 n) = n := by
  rw [digitsValue_eq_ofDigitChars (digits_toDigits n), Nat.ofDigitChars_ten_toDigits]

theorem toList_toString (n : Int) :
    (toString n).toList = if n < 0 then '-' :: Nat.toDigits 10 n.natAbs else Nat.toDigits 10 n.natAbs := by
  cases n with
  | ofNat n =>
    show n.repr.toList = _
    rw [Nat.toList_repr]
    rfl
  | negSucc n =>
    show ("-" ++ (n + 1).repr).toList = _
    rw [String.toList_append, Nat.toList_repr, if_pos (Int.negSucc_lt_zero n)]
    rfl

/-- An integer with a float near it is short enough to be read and written as one. -/
theorem length_toDigits_le {n : Int} (h : (Binary64.ofInt? n).isSome = true) :
    (Nat.toDigits 10 n.natAbs).length ≤ maxDigits := by
  have hbits := Binary64.log2_lt_of_ofInt? h
  have hmax : n.natAbs.log2 + 1 ≤ maxDigits := by
    unfold maxDigits
    omega
  refine (Nat.length_toDigits_le_iff (by decide) (by decide)).mpr ?_
  calc n.natAbs < 2 ^ (n.natAbs.log2 + 1) := Nat.lt_log2_self
    _ ≤ 10 ^ (n.natAbs.log2 + 1) := Nat.pow_le_pow_left (by decide) _
    _ ≤ 10 ^ maxDigits := Nat.pow_le_pow_right (by decide) hmax

/-! ### Texts without blanks and low lines -/

/-- Characters that are read as they stand: none is a blank or a low line. -/
def Plain (cs : List Char) : Prop := ∀ c ∈ cs, isBlank c = false ∧ c ≠ '_'

theorem plain_of_digits {ds : List Char} (digits : ∀ c ∈ ds, c.isDigit = true) : Plain ds := by
  intro c hc
  have hrange := toNat_of_isDigit (digits c hc)
  constructor
  · simp only [isBlank, blankRanges, List.any_cons, List.any_nil, Bool.or_false, Bool.or_eq_false_iff,
      Bool.and_eq_false_iff, decide_eq_false_iff_not]
    omega
  · rintro rfl
    exact absurd hrange.2 (by decide)

theorem trimBlanks_of_plain {cs : List Char} (plain : Plain cs) : trimBlanks cs = cs := by
  have hkeep {ds : List Char} (h : ∀ c ∈ ds, isBlank c = false) : ds.dropWhile isBlank = ds := by
    cases ds with
    | nil => rfl
    | cons c rest => rw [List.dropWhile_cons, h c (List.mem_cons_self ..), if_neg Bool.false_ne_true]
  rw [trimBlanks, hkeep fun c hc => (plain c hc).1,
    hkeep fun c hc => (plain c (List.mem_reverse.mp hc)).1, List.reverse_reverse]

theorem joinDigits_of_plain {cs : List Char} (plain : Plain cs) (afterDigit : Bool) :
    joinDigits afterDigit cs = cs := by
  induction cs generalizing afterDigit with
  | nil => rfl
  | cons c rest ih =>
    have hc : (c == '_') = false := beq_false_of_ne (plain c (List.mem_cons_self ..)).2
    rw [joinDigits, hc, Bool.false_and, Bool.false_and, if_neg Bool.false_ne_true,
      ih fun d hd => plain d (List.mem_cons_of_mem c hd)]

/-- A plain text is read as an integer if it is one, else as a finite float. -/
theorem ofText?_of_plain {s : String} (plain : Plain s.toList) :
    Number.ofText? s = match integerOf? s.toList with
      | some n => some (.int n)
      | none => match decimalOf? s.toList with
        | some (.infinity _) | none => none
        | some x => some (.float x) := by
  unfold Number.ofText?
  generalize hread : joinDigits false (trimBlanks s.toList) = cs
  rw [trimBlanks_of_plain plain, joinDigits_of_plain plain] at hread
  subst hread
  rfl

/-! ### Rows of digits -/

section Digits

variable {ds : List Char} (present : ds ≠ []) (digits : ∀ c ∈ ds, c.isDigit = true)

include digits in
theorem all_isDecimalDigit : ds.all isDecimalDigit = true := by
  refine List.all_eq_true.mpr fun c hc => ?_
  rw [isDecimalDigit, digitValue?_of_isDigit (digits c hc)]
  rfl

include present digits in
theorem takeSign_of_digits : takeSign ds = (false, ds) := by
  obtain ⟨c, rest, rfl⟩ := List.exists_cons_of_ne_nil present
  have hc := digits c (List.mem_cons_self ..)
  unfold takeSign
  split
  · next heq =>
    cases heq
    cases hc
  · next heq =>
    cases heq
    cases hc
  · rfl

include present digits in
/-- A row of digits after its sign is an integer, unless it is too long. -/
theorem integerOf?_of_takeSign {cs : List Char} {negative : Bool} (sign : takeSign cs = (negative, ds)) :
    integerOf? cs = if maxDigits < ds.length then none
      else some (if negative then -(Nat.ofDigitChars 10 ds 0 : Int) else Nat.ofDigitChars 10 ds 0) := by
  have hempty : ds.isEmpty = false := List.isEmpty_eq_false_iff.mpr present
  unfold integerOf?
  simp only [sign, hempty, all_isDecimalDigit digits, digitsValue_eq_ofDigitChars digits, Bool.not_true,
    Bool.false_or, decide_eq_true_iff]

include present digits in
theorem decimalOf?_of_digits :
    decimalOf? ds = some (.ofDecimal false (Nat.ofDigitChars 10 ds 0) 0) := by
  have hall := List.all_eq_true.mp (all_isDecimalDigit digits)
  have hspan : ds.span isDecimalDigit = (ds, []) := by
    rw [List.span_eq_takeWhile_dropWhile, List.takeWhile_eq_self_iff.mpr hall,
      List.dropWhile_eq_nil_iff.mpr hall]
  have hempty : ds.isEmpty = false := List.isEmpty_eq_false_iff.mpr present
  unfold decimalOf?
  simp only [takeSign_of_digits present digits, hspan, takeFraction, hempty, Bool.false_and,
    List.append_nil, digitsValue_eq_ofDigitChars digits]
  rfl

end Digits

theorem lt_length_toDigits_iff {n k : Nat} (hn : n ≠ 0) : k < (Nat.toDigits 10 n).length ↔ 10 ^ k ≤ n := by
  rcases Nat.eq_zero_or_pos k with rfl | hk
  · exact iff_of_true (List.length_pos_of_ne_nil Nat.toDigits_ne_nil) (Nat.one_le_iff_ne_zero.mpr hn)
  · rw [← Nat.not_le, Nat.length_toDigits_le_iff (by decide) hk, Nat.not_lt]

/-- Each digit after the first adds three bits and more. -/
theorem three_mul_le_log2 {n k : Nat} (hn : n ≠ 0) (h : 10 ^ k ≤ n) : 3 * k ≤ n.log2 := by
  refine (Nat.le_log2 hn).mpr ?_
  calc 2 ^ (3 * k) = 8 ^ k := pow_mul 2 3 k
    _ ≤ 10 ^ k := Nat.pow_le_pow_left (by decide) k
    _ ≤ n := h

/-- No float is near a number of more than 400 digits. -/
theorem Binary64.ofInt?_of_long {n : Nat} (hn : n ≠ 0) (h : 400 < (Nat.toDigits 10 n).length) :
    ofInt? n = none := by
  refine Option.not_isSome_iff_eq_none.mp fun hsome => ?_
  have hbits := log2_lt_of_ofInt? hsome
  have hlog := three_mul_le_log2 hn ((lt_length_toDigits_iff hn).mp h)
  rw [Int.natAbs_natCast] at hbits
  omega

/-- A whole decimal is the float nearest to that number, infinite where there is none. -/
theorem Binary64.ofInt?_eq_ofDecimal (n : Nat) : ofInt? n = match ofDecimal false n 0 with
    | .infinity _ => none
    | x => some x := by
  by_cases hn : n = 0
  · subst hn
    rfl
  have hsmall : ¬ (n = 0 ∨ ((Nat.toDigits 10 n).length : Int) + 0 < -400) := by omega
  unfold ofDecimal
  dsimp only
  rw [if_neg hsmall]
  by_cases hlong : (400 : Int) < (Nat.toDigits 10 n).length + 0
  · rw [if_pos hlong]
    exact ofInt?_of_long hn (by omega)
  · have hsign : decide ((n : Int) < 0) = false := decide_eq_false (Int.not_lt.mpr (Int.natCast_nonneg n))
    have hnearest : nearest false (n * tenTo (0 : Int).toNat) (tenTo (-(0 : Int)).toNat) =
        nearest (decide ((n : Int) < 0)) (n : Int).natAbs 1 := by
      rw [hsign, Int.natAbs_natCast, show tenTo (0 : Int).toNat = 1 from rfl,
        show tenTo (-(0 : Int)).toNat = 1 from rfl, Nat.mul_one]
    rw [if_neg hlong, hnearest]
    rfl

/-- A row of digits is read as the integer that it denotes, and as the float nearest to it when it is too long to
be an integer. -/
theorem ofText?_of_digits {s : String} (present : s ≠ "") (digits : ∀ c ∈ s.toList, c.isDigit = true) :
    Number.ofText? s = if maxDigits < s.length
      then (Binary64.ofInt? (Nat.ofDigitChars 10 s.toList 0)).map .float
      else some (.int (Nat.ofDigitChars 10 s.toList 0)) := by
  have hpresent : s.toList ≠ [] := fun h => present (String.toList_eq_nil_iff.mp h)
  rw [ofText?_of_plain (plain_of_digits digits),
    integerOf?_of_takeSign hpresent digits (takeSign_of_digits hpresent digits),
    decimalOf?_of_digits hpresent digits, Binary64.ofInt?_eq_ofDecimal, String.length_toList]
  by_cases hlong : maxDigits < s.length
  · rw [if_pos hlong, if_pos hlong]
    cases Binary64.ofDecimal false (Nat.ofDigitChars 10 s.toList 0) 0 <;> rfl
  · rw [if_neg hlong, if_neg hlong]
    rfl

/-- The text of an integer that has a float near it is read as that integer. -/
theorem ofText?_toString {n : Int} (h : (Binary64.ofInt? n).isSome = true) :
    Number.ofText? (toString n) = some (.int n) := by
  have hpresent := Nat.toDigits_ne_nil (n := n.natAbs) (b := 10)
  have hdigits := digits_toDigits n.natAbs
  have hplain : Plain (toString n).toList := by
    rw [toList_toString]
    split
    · rintro c (_ | ⟨_, hc⟩)
      · decide
      · exact plain_of_digits hdigits c hc
    · exact plain_of_digits hdigits
  have hsign : takeSign (toString n).toList = (decide (n < 0), Nat.toDigits 10 n.natAbs) := by
    rw [toList_toString]
    split
    · next hn => rw [decide_eq_true hn, takeSign]
    · next hn => rw [decide_eq_false hn, takeSign_of_digits hpresent hdigits]
  rw [ofText?_of_plain hplain, integerOf?_of_takeSign hpresent hdigits hsign,
    if_neg (Nat.not_lt.mpr (length_toDigits_le h)), Nat.ofDigitChars_ten_toDigits]
  have hvalue : (if decide (n < 0) then -(n.natAbs : Int) else n.natAbs) = n := by
    simp only [decide_eq_true_iff]
    split <;> omega
  rw [hvalue]

end Rulebook
