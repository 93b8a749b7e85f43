import Rulebook.Proofs.Number.Numeral
import Rulebook.Proofs.Rule.Bounds

/-!
Numerals under the rules that compare numbers. Such a rule looks at a value only through the number that the value
is or spells, so an integer and its text have one verdict of each. A row of digits has the verdicts of the integer
that it denotes, as long as it is read as that integer; a row that is too long for this has those of the nearest
float, and passes every bound if there is none.
-/

namespace Rulebook

/-- The keywords of the rules that bound a number or ask for a multiple. -/
def Keyword.numeric : List Keyword :=
  [.minimum, .exclusiveMinimum, .maximum, .exclusiveMaximum, .multipleOf, .min, .max]

/-- A rule that compares a value with numbers: one of a numeric keyword, a constant that is a number, or a choice
between numbers. -/
inductive Rule.Numeric : Rule → Prop
  | keyword {k : Keyword} {excluding : Bool} {param : Value} {r : Rule} (numeric : k ∈ Keyword.numeric)
      (made : (k.make excluding param).result = .ok r) : Numeric r
  | constant {p : Number} {r : Rule} (made : (Keyword.const.make false (.number p)).result = .ok r) : Numeric r
  | choice {ps : List Number} {r : Rule}
      (made : (Keyword.enum.make false (.list (ps.map .number))).result = .ok r) : Numeric r

/-! ### Numbers as values -/

namespace Number

/-- What equals a usable number is usable. -/
theorem Usable.of_eq {a b : Number} (h : a.eq b = true) (hb : b.Usable) : a.Usable := by
  cases a with
  | float x => exact usable_float_iff.mpr (isNaN_of_eq h)
  | int z =>
    rw [usable_int_iff]
    cases b with
    | float y =>
      rw [Binary64.ofInt?_of_fits (fits_of_int_eq h)]
      rfl
    | int w =>
      obtain rfl : z = w := Option.some.inj (toInt?_eq_some_iff.mpr h)
      exact usable_int_iff.mp hb

end Number

namespace Value

variable {v w : Value} {n : Number}

theorem isList_of_toNumber? (h : v.toNumber? = .ok (some n)) : v.isList = false := by
  rcases toNumber?_eq_some_iff.mp h with ⟨rfl, -⟩ | ⟨s, rfl, -⟩ <;> rfl

/-- A listed number is met by the values that are or spell a number equal to it. -/
theorem looselyEqual_number (p : Number) (husable : n.Usable) (hv : v.toNumber? = .ok (some n)) :
    (Value.number p).looselyEqual v = (Value.number p).number?.map fun p? => p?.any (n.eq ·) := by
  unfold looselyEqual
  split
  · next hequal =>
    -- exactly equal values are numbers, and the listed one is as usable as the other
    rcases toNumber?_eq_some_iff.mp hv with ⟨rfl, -⟩ | ⟨s, rfl, -⟩
    · have heq : p.eq n = true := by simpa [Value.equal, Scalar.equal] using hequal
      rw [number?_of_usable (husable.of_eq heq)]
      exact congrArg Except.ok (Number.eq_symm heq).symm
    · simp [Value.equal, Scalar.equal] at hequal
  · rw [hv]
    rcases (Value.number p).number? with f | _ | q <;> rfl

end Value

/-! ### One number, one verdict -/

namespace Leaf

variable {v w : Value}

theorem anyEqual_congr {allowed : List Value}
    (h : ∀ a ∈ allowed, a.looselyEqual v = a.looselyEqual w) : anyEqual allowed v = anyEqual allowed w := by
  induction allowed with
  | nil => rfl
  | cons a rest ih =>
    rw [anyEqual, anyEqual, h a (List.mem_cons_self ..), ih fun b hb => h b (List.mem_cons_of_mem a hb)]

end Leaf

namespace Rule

/-- Values that are or spell one usable number have one verdict of a rule. -/
def ReadsNumber (r : Rule) : Prop :=
  ∀ ⦃v w : Value⦄ ⦃n : Number⦄, n.Usable → v.toNumber? = .ok (some n) → w.toNumber? = .ok (some n) →
    ∀ invert, r.verdict v invert = r.verdict w invert

theorem readsNumber_null : null.ReadsNumber := fun _ _ _ _ _ _ _ => rfl

theorem readsNumber_limit (side : Side) (style : LimitStyle) (bound : Number) :
    (leaf (.limit side style bound)).ReadsNumber := by
  intro v w n _ hv hw invert
  rw [Leaf.limit_verdict, Leaf.limit_verdict, Value.isEmpty_of_toNumber? hv, Value.isEmpty_of_toNumber? hw,
    hv, hw]

theorem readsNumber_divisor (d : Number) : (leaf (.divisor d)).ReadsNumber := by
  intro v w n _ hv hw invert
  rw [Leaf.divisor_verdict, Leaf.divisor_verdict, Value.isEmpty_of_toNumber? hv,
    Value.isEmpty_of_toNumber? hw, hv, hw]

theorem readsNumber_bound (side : Side) (param : Value) (bound : Number) :
    (fixed (.bound side param bound)).ReadsNumber := by
  intro v w n husable hv hw invert
  rw [Fixed.bound_verdict, Fixed.bound_verdict]
  exact readsNumber_limit side .including bound husable hv hw false

theorem readsNumber_constant (p : Number) : (leaf (.constant (.number p))).ReadsNumber := by
  intro v w n husable hv hw invert
  rw [Leaf.constant_verdict, Leaf.constant_verdict, Value.isEmpty_of_toNumber? hv,
    Value.isEmpty_of_toNumber? hw, Value.looselyEqual_number p husable hv, Value.looselyEqual_number p husable hw]

theorem readsNumber_choice (ps : List Number) : (leaf (.choice (ps.map .number))).ReadsNumber := by
  intro v w n husable hv hw invert
  rw [Leaf.choice_verdict (Value.isList_of_toNumber? hv), Leaf.choice_verdict (Value.isList_of_toNumber? hw),
    Value.isEmpty_of_toNumber? hv, Value.isEmpty_of_toNumber? hw, Leaf.anyEqual_congr fun a ha => ?_]
  obtain ⟨p, -, rfl⟩ := List.mem_map.mp ha
  rw [Value.looselyEqual_number p husable hv, Value.looselyEqual_number p husable hw]

end Rule

namespace Keyword

/-- A numeric keyword makes a rule that looks at a value through its number. -/
theorem make_readsNumber {k : Keyword} (numeric : k ∈ Keyword.numeric) (excluding : Bool) (param : Value) :
    Run.Ensures Rule.ReadsNumber (k.make excluding param) := by
  cases k with
  | multipleOf => exact makeDivisor_ensures Rule.readsNumber_null fun d _ => Rule.readsNumber_divisor d
  | min | max => exact makeFixedBound_ensures Rule.readsNumber_null (Rule.readsNumber_bound _) _ param
  | minimum | exclusiveMinimum | maximum | exclusiveMaximum =>
    exact bounded_ensures Rule.readsNumber_null (fun n _ => Rule.readsNumber_limit _ _ n) _
  | _ => exact absurd numeric (by decide)

end Keyword

theorem Rule.Numeric.readsNumber {r : Rule} (h : r.Numeric) : r.ReadsNumber := by
  cases h with
  | keyword numeric made => exact Keyword.make_readsNumber numeric _ _ _ made
  | constant made =>
    cases made
    exact readsNumber_constant _
  | choice made =>
    cases made
    exact readsNumber_choice _

/-- An integer that has a float near it and its text are interchangeable: the text is taken to that integer, as a
number and as an integer, and each rule that compares numbers has one verdict on both. -/
theorem Value.numeral_interchangeable (n : Int) (h : (Binary64.ofInt? n).isSome = true) :
    ∃ s, (Value.int n).coerce .string = .ok (some (.text s)) ∧
      (Value.text s).coerce .number = .ok (some (.int n)) ∧
      (Value.text s).coerce .integer = .ok (some (.int n)) ∧
      ∀ r : Rule, r.Numeric → ∀ invert, r.verdict (.int n) invert = r.verdict (.text s) invert := by
  have husable : (Number.int n).Usable := Number.usable_int_iff.mpr h
  have hnumber : (Value.int n).toNumber? = .ok (some (.int n)) := number?_of_usable husable
  have htext : (Value.text (toString n)).toNumber? = .ok (some (.int n)) := congrArg Except.ok (ofText?_toString h)
  refine ⟨toString n, ?_, ?_, ?_, fun r hr => hr.readsNumber husable hnumber htext⟩
  · show (do return (← (Value.int n).number?).map fun m : Number => Value.text m.text) = _
    rw [number?_of_usable husable]
    rfl
  · rw [coerce_number, htext]
    rfl
  · rw [coerce_integer, htext]
    rfl

/-- A negative integer under a least value. -/
theorem Value.numeral_interchangeable_minus_twelve : (Binary64.ofInt? (-12)).isSome = true ∧
    ∃ s r, (Value.int (-12)).coerce .string = .ok (some (.text s)) ∧
      (Value.text s).coerce .number = .ok (some (.int (-12))) ∧
      Keyword.minimum.make false (.int 5) = .ret r ∧ r.verdict (.int (-12)) false = .ok false ∧
      r.verdict (.text s) false = .ok false := by
  have hsome : (Binary64.ofInt? (-12)).isSome = true := rfl
  obtain ⟨s, hstring, hnumber, -, hverdict⟩ := numeral_interchangeable (-12) hsome
  have hmade : Keyword.minimum.make false (.int 5) = .ret (.leaf (.limit .least .including (.int 5))) := rfl
  have hrefused : (Rule.leaf (.limit .least .including (.int 5))).verdict (.int (-12)) false = .ok false := rfl
  refine ⟨hsome, s, _, hstring, hnumber, hmade, hrefused, ?_⟩
  rw [← hverdict _ (.keyword (k := .minimum) (by decide) (congrArg Run.result hmade)) false]
  exact hrefused

/-! ### Digits of any length -/

section Digits

variable {side : Side} {b z : Int} {v : Value} {m : Number}

/-- A limit decides a value that is or spells a number equal to an integer as that integer. -/
theorem Leaf.limit_verdict_of_eq (hv : v.toNumber? = .ok (some m)) (heq : m.eq (.int z) = true) :
    (Rule.leaf (.limit side .including (.int b))).verdict v false =
      .ok (side.admits false (.int b) (.int z)) := by
  rw [limit_verdict, Value.isEmpty_of_toNumber? hv, hv]
  show Except.ok (differ (side.admits false (.int b) m) false) = _
  rw [differ_false]
  cases side with
  | least => exact congrArg Except.ok (Number.compareBy_congr_right _ heq)
  | greatest => exact congrArg Except.ok (Number.compareBy_congr_left _ heq)

/-- A limit admits a present value that is and spells no number. -/
theorem Leaf.limit_verdict_of_none {bound : Number} (hv : v.toNumber? = .ok none) :
    (Rule.leaf (.limit side .including bound)).verdict v false = .ok true := by
  rw [limit_verdict, hv]
  cases v.isEmpty <;> rfl

/-- The float nearest to an integer equals the rounded integer. -/
theorem Number.float_eq_rounded {x : Binary64} (h : Binary64.ofInt? z = some x) :
    (Number.float x).eq (.int (Binary64.rounded z)) = true := by
  refine Number.eq_iff.mpr ⟨.dyadic (.ofInt (Binary64.rounded z)), ?_, rfl⟩
  have hvalue := Binary64.value?_of_ofInt? h
  generalize Dyadic.ofInt (Binary64.rounded z) = d at hvalue ⊢
  rcases x with _ | _ | _ | _ <;> cases hvalue <;> rfl

end Digits

/-- The text of a power of ten. -/
def powerOfTen (k : Nat) : String := String.ofList ('1' :: List.replicate k '0')

theorem toList_powerOfTen (k : Nat) : (powerOfTen k).toList = '1' :: List.replicate k '0' := String.toList_ofList

theorem powerOfTen_present (k : Nat) : powerOfTen k ≠ "" := by
  intro h
  have hlist := toList_powerOfTen k
  rw [h] at hlist
  cases hlist

theorem powerOfTen_digits (k : Nat) : ∀ c ∈ (powerOfTen k).toList, c.isDigit = true := by
  intro c hc
  rw [toList_powerOfTen] at hc
  rcases List.mem_cons.mp hc with rfl | hc
  · rfl
  · rw [List.eq_of_mem_replicate hc]
    rfl

theorem length_powerOfTen (k : Nat) : (powerOfTen k).length = k + 1 := by
  rw [← String.length_toList, toList_powerOfTen, List.length_cons, List.length_replicate]

theorem powerOfTen_denotes (k : Nat) : Nat.ofDigitChars 10 (powerOfTen k).toList 0 = 10 ^ k := by
  rw [toList_powerOfTen, Nat.ofDigitChars_cons, Nat.ofDigitChars_replicate_zero]
  exact Nat.mul_one _

theorem ofInt?_ten_pow {k : Nat} (h : 400 ≤ k) : Binary64.ofInt? ((10 ^ k : Nat) : Int) = none := by
  have hpos : 10 ^ k ≠ 0 := Nat.ne_of_gt (Nat.pow_pos (by decide))
  exact Binary64.ofInt?_of_long hpos (Nat.lt_of_le_of_lt h ((lt_length_toDigits_iff hpos).mpr le_rfl))

/-- A power of ten with more digits than are read as an integer passes every limit. -/
theorem Leaf.limit_admits_powerOfTen {k : Nat} (h : maxDigits ≤ k) (side : Side) (bound : Number) :
    (Rule.leaf (.limit side .including bound)).verdict (.text (powerOfTen k)) false = .ok true := by
  refine limit_verdict_of_none (congrArg Except.ok ?_)
  rw [ofText?_of_digits (powerOfTen_present k) (powerOfTen_digits k), length_powerOfTen,
    if_pos (Nat.lt_succ_of_le h), powerOfTen_denotes, ofInt?_ten_pow (Nat.le_trans (by decide) h)]
  rfl

/-- A row of digits under a greatest and a least value. With at most `maxDigits` digits, or where a float holds the
integer that it denotes, it is compared as that integer. A longer one is compared as the integer rounded to a float,
and passes both, whatever they are, when no float is near it. -/
theorem Keyword.limits_of_digits (s : String) (n : Nat) (b : Int) (present : s ≠ "")
    (digits : ∀ c ∈ s.toList, c.isDigit = true) (denotes : Nat.ofDigitChars 10 s.toList 0 = n)
    (hb : (Binary64.ofInt? b).isSome = true) :
    ∃ greatest least, Keyword.maximum.make false (.int b) = .ret greatest ∧
      Keyword.minimum.make false (.int b) = .ret least ∧
      (s.length ≤ maxDigits ∨ FitsBinary64 (.ofInt n) →
        greatest.verdict (.text s) false = .ok (decide (n ≤ b)) ∧
        least.verdict (.text s) false = .ok (decide (b ≤ n))) ∧
      (maxDigits < s.length → (Binary64.ofInt? n).isSome = true →
        greatest.verdict (.text s) false = .ok (decide (Binary64.rounded n ≤ b)) ∧
        least.verdict (.text s) false = .ok (decide (b ≤ Binary64.rounded n))) ∧
      (maxDigits < s.length → Binary64.ofInt? n = none →
        greatest.verdict (.text s) false = .ok true ∧ least.verdict (.text s) false = .ok true) := by
  have husable : (Number.int b).Usable := Number.usable_int_iff.mpr hb
  have hgreatest : Keyword.maximum.make false (.int b) = .ret (.leaf (.limit .greatest .including (.int b))) :=
    bounded_of_usable _ _ husable
  have hleast : Keyword.minimum.make false (.int b) = .ret (.leaf (.limit .least .including (.int b))) :=
    bounded_of_usable _ _ husable
  have hread := ofText?_of_digits present digits
  rw [denotes] at hread
  have hequal {z : Int} {m : Number} (hm : Number.ofText? s = some m) (heq : m.eq (.int z) = true) :
      (Rule.leaf (.limit .greatest .including (.int b))).verdict (.text s) false = .ok (decide (z ≤ b)) ∧
      (Rule.leaf (.limit .least .including (.int b))).verdict (.text s) false = .ok (decide (b ≤ z)) := by
    have hv : (Value.text s).toNumber? = .ok (some m) := congrArg Except.ok hm
    rw [Leaf.limit_verdict_of_eq hv heq, Leaf.limit_verdict_of_eq hv heq]
    exact ⟨congrArg Except.ok (Number.int_le_int z b), congrArg Except.ok (Number.int_le_int b z)⟩
  have hrounded (hlong : maxDigits < s.length) (hn : (Binary64.ofInt? n).isSome = true) :
      (Rule.leaf (.limit .greatest .including (.int b))).verdict (.text s) false =
        .ok (decide (Binary64.rounded n ≤ b)) ∧
      (Rule.leaf (.limit .least .including (.int b))).verdict (.text s) false =
        .ok (decide (b ≤ Binary64.rounded n)) := by
    obtain ⟨x, hx⟩ := Option.isSome_iff_exists.mp hn
    rw [if_pos hlong, hx] at hread
    exact hequal hread (Number.float_eq_rounded hx)
  refine ⟨_, _, hgreatest, hleast, fun hexact => ?_, hrounded, fun hlong hn => ?_⟩
  · by_cases hlong : maxDigits < s.length
    · have fits : FitsBinary64 (.ofInt n) := hexact.resolve_left (Nat.not_le.mpr hlong)
      have hsome : (Binary64.ofInt? n).isSome = true := by
        rw [Binary64.ofInt?_of_fits fits]
        rfl
      have hverdicts := hrounded hlong hsome
      rwa [Binary64.rounded_of_fits fits] at hverdicts
    · rw [if_neg hlong] at hread
      exact hequal hread (Number.eq_iff.mpr ⟨_, rfl, rfl⟩)
  · rw [if_pos hlong, hn] at hread
    have hv : (Value.text s).toNumber? = .ok none := congrArg Except.ok hread
    exact ⟨Leaf.limit_verdict_of_none hv, Leaf.limit_verdict_of_none hv⟩

/-- A hundred is at most a hundred, and a power of ten that is too long for an integer is at least it. -/
theorem Keyword.limits_of_digits_powers :
    (∃ r, Keyword.maximum.make false (.int 100) = .ret r ∧ r.verdict (.text (powerOfTen 2)) false = .ok true) ∧
    ∃ r, Keyword.minimum.make false (.int 100) = .ret r ∧
      r.verdict (.text (powerOfTen maxDigits)) false = .ok true := by
  constructor
  · obtain ⟨r, least, made, -, hexact, -⟩ := limits_of_digits (powerOfTen 2) 100 100 (powerOfTen_present _)
      (powerOfTen_digits _) (powerOfTen_denotes _) rfl
    refine ⟨r, made, (hexact (.inl ?_)).1⟩
    rw [length_powerOfTen]
    decide
  · obtain ⟨greatest, r, -, made, -, -, hfar⟩ := limits_of_digits (powerOfTen maxDigits) (10 ^ maxDigits) 100
      (powerOfTen_present _) (powerOfTen_digits _) (powerOfTen_denotes _) rfl
    refine ⟨r, made, (hfar ?_ (ofInt?_ten_pow (by decide))).2⟩
    rw [length_powerOfTen]
    exact Nat.lt_succ_self _

/-- With one digit more than are read as an integer a power of ten passes a greatest value of five. -/
theorem Keyword.maximum_admits_power_of_ten :
    ∃ r, Keyword.maximum.make false (.int 5) = .ret r ∧ (Binary64.ofInt? 5).isSome = true ∧
      (powerOfTen maxDigits).length = 4301 ∧ (∀ c ∈ (powerOfTen maxDigits).toList, c.isDigit = true) ∧
      (5 : Int) < (Nat.ofDigitChars 10 (powerOfTen maxDigits).toList 0 : Nat) ∧
      r.verdict (.text (powerOfTen maxDigits)) false = .ok true := by
  have hlarge : 5 < 10 ^ maxDigits :=
    calc 5 < 10 ^ 1 := by decide
      _ ≤ 10 ^ maxDigits := Nat.pow_le_pow_right (by decide) (by decide)
  refine ⟨_, bounded_of_usable _ _ (Number.usable_int_iff.mpr rfl), rfl, length_powerOfTen _, powerOfTen_digits _,
    ?_, Leaf.limit_admits_powerOfTen le_rfl _ _⟩
  rw [powerOfTen_denotes]
  exact Int.ofNat_lt.mpr hlarge

end Rulebook
