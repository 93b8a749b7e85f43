import Rulebook.Proofs.Number.Order
import Rulebook.Proofs.Value.Reading

/-!
Coercion. What a value is taken to is of the kind that it is taken to and is taken to itself, with one exception:
a text can spell an integer that no float is near, and that integer is then refused as a number. An integer is what
a value is taken to when the number that it is taken to equals that integer. A truth value is read back from its
text.
-/

namespace Rulebook

/-! ### Usable numbers -/

namespace Number

variable {a n : Number}

/-- A number that can be used as one: a float that is not indefinite, or an integer with a float near it. -/
def Usable (n : Number) : Prop := n.isDefinite = .ok true

theorem usable_int_iff {z : Int} : (int z).Usable ↔ (Binary64.ofInt? z).isSome = true := by
  show (if (Binary64.ofInt? z).isSome then _ else _) = _ ↔ _
  split <;> simp [*]

theorem usable_float_iff {x : Binary64} : (float x).Usable ↔ x.isNaN = false := by
  show Except.ok (!x.isNaN) = _ ↔ _
  cases x.isNaN <;> simp

theorem Usable.isNaN (h : n.Usable) : n.isNaN = false := by
  have hn := isDefinite_ok h
  simpa using hn.symm

/-- A number that is not indefinite is usable, or it is an integer too large for a float. -/
theorem usable_or_large (h : n.isNaN = false) :
    n.Usable ∨ ∃ z, n = .int z ∧ Binary64.ofInt? z = none := by
  cases n with
  | float x => exact .inl (usable_float_iff.mpr h)
  | int z =>
    cases hz : Binary64.ofInt? z with
    | none => exact .inr ⟨z, rfl, hz⟩
    | some x => exact .inl (usable_int_iff.mpr (by rw [hz]; rfl))

/-! ### Whole numbers -/

/-- The whole number that a number is, if it is one, is the integer that it equals. -/
theorem toInt?_eq_some_iff {z : Int} : a.toInt? = some z ↔ a.eq (.int z) = true := by
  rw [toInt?_eq_bind, eq_iff]
  constructor
  · intro h
    obtain ⟨place, hplace, hwhole⟩ := Option.bind_eq_some_iff.mp h
    cases place with
    | dyadic d =>
      have hd : d = .ofInt z := by
        rw [← Dyadic.toRat_inj, Dyadic.toRat_of_whole? hwhole, Dyadic.toRat_ofInt]
      exact ⟨_, hplace, congrArg (some ∘ Extended.dyadic) hd.symm⟩
    | bottom => cases hwhole
    | top => cases hwhole
  · rintro ⟨place, hplace, hz⟩
    cases hz
    rw [hplace]
    exact Dyadic.whole?_ofInt z

/-- The whole number that a float is has a float near it. -/
theorem usable_of_toInt?_float {x : Binary64} {z : Int} (h : x.toInt? = some z) : (int z).Usable := by
  have heq : (int z).eq (float x) = true := eq_symm (toInt?_eq_some_iff.mp h)
  rw [usable_int_iff, Binary64.ofInt?_of_fits (fits_of_int_eq heq)]
  rfl

end Number

/-! ### Numbers read from texts -/

theorem Binary64.nearest_ne_nan (negative : Bool) (num den : Nat) : nearest negative num den ≠ .nan := by
  have hdyadic (x : Dyadic) : ofDyadic x ≠ .nan := by
    unfold ofDyadic
    split <;> simp
  unfold nearest
  split
  · simp
  · exact hdyadic _
  · exact hdyadic _

theorem decimalOf?_ne_nan (cs : List Char) : decimalOf? cs ≠ some .nan := by
  have hdecimal (negative : Bool) (digits : Nat) (exponent : Int) :
      Binary64.ofDecimal negative digits exponent ≠ .nan := by
    unfold Binary64.ofDecimal
    dsimp only
    split
    · exact Binary64.nearest_ne_nan _ _ _
    · split
      · simp
      · exact Binary64.nearest_ne_nan _ _ _
  unfold decimalOf?
  dsimp only
  split
  · simp
  · intro h
    obtain ⟨e, -, he⟩ := Option.map_eq_some_iff.mp h
    exact hdecimal _ _ _ he

theorem Number.isNaN_of_ofText? {s : String} {n : Number} (h : Number.ofText? s = some n) :
    n.isNaN = false := by
  unfold Number.ofText? at h
  dsimp only at h
  split at h
  · cases h
    rfl
  · split at h
    · cases h
    · cases h
    · next x _ hx =>
      cases h
      cases x with
      | nan => exact absurd hx (decimalOf?_ne_nan _)
      | _ => rfl

namespace Value

variable {v r : Value} {n : Number}

theorem number?_of_usable (h : n.Usable) : (Value.number n).number? = .ok (some n) := by
  show (do return if ← n.isDefinite then some n else none) = _
  rw [h]
  rfl

theorem number?_of_large {z : Int} (h : Binary64.ofInt? z = none) :
    (Value.int z).number? = .error .integerTooLarge := by
  show (do return if ← (Number.int z).isDefinite then some _ else none) = _
  rw [Number.isDefinite, h]
  rfl

theorem number?_eq_some_iff : v.number? = .ok (some n) ↔ v = .number n ∧ n.Usable := by
  constructor
  · intro h
    unfold number? at h
    split at h
    · next m =>
      obtain ⟨definite, hdefinite, h⟩ := Except.bind_ok_iff.mp h
      cases definite with
      | false => cases h
      | true =>
        cases h
        exact ⟨rfl, hdefinite⟩
    · cases h
  · rintro ⟨rfl, h⟩
    exact number?_of_usable h

theorem toNumber?_eq_some_iff : v.toNumber? = .ok (some n) ↔
    (v = .number n ∧ n.Usable) ∨ ∃ s, v = .text s ∧ Number.ofText? s = some n := by
  unfold toNumber?
  split
  · simp
  · next h =>
    rw [number?_eq_some_iff]
    refine (or_iff_left ?_).symm
    rintro ⟨s, rfl, -⟩
    exact h s rfl

/-- What is or spells a number is not empty: an empty text spells none. -/
theorem isEmpty_of_toNumber? (h : v.toNumber? = .ok (some n)) : v.isEmpty = false := by
  rcases toNumber?_eq_some_iff.mp h with ⟨rfl, -⟩ | ⟨s, rfl, hs⟩
  · rfl
  · refine Bool.eq_false_of_not_eq_true fun hempty => ?_
    obtain rfl : s = "" := String.isEmpty_iff.mp hempty
    cases hs

/-- What a value is or spells as a number is usable, or a text spells an integer too large for a float. -/
theorem usable_of_toNumber? (h : v.toNumber? = .ok (some n)) :
    n.Usable ∨ ∃ s z, v = .text s ∧ n = .int z ∧ Binary64.ofInt? z = none := by
  rcases toNumber?_eq_some_iff.mp h with ⟨-, husable⟩ | ⟨s, rfl, hs⟩
  · exact .inl husable
  · rcases Number.usable_or_large (Number.isNaN_of_ofText? hs) with husable | ⟨z, rfl, hz⟩
    · exact .inl husable
    · exact .inr ⟨s, z, rfl, rfl, hz⟩

/-! ### Coercions by kind -/

theorem coerce_number : v.coerce .number = v.toNumber?.map (·.map Value.number) := by
  show (do return (← v.toNumber?).map Value.number) = _
  cases v.toNumber? <;> rfl

theorem coerce_integer :
    v.coerce .integer = v.toNumber?.map fun n? => (n?.bind Number.toInt?).map Value.int := by
  show (do return ((← v.toNumber?).bind Number.toInt?).map Value.int) = _
  cases v.toNumber? <;> rfl

theorem text_of_coerce_string (h : v.coerce .string = .ok (some r)) : ∃ s, r = .text s := by
  unfold coerce at h
  dsimp only at h
  split at h
  · cases h
    exact ⟨_, rfl⟩
  · cases h
    exact ⟨_, rfl⟩
  · obtain ⟨n?, -, h⟩ := Except.bind_ok_iff.mp h
    cases n? <;> cases h
    exact ⟨_, rfl⟩

theorem bool_of_coerce_boolean (h : v.coerce .boolean = .ok (some r)) : ∃ b, r = .bool b := by
  obtain ⟨b?, -, h⟩ := Except.bind_ok_iff.mp h
  cases b? <;> cases h
  exact ⟨_, rfl⟩

/-- What a value is taken to as a number. -/
theorem number_of_coerce_number (h : v.coerce .number = .ok (some r)) :
    ∃ n, v.toNumber? = .ok (some n) ∧ r = .number n := by
  rw [coerce_number] at h
  cases hread : v.toNumber? with
  | error f =>
    rw [hread] at h
    cases h
  | ok n? =>
    rw [hread] at h
    cases n? <;> cases h
    exact ⟨_, rfl, rfl⟩

/-- What a value is taken to as an integer is the whole number that it is or spells. -/
theorem int_of_coerce_integer (h : v.coerce .integer = .ok (some r)) :
    ∃ n z, v.toNumber? = .ok (some n) ∧ n.toInt? = some z ∧ r = .int z := by
  rw [coerce_integer] at h
  cases hread : v.toNumber? with
  | error f =>
    rw [hread] at h
    cases h
  | ok n? =>
    rw [hread] at h
    cases n? with
    | none => cases h
    | some n =>
      obtain ⟨z, hz, hr⟩ := Option.map_eq_some_iff.mp (Except.ok.inj h)
      exact ⟨n, z, rfl, hz, hr.symm⟩

/-! ### Values at rest -/

/-- A value is of a kind and is taken to that kind as itself. -/
def Settled (r : Value) (k : Kind) : Prop := r.isKind k = .ok true ∧ r.coerce k = .ok (some r)

/-- An integer too large for a float is refused as a number. -/
def Refused (r : Value) (k : Kind) : Prop :=
  r.isKind k = .error .integerTooLarge ∧ r.coerce k = .error .integerTooLarge

theorem isKind_number (v : Value) : v.isKind .number = do return (← v.number?).isSome := rfl

theorem isKind_integer (v : Value) : v.isKind .integer = do return (← v.number?).any Number.isIntegral := rfl

theorem toNumber?_number (n : Number) : (Value.number n).toNumber? = (Value.number n).number? := rfl

theorem settled_text (s : String) : (Value.text s).Settled .string := ⟨rfl, rfl⟩

theorem settled_bool (b : Bool) : (Value.bool b).Settled .boolean := ⟨rfl, rfl⟩

theorem settled_number (h : n.Usable) : (Value.number n).Settled .number := by
  have hread := number?_of_usable h
  constructor
  · rw [isKind_number, hread]
    rfl
  · rw [coerce_number, toNumber?_number, hread]
    rfl

theorem settled_int {z : Int} (h : (Number.int z).Usable) : (Value.int z).Settled .integer := by
  have hread := number?_of_usable h
  constructor
  · rw [isKind_integer, hread]
    rfl
  · rw [coerce_integer, toNumber?_number, hread]
    rfl

theorem refused_int {z : Int} (h : Binary64.ofInt? z = none) {k : Kind} (hk : k = .number ∨ k = .integer) :
    (Value.int z).Refused k := by
  have hread := number?_of_large h
  rcases hk with rfl | rfl
  · constructor
    · rw [isKind_number, hread]
      rfl
    · rw [coerce_number, toNumber?_number, hread]
      rfl
  · constructor
    · rw [isKind_integer, hread]
      rfl
    · rw [coerce_integer, toNumber?_number, hread]
      rfl

/-- What a value is taken to is at rest, or it is an integer too large for a float that a text spells. -/
theorem settled_or_refused {k : Kind} (h : v.coerce k = .ok (some r)) :
    r.Settled k ∨ r.Refused k ∧ ∃ s z, v = .text s ∧ r = .int z ∧ Binary64.ofInt? z = none := by
  cases k with
  | string =>
    obtain ⟨s, rfl⟩ := text_of_coerce_string h
    exact .inl (settled_text s)
  | boolean =>
    obtain ⟨b, rfl⟩ := bool_of_coerce_boolean h
    exact .inl (settled_bool b)
  | null => cases h
  | number =>
    obtain ⟨n, hread, rfl⟩ := number_of_coerce_number h
    rcases usable_of_toNumber? hread with husable | ⟨s, z, rfl, rfl, hz⟩
    · exact .inl (settled_number husable)
    · exact .inr ⟨refused_int hz (.inl rfl), s, z, rfl, rfl, hz⟩
  | integer =>
    obtain ⟨n, z, hread, hwhole, rfl⟩ := int_of_coerce_integer h
    cases n with
    | float x => exact .inl (settled_int (Number.usable_of_toInt?_float hwhole))
    | int z =>
      cases hwhole
      rcases usable_of_toNumber? hread with husable | ⟨s, z, rfl, heq, hz⟩
      · exact .inl (settled_int husable)
      · cases heq
        exact .inr ⟨refused_int hz (.inr rfl), s, z, rfl, rfl, hz⟩

/-- What a value is taken to is of its kind and is taken to itself, unless a text spells an integer too large
for a float, which is refused. A value is taken to an integer when the number that it is taken to is whole, and
that is the integer that the number equals. A truth value is read back from its text. -/
theorem coerce_settles :
    (∀ (v r : Value) (k : Kind), v.coerce k = .ok (some r) →
      (r.isKind k = .ok true ∧ r.coerce k = .ok (some r)) ∨
      ((r.isKind k = .error .integerTooLarge ∧ r.coerce k = .error .integerTooLarge) ∧
        ∃ s z, v = .text s ∧ r = .int z ∧ Binary64.ofInt? z = none)) ∧
    (∀ v : Value, (∃ f, v.coerce .number = .error f ∧ v.coerce .integer = .error f) ∨
      ∃ (number : Option Number) (integer : Option Int),
        v.coerce .number = .ok (number.map Value.number) ∧
        v.coerce .integer = .ok (integer.map Value.int) ∧
        (integer.isSome = true ↔ ∃ n, number = some n ∧ n.isIntegral = true) ∧
        ∀ z, integer = some z ↔ ∃ n, number = some n ∧ n.eq (.int z) = true) ∧
    (∀ b : Bool, ∃ s, (Value.bool b).coerce .string = .ok (some (.text s)) ∧
      (Value.text s).coerce .boolean = .ok (some (.bool b))) := by
  refine ⟨fun v r k h => settled_or_refused h, fun v => ?_, fun b => ?_⟩
  · rw [coerce_number, coerce_integer]
    cases v.toNumber? with
    | error f => exact .inl ⟨f, rfl, rfl⟩
    | ok number =>
      refine .inr ⟨number, number.bind Number.toInt?, rfl, rfl, ?_, fun z => ?_⟩
      · cases number <;> simp [Number.isIntegral]
      · simp only [Option.bind_eq_some_iff, Number.toInt?_eq_some_iff]
  · cases b
    · exact ⟨"false", rfl, by rfl⟩
    · exact ⟨"true", rfl, by rfl⟩

/-- A text with blanks and a low line, and a whole float. -/
theorem coerce_settles_thousand :
    (∃ r, (Value.text " 1_000 ").coerce .integer = .ok (some r) ∧ r.isKind .integer = .ok true ∧
      r.coerce .integer = .ok (some r)) ∧
    (∃ z, (Value.float (.ofDyadic (.ofInt 1000))).coerce .integer = .ok (some (.int z)) ∧
      (Number.float (.ofDyadic (.ofInt 1000))).eq (.int z) = true) := by
  obtain ⟨settles, agrees, -⟩ := coerce_settles
  constructor
  · refine ⟨.int 1000, rfl, ?_⟩
    rcases settles (.text " 1_000 ") (.int 1000) .integer rfl with hsettled | ⟨-, s, z, -, hz, hlarge⟩
    · exact hsettled
    · cases hz
      cases hlarge
  · rcases agrees (.float (.ofDyadic (.ofInt 1000))) with ⟨f, hf, -⟩ | ⟨n?, z?, hnumber, hinteger, -, hequal⟩
    · cases hf
    · have hz : z? = some 1000 := by
        cases z? <;> cases hinteger
        rfl
      obtain ⟨n, hn, heq⟩ := (hequal 1000).mp hz
      subst hn
      cases hnumber
      exact ⟨1000, rfl, heq⟩

end Value

end Rulebook
