import Rulebook.Rule.Keyword
import Rulebook.Proofs.Number.Place
import Rulebook.Proofs.Rule.Evaluation
import Rulebook.Proofs.Value.Json

/-!
Multiples of integers. A divisor is tried on the floats nearest to it and to a value, so the verdict on
an integer is whether the one rounded integer divides the other. For integers that floats hold exactly
this is divisibility; of larger ones some multiples are refused and some other integers are taken.
-/

namespace Rulebook.Leaf

open Binary64 (ofInt? rounded)

variable {d n : Int}

/-- Integers that have floats near them are tried as rounded. -/
theorem isMultiple_ints (hd : (ofInt? d).isSome = true) (hn : (ofInt? n).isSome = true) :
    isMultiple (.int d) (.int n) = .ok (decide (rounded d ∣ rounded n)) := by
  obtain ⟨y, hy⟩ := Option.isSome_iff_exists.mp hd
  obtain ⟨x, hx⟩ := Option.isSome_iff_exists.mp hn
  unfold isMultiple
  simp only [Number.toBinary64?, hx, hy, Binary64.remainderIsZero?_ofInt? hx hy]

theorem divisor_check_ints (hd : (ofInt? d).isSome = true) (hn : (ofInt? n).isSome = true)
    (invert : Bool) : (divisor (.int d)).check (.int n) invert =
      .ret ((divisor (.int d)).finish (.int n) (decide (rounded d ∣ rounded n)) invert) := by
  have hjson : Value.IsJson (.int n) := .scalar hn
  have htest : (divisor (.int d)).test (.int n) = .ret (decide (rounded d ∣ rounded n)) := by
    unfold test
    rw [hjson.toNumber?]
    show (liftM (isMultiple (.int d) (.int n)) : Run Bool) = _
    rw [isMultiple_ints hd hn]
    rfl
  show ((divisor (.int d)).test (.int n) >>= fun ok => pure _) = _
  rw [htest]
  rfl

theorem multipleOf_make_int (nonzero : d ≠ 0) (hd : (ofInt? d).isSome = true) :
    Keyword.multipleOf.make false (.int d) = .ret (.leaf (.divisor (.int d))) := by
  have hjson : Value.IsJson (.int d) := .scalar hd
  have hzero : (Number.int d).isZero = false :=
    decide_eq_false fun h => nonzero (Dyadic.ofInt_injective (Extended.dyadic.inj h))
  unfold Keyword.make Keyword.makeDivisor
  simp only
  rw [hjson.number?]
  show (if (!(Number.int d).isZero) = true then _ else _) = _
  rw [hzero]
  rfl

/-- The rule that a number be a multiple of an integer takes an integer when the rounded divisor divides
the rounded integer. This is divisibility where floats hold both integers. -/
theorem multipleOf_divides_rounded (d n : Int) (nonzero : d ≠ 0)
    (hd : (ofInt? d).isSome = true) (hn : (ofInt? n).isSome = true) :
    ∃ r, Keyword.multipleOf.make false (.int d) = .ret r ∧
      ∀ invert, ∃ o, r.check (.int n) invert = .ret o ∧
        (o.valid = true ↔ (rounded d ∣ rounded n ↔ invert = false)) ∧
        (FitsBinary64 (.ofInt d) → FitsBinary64 (.ofInt n) →
          (o.valid = true ↔ (d ∣ n ↔ invert = false))) := by
  refine ⟨_, multipleOf_make_int nonzero hd, fun invert => ⟨_, divisor_check_ints hd hn invert, ?_⟩⟩
  have hvalid : ((divisor (.int d)).finish (.int n) (decide (rounded d ∣ rounded n)) invert).valid
      = true ↔ (rounded d ∣ rounded n ↔ invert = false) := by
    rw [finish_valid]
    cases invert <;> simp [differ]
  refine ⟨hvalid, fun dfits nfits => ?_⟩
  rw [hvalid, Binary64.rounded_of_fits dfits, Binary64.rounded_of_fits nfits]

/-- The least integer that is rounded is a multiple of three and refused, its predecessor a multiple of
two and taken. -/
theorem multipleOf_divides_rounded_three :
    (∃ r o, Keyword.multipleOf.make false (.int 3) = .ret r ∧
      r.check (.int 9007199254740993) false = .ret o ∧ o.valid = false ∧
      (3 : Int) ∣ 9007199254740993) ∧
    ∃ r o, Keyword.multipleOf.make false (.int 2) = .ret r ∧
      r.check (.int 9007199254740992) false = .ret o ∧ o.valid = true := by
  constructor
  · obtain ⟨r, made, tried⟩ :=
      multipleOf_divides_rounded 3 9007199254740993 (by decide) rfl rfl
    obtain ⟨o, ho, hvalid, -⟩ := tried false
    have hrounded : ¬ rounded 3 ∣ rounded 9007199254740993 := by decide
    exact ⟨r, o, made, ho, by simpa [hrounded] using hvalid, by decide⟩
  · obtain ⟨r, made, tried⟩ :=
      multipleOf_divides_rounded 2 9007199254740992 (by decide) rfl rfl
    obtain ⟨o, ho, -, hexact⟩ := tried false
    have hdivides : (2 : Int) ∣ 9007199254740992 := by decide
    exact ⟨r, o, made, ho, (hexact (by decide) (by decide)).mpr (iff_of_true hdivides rfl)⟩

/-- An odd integer that is taken as a multiple of two. -/
theorem multipleOf_takes_odd :
    (ofInt? 2).isSome = true ∧ (ofInt? 9007199254740993).isSome = true ∧
    ¬ (2 : Int) ∣ 9007199254740993 ∧
    ∃ r o, Keyword.multipleOf.make false (.int 2) = .ret r ∧
      r.check (.int 9007199254740993) false = .ret o ∧ o.valid = true :=
  ⟨rfl, rfl, by decide, _, _, rfl, rfl, rfl⟩

end Rulebook.Leaf
