import Rulebook.Number.Power

/-!
Binary floating-point numbers of 64 bits. A finite number is a dyadic rational that fits the format
(a significand of 53 bits, exponents from -1074), so it has an exact value and comparisons need no
rounding. Zero is signed, and there are two infinities and one indefinite number.

`Binary64.nearest` rounds any ratio to the nearest number, a tie to the even significand; what is
too large becomes infinite. `Binary64.ofInt?` refuses an integer that would become infinite.
-/

namespace Rulebook

/-- A dyadic rational `n * 2 ^ -k` with odd `n` fits when `n` has 53 bits, `k` is at most 1074 and
the value is below `2 ^ 1024`. -/
def FitsBinary64 : Dyadic → Prop
  | .zero => True
  | .ofOdd n k _ => n.natAbs < twoTo 53 ∧ k ≤ 1074 ∧ (n.natAbs.log2 : Int) - k < 1024

instance : DecidablePred FitsBinary64 := fun x =>
  match x with
  | .zero => isTrue trivial
  | .ofOdd n k _ =>
    inferInstanceAs (Decidable (n.natAbs < twoTo 53 ∧ k ≤ 1074 ∧ (n.natAbs.log2 : Int) - k < 1024))

/-- A floating-point number. The zero of `finite` is the positive one. -/
inductive Binary64 where
  | finite (value : Dyadic) (fits : FitsBinary64 value)
  | negativeZero
  | infinity (negative : Bool)
  | nan
  deriving DecidableEq

namespace Binary64

/-- Positive zero. -/
def zero : Binary64 := .finite .zero trivial

instance : Inhabited Binary64 := ⟨zero⟩

/-- The number with a given value, infinite if it does not fit. -/
def ofDyadic (x : Dyadic) : Binary64 :=
  if h : FitsBinary64 x then .finite x h else .infinity (decide (x < 0))

/-- The exact value of a finite number. -/
def value? : Binary64 → Option Dyadic
  | .finite x _ => some x
  | .negativeZero => some .zero
  | .infinity _ | .nan => none

def isNaN : Binary64 → Bool
  | .nan => true
  | _ => false

/-- The whole number a float holds, if it holds one. -/
def toInt? (x : Binary64) : Option Int :=
  match x.value? with
  | some .zero => some 0
  | some (.ofOdd n (.ofNat 0) _) => some n
  | some (.ofOdd n (.negSucc k) _) => some (n * twoTo (k + 1))
  | _ => none

/-- The exponent of the unit in the last place of numbers near `num / den`: their significand then
has 53 bits, or fewer below the normal range. -/
def unitExponent (num den : Nat) : Int :=
  let e : Int := (num.log2 : Int) - den.log2 - 53
  let reaches :=
    if 0 ≤ e + 53 then den * twoTo (e + 53).toNat ≤ num else den ≤ num * twoTo (-(e + 53)).toNat
  max (if reaches then e + 1 else e) (-1074)

/-- The quotient rounded to the nearest integer, a tie to the even one. -/
def roundDiv (num den : Nat) : Nat :=
  let q := num / den
  let twice := 2 * (num % den)
  if twice < den then q
  else if den < twice then q + 1
  else q + q % 2

/-- The magnitude of the number nearest to `num / den`. -/
def nearestMagnitude (num den : Nat) : Dyadic :=
  let e := unitExponent num den
  let m := if 0 ≤ e then roundDiv num (den * twoTo e.toNat) else roundDiv (num * twoTo (-e).toNat) den
  .ofIntWithPrec m (-e)

/-- The number nearest to `num / den` with a given sign, which a zero keeps. -/
def nearest (negative : Bool) (num den : Nat) : Binary64 :=
  match negative, nearestMagnitude num den with
  | true, .zero => .negativeZero
  | true, x => ofDyadic (-x)
  | false, x => ofDyadic x

/-- An integer as a float, unless its magnitude rounds to `2 ^ 1024` or more. -/
def ofInt? (n : Int) : Option Binary64 :=
  match nearest (decide (n < 0)) n.natAbs 1 with
  | .infinity _ => none
  | x => some x

end Binary64

end Rulebook
