import Rulebook.Number.Binary64

/-!
Numbers: integers of any size and floats. They are compared by exact value, never by rounding one
kind to the other: `Number.extended?` places each on the extended dyadic line, and the order and
equality of numbers are those of their places. The indefinite float has no place, so it is neither
equal to nor below anything.
-/

namespace Rulebook

/-- A number as it is written: with or without a fractional part. -/
inductive Number where
  | int (n : Int)
  | float (x : Binary64)
  deriving DecidableEq

instance : Inhabited Number := ⟨.int 0⟩

/-- The dyadic rationals with a least and a greatest element. -/
inductive Extended where
  | bottom
  | dyadic (x : Dyadic)
  | top
  deriving DecidableEq

namespace Extended

def ble : Extended → Extended → Bool
  | .bottom, _ => true
  | _, .top => true
  | .dyadic x, .dyadic y => x.ble y
  | _, _ => false

def blt (a b : Extended) : Bool := !b.ble a

end Extended

namespace Number

def isNaN : Number → Bool
  | .int _ => false
  | .float x => x.isNaN

/-- The place of a number on the extended dyadic line. -/
def extended? : Number → Option Extended
  | .int n => some (.dyadic (.ofInt n))
  | .float (.finite x _) => some (.dyadic x)
  | .float .negativeZero => some (.dyadic .zero)
  | .float (.infinity negative) => some (if negative then .bottom else .top)
  | .float .nan => none

/-- A comparison of places; a number without a place fails every comparison. -/
def compareBy (rel : Extended → Extended → Bool) (a b : Number) : Bool :=
  match a.extended?, b.extended? with
  | some x, some y => rel x y
  | _, _ => false

/-- Numeric equality, by exact value. -/
def eq : Number → Number → Bool := compareBy fun x y => decide (x = y)

def le : Number → Number → Bool := compareBy Extended.ble

def lt : Number → Number → Bool := compareBy Extended.blt

def isZero (a : Number) : Bool := a.eq (.int 0)

/-- The whole number that a number is, if it is one. -/
def toInt? : Number → Option Int
  | .int n => some n
  | .float x => x.toInt?

def isIntegral (a : Number) : Bool := a.toInt?.isSome

/-- The nearest float; an integer can be too large to have one. -/
def toBinary64? : Number → Option Binary64
  | .int n => Binary64.ofInt? n
  | .float x => some x

end Number

/-- Whether `d` goes into `x` a whole number of times. -/
def Dyadic.divides (d x : Dyadic) : Bool :=
  match d, x with
  | _, .zero => true
  | .zero, .ofOdd _ _ _ => false
  | .ofOdd n k _, .ofOdd m j _ =>
    let common := max k j
    decide ((n * twoTo (common - k).toNat) ∣ (m * twoTo (common - j).toNat))

/-- Whether the remainder of `x` by `d` is zero; an infinite dividend has no remainder. A finite
number is its own remainder by an infinite divisor. -/
def Binary64.remainderIsZero? (x d : Binary64) : Option Bool :=
  match x, d with
  | .nan, _ | _, .nan => some false
  | .infinity _, _ => none
  | x, .infinity _ => some (x.value? == some .zero)
  | x, d => some (match d.value?, x.value? with
    | some d, some x => Dyadic.divides d x
    | _, _ => false)

end Rulebook
