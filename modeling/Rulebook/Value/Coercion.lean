import Rulebook.Value.Equality
import Rulebook.Number.Shortest
import Rulebook.Fault

/-!
Kinds of values and the conversions between them. A number must be usable as one: an indefinite
float is none, and an integer beyond the range of floats is a fault. A text counts as the number it
spells, `coerce` takes a value to a kind where that loses nothing, and `looselyEqual` is the equality
of listed values, which lets a text stand for the number or truth value it spells.
-/

namespace Rulebook

/-- The kinds that a value can be required to have. -/
inductive Kind where
  | string | number | integer | boolean | null
  deriving DecidableEq

def Kind.ofName? : String → Option Kind
  | "string" => some .string
  | "number" => some .number
  | "integer" => some .integer
  | "boolean" => some .boolean
  | "null" => some .null
  | _ => none

/-- Whether a number is definite; an integer is, if it has a float near it. -/
def Number.isDefinite : Number → Except Fault Bool
  | .int n => if (Binary64.ofInt? n).isSome then .ok true else .error .integerTooLarge
  | .float x => .ok !x.isNaN

/-- The text of a number. -/
def Number.text : Number → String
  | .int n => toString n
  | .float x => plainStyle.text x

namespace Value

/-- The number that a value is. -/
def number? : Value → Except Fault (Option Number)
  | .number n => do return if ← n.isDefinite then some n else none
  | _ => .ok none

/-- The number that a value is or spells. -/
def toNumber? : Value → Except Fault (Option Number)
  | .text s => .ok (Number.ofText? s)
  | v => v.number?

def isNumber (v : Value) : Except Fault Bool := return (← v.number?).isSome

/-- Whether a value is a number or spells one. -/
def isNumeric (v : Value) : Except Fault Bool := return (← v.toNumber?).isSome

def isKind (v : Value) : Kind → Except Fault Bool
  | .string => .ok (match v with | .text _ => true | _ => false)
  | .number => v.isNumber
  | .integer => return (← v.number?).any Number.isIntegral
  | .boolean => .ok (match v with | .bool _ => true | _ => false)
  | .null => .ok (match v with | .null => true | _ => false)

/-- Whether a value is of the kind of a given name; of an unknown name none is. -/
def isKindNamed (v : Value) (name : String) : Except Fault Bool :=
  match Kind.ofName? name with
  | some kind => v.isKind kind
  | none => .ok false

/-- The truth value that a text spells, in any letter case. -/
def truthOfText? (s : String) : Option Bool :=
  match String.ofList ((trimBlanks s.toList).map Char.toLower) with
  | "true" | "1" => some true
  | "false" | "0" => some false
  | _ => none

/-- The truth value that a value is or stands for. -/
def toTruth? : Value → Except Fault (Option Bool)
  | .bool b => .ok (some b)
  | .text s => .ok (truthOfText? s)
  | v => do
    match ← v.number? with
    | some n => return if n.eq (.int 1) then some true else if n.isZero then some false else none
    | none => return none

/-- A value taken to a kind, where it has a counterpart there. -/
def coerce (v : Value) : Kind → Except Fault (Option Value)
  | .number => return (← v.toNumber?).map .number
  | .integer => return ((← v.toNumber?).bind Number.toInt?).map .int
  | .boolean => return (← v.toTruth?).map .bool
  | .string =>
    match v with
    | .text s => .ok (some (.text s))
    | .bool b => .ok (some (.text (if b then "true" else "false")))
    | v => return (← v.number?).map fun n => .text n.text
  | .null => .ok none

/-- Whether a value equals an expected one, exactly or once taken to the kind of an expected number
or truth value; an expected null is met by every empty value. -/
def looselyEqual (expected actual : Value) : Except Fault Bool := do
  if expected.equal actual then return true
  match ← expected.number? with
  | some n => return (← actual.toNumber?).any fun m => m.eq n
  | none =>
    match expected with
    | .bool b => return (← actual.toTruth?) == some b
    | .null => return actual.isEmpty
    | _ => return false

/-- The name of the kind of a value. -/
def kindName (v : Value) : Except Fault String := do
  match v with
  | .missing => return "undefined"
  | .null => return "null"
  | .bool _ => return "boolean"
  | .text _ => return "string"
  | .list _ => return "array"
  | .object _ => return "object"
  | .number n =>
    if ← n.isDefinite then return if n.isIntegral then "integer" else "number"
    return "float"

end Value

end Rulebook
