import Rulebook.Format.Basic
import Rulebook.Outcome
import Rulebook.Regex.Parser
import Rulebook.Run

/-!
Leaf rules: each has a name, a test of a value and a detail to report. A value that a leaf skips
passes; on any other the leaf is met when the test holds, or when it does not hold if the rule is
inverted, and a failure reports the detail under the name whichever way it failed.
-/

namespace Rulebook

/-- An evaluation of a value, inverted or not. -/
abbrev Check := Value → Bool → Run Outcome

/-- What a size rule counts; what a value of another kind has none of counts as zero. -/
inductive Measure where
  | length | properties | items
  deriving DecidableEq

def Measure.of : Measure → Value → Nat
  | .length, .text s => s.length
  | .properties, .object ms => ms.length
  | .items, .list vs => vs.length
  | _, _ => 0

/-- Whether a bound is a least or a greatest value. -/
inductive Side where
  | least | greatest
  deriving DecidableEq

/-- Whether a number is within a bound, the bound itself included or not. -/
def Side.admits (side : Side) (excluding : Bool) (bound n : Number) : Bool :=
  match side, excluding with
  | .least, false => bound.le n
  | .least, true => bound.lt n
  | .greatest, false => n.le bound
  | .greatest, true => n.lt bound

/-- How a limit came to exclude its bound: not at all, by a flag beside it, or by its own name. -/
inductive LimitStyle where
  | including | flagged | excluding
  deriving DecidableEq

inductive Leaf where
  /-- A value is present. -/
  | required
  /-- The value is of one of some kinds. -/
  | kind (declared : Value) (names : List String)
  /-- The value, or each item of a list, loosely equals one of some values. -/
  | choice (allowed : List Value)
  /-- The value loosely equals another. -/
  | constant (expected : Value)
  /-- The value has at least or at most some length, members or items. -/
  | size (side : Side) (measure : Measure) (bound : Number)
  /-- A text matches a pattern. -/
  | pattern (source : String) (regex : Regex)
  /-- A text has a named format. -/
  | format (name : Value)
  /-- A value that is or spells a number is within a bound. -/
  | limit (side : Side) (style : LimitStyle) (bound : Number)
  /-- The value is or spells a multiple of a number. -/
  | divisor (d : Number)
  /-- No two items of a list are equal. -/
  | unique
  /-- Every list passes. -/
  | contains (item : Value)

namespace Leaf

/-- The name under which a leaf reports. -/
def name : Leaf → String
  | required => "required"
  | kind _ _ => "type"
  | choice _ => "enum"
  | constant _ => "const"
  | size .least .length _ => "minLength"
  | size .greatest .length _ => "maxLength"
  | size .least .properties _ => "minProperties"
  | size .greatest .properties _ => "maxProperties"
  | size .least .items _ => "minItems"
  | size .greatest .items _ => "maxItems"
  | pattern _ _ => "pattern"
  | format _ => "format"
  | limit .least .excluding _ => "exclusiveMinimum"
  | limit .greatest .excluding _ => "exclusiveMaximum"
  | limit .least _ _ => "minimum"
  | limit .greatest _ _ => "maximum"
  | divisor _ => "multipleOf"
  | unique => "uniqueItems"
  | contains _ => "contains"

/-- Whether a leaf passes a value unseen: empty values for all but one, other kinds than lists for
the one that looks at nothing else. -/
def skips (l : Leaf) (v : Value) : Bool :=
  match l with
  | required => false
  | contains _ => !v.isList
  | _ => v.isEmpty

/-- Whether some value of a list loosely equals an item. -/
def anyEqual : List Value → Value → Except Fault Bool
  | [], _ => .ok false
  | a :: rest, item => do
    if ← a.looselyEqual item then return true
    anyEqual rest item

/-- Whether each item loosely equals some allowed value. -/
def allAllowed (allowed : List Value) : List Value → Except Fault Bool
  | [] => .ok true
  | item :: rest => do
    if ← anyEqual allowed item then allAllowed allowed rest else return false

/-- Whether a value is of one of some kinds. -/
def anyKind (v : Value) : List String → Except Fault Bool
  | [] => .ok false
  | k :: rest => do
    if ← v.isKindNamed k then return true
    anyKind v rest

/-- The items that equal an earlier one, each once: `seen` are the items before, and `found` the
duplicates among them, in reverse. -/
def duplicatesFrom (seen found : List Value) : List Value → List Value
  | [] => found.reverse
  | v :: rest =>
    if seen.any (v.equal ·) then
      duplicatesFrom seen (if found.any (v.equal ·) then found else v :: found) rest
    else duplicatesFrom (v :: seen) found rest

/-- The items of a list that equal an earlier one, each once; other values have none. -/
def duplicates : Value → List Value
  | .list items => duplicatesFrom [] [] items
  | _ => []

/-- Whether a text has a format given by any value; a list or an object cannot be looked up. -/
def formatHolds (name : Value) (s : String) : Run Bool :=
  match name with
  | .list _ => .stop (.unhashable "list")
  | .object _ => .stop (.unhashable "dict")
  | .text f =>
    match Format.check? f s with
    | some ok => .ret ok
    | none => do
      .note (.unknownFormat name)
      return true
  | _ => do
    .note (.unknownFormat name)
    return true

/-- Whether a number is a multiple of another, by their nearest floats. -/
def isMultiple (d n : Number) : Except Fault Bool :=
  match n.toBinary64?, d.toBinary64? with
  | some x, some y =>
    match x.remainderIsZero? y with
    | some ok => .ok ok
    | none => .error .infiniteRemainder
  | _, _ => .error .integerTooLarge

/-- The test of a leaf. -/
def test (l : Leaf) (v : Value) : Run Bool :=
  match l with
  | required => .ret v.hasValue
  | kind _ names => anyKind v names
  | choice allowed =>
    match v with
    | .list items => allAllowed allowed items
    | v => anyEqual allowed v
  | constant expected => expected.looselyEqual v
  | size side measure bound => .ret (side.admits false bound (.int (measure.of v)))
  | pattern _ regex =>
    match v with
    | .text s => .ret (regex.matchesIn s)
    | _ => .ret false
  | format name =>
    match v with
    | .text s => formatHolds name s
    | _ => .ret false
  | limit side style bound => do
    match ← (v.toNumber? : Except Fault (Option Number)) with
    | some n => return side.admits (style != .including) bound n
    | none => return true
  | divisor d => do
    match ← (v.toNumber? : Except Fault (Option Number)) with
    | some n => isMultiple d n
    | none => return false
  | unique => .ret (duplicates v).isEmpty
  | contains _ => .ret true

/-- The names of the two parts of the detail of a size rule. -/
def sizeKeys : Measure → String × String
  | .length => ("required_length", "current_length")
  | .properties => ("required_properties", "current_properties")
  | .items => ("required_items", "current_items")

/-- The name of the bound in the detail of a limit. -/
def limitKey : Side → LimitStyle → String
  | .least, .excluding => "exclusive_minimum_value"
  | .greatest, .excluding => "exclusive_maximum_value"
  | .least, _ => "minimum_value"
  | .greatest, _ => "maximum_value"

/-- What a leaf reports about a value that fails it. -/
def detail (l : Leaf) (v : Value) : Value :=
  match l with
  | required => .bool true
  | kind declared _ => .record [("required_type", declared), ("current_value", v)]
  | choice allowed => .record [("allowed_values", .list allowed), ("current_value", v)]
  | constant expected => .record [("required_value", expected), ("current_value", v)]
  | size _ measure bound =>
    .record [((sizeKeys measure).1, .number bound), ((sizeKeys measure).2, .int (measure.of v))]
  | pattern source _ => .record [("required_pattern", .text source), ("current_value", v)]
  | format name => .record [("required_format", name), ("current_value", v)]
  | limit side style bound =>
    .record [(limitKey side style, .number bound), ("current_value", v)]
  | divisor d => .record [("multiple_of_value", .number d), ("current_value", v)]
  | unique => .record [("duplicate_items", .list (duplicates v))]
  | contains item => .record [("required_item", item), ("current_items", v)]

/-- The outcome of a test, inverted or not. -/
def finish (l : Leaf) (v : Value) (ok invert : Bool) : Outcome :=
  if differ ok invert then .pass else .fail [(l.name, l.detail v)]

/-- The evaluation of a leaf. -/
def check (l : Leaf) : Check := fun v invert =>
  if l.skips v then .ret .pass
  else do return l.finish v (← l.test v) invert

end Leaf

/-- Rules that cannot be inverted: they give the same outcome either way. -/
inductive Fixed where
  /-- A number at least, or at most, what a parameter spells. -/
  | bound (side : Side) (param : Value) (bound : Number)
  /-- The value is true. -/
  | isTrue
  /-- The value is a mail address. -/
  | email

namespace Fixed

def check (r : Fixed) : Check := fun v _ =>
  match r with
  | bound side param b =>
    if v.isEmpty then .ret .pass
    else do
      match ← (v.toNumber? : Except Fault (Option Number)) with
      | none => return .pass
      | some n =>
        if side.admits false b n then return .pass
        let name := match side with
          | .least => "min"
          | .greatest => "max"
        return .fail [(name, .record [(name, param), ("actual", v)])]
  | isTrue =>
    match v with
    | .bool true => .ret .pass
    | _ => .ret (.fail [("requiredTrue", .bool true)])
  | email =>
    if v.isEmpty then .ret .pass
    else
      match v with
      | .text s => .ret (if Format.isPlainEmail s then .pass else .fail [("email", .bool true)])
      | _ => .ret (.fail [("email", .bool true)])

end Fixed

end Rulebook
