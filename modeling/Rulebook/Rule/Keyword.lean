import Rulebook.Rule.Basic

/-!
Keywords: the names of the built-in rules, and how a rule is made from a keyword and a parameter. A
parameter that a keyword has no use for disables the rule, with a notice where the parameter is not
simply a switch that is off; making a rule never fails for the shape of its parameter. What demands
ask of fields depends on a registry and is made elsewhere.
-/

namespace Rulebook

inductive Keyword where
  | required | type | enum | const | minLength | maxLength | pattern | format
  | minimum | exclusiveMinimum | maximum | exclusiveMaximum | multipleOf
  | minProperties | maxProperties | dependencies | minItems | maxItems | uniqueItems | contains
  | min | max | requiredTrue | email
  deriving DecidableEq

namespace Keyword

/-- All keywords, in the order of the catalog. -/
def all : List Keyword :=
  [required, type, enum, const, minLength, maxLength, pattern, format, minimum, exclusiveMinimum,
    maximum, exclusiveMaximum, multipleOf, minProperties, maxProperties, dependencies, minItems,
    maxItems, uniqueItems, contains, min, max, requiredTrue, email]

def name : Keyword → String
  | required => "required"
  | type => "type"
  | enum => "enum"
  | const => "const"
  | minLength => "minLength"
  | maxLength => "maxLength"
  | pattern => "pattern"
  | format => "format"
  | minimum => "minimum"
  | exclusiveMinimum => "exclusiveMinimum"
  | maximum => "maximum"
  | exclusiveMaximum => "exclusiveMaximum"
  | multipleOf => "multipleOf"
  | minProperties => "minProperties"
  | maxProperties => "maxProperties"
  | dependencies => "dependencies"
  | minItems => "minItems"
  | maxItems => "maxItems"
  | uniqueItems => "uniqueItems"
  | contains => "contains"
  | min => "min"
  | max => "max"
  | requiredTrue => "requiredTrue"
  | email => "email"

def ofName? (s : String) : Option Keyword := all.find? (·.name == s)

/-- The number that a bound is, or a notice that it is none. -/
def usableBound (rule : String) (bound : Value) : Run (Option Number) := do
  match ← (bound.number? : Except Fault (Option Number)) with
  | some n => return some n
  | none =>
    .note (.badBound rule bound)
    return none

/-- A leaf with a numeric bound, nothing if the bound is none. -/
def bounded (rule : String) (leaf : Number → Leaf) (bound : Value) : Run Rule := do
  return match ← usableBound rule bound with
    | some n => .leaf (leaf n)
    | none => .null

/-- The texts of a list that holds nothing else. -/
def allTexts? : List Value → Option (List String)
  | [] => some []
  | .text s :: rest => (allTexts? rest).map (s :: ·)
  | _ => none

def makeType (declared : Value) : Run Rule :=
  if !declared.truthy then .ret .null
  else
    let names := match declared with
      | .text s => some [s]
      | .list items => allTexts? items
      | _ => none
    match names with
    | some names => .ret (.leaf (.kind declared names))
    | none => do
      .note (.badKind declared)
      return .null

def makeEnum : Value → Run Rule
  | .null => .ret .null
  | .list items => .ret (.leaf (.choice items))
  | v => do
    .note (.badChoices v)
    return .null

/-- The rule of a pattern given as text, with a notice if it is malformed. -/
def compilePattern (flags : Regex.Flags) (source : String) : Run Rule :=
  match Regex.compile flags source with
  | .ok p => .ret (.leaf (.pattern source p.regex))
  | .error .malformed => do
    .note (.badExpression source)
    return .null
  | .error (.fault f) => .stop f

/-- A pattern rule; if so asked, the text between anchors is the pattern. -/
def makePattern (whole : Bool) (v : Value) : Run Rule :=
  if !v.truthy then .ret .null
  else
    match v with
    | .text s => compilePattern .none (if whole then "^" ++ s ++ "$" else s)
    | v => do
      .note (.badPattern v)
      return .null

/-- The rule of a pattern that has been made before and keeps its flags. -/
def ofPattern (whole : Bool) (p : Regex.Compiled) : Run Rule :=
  let flags := if p.flags.ascii then p.flags else { p.flags with unicode := true }
  compilePattern flags (if whole then "^(?:" ++ p.source ++ ")$" else p.source)

def makeFormat (name : Value) : Run Rule :=
  .ret (if name.truthy then .leaf (.format name) else .null)

/-- A limit on numbers; the flag excludes the bound. -/
def makeLimit (side : Side) (excluding : Bool) : Value → Run Rule :=
  let style := if excluding then LimitStyle.flagged else .including
  bounded (match side with | .least => "minimum" | .greatest => "maximum") (.limit side style)

def makeDivisor (v : Value) : Run Rule := do
  match ← (v.number? : Except Fault (Option Number)) with
  | some d =>
    if !d.isZero then return .leaf (.divisor d)
    .note (.badDivisor v)
    return .null
  | none =>
    .note (.badDivisor v)
    return .null

/-- A bound that may be spelt as text; an empty one disables the rule silently. -/
def makeFixedBound (side : Side) (name : String) (param : Value) : Run Rule :=
  if param.isEmpty then .ret .null
  else do
    match ← (param.toNumber? : Except Fault (Option Number)) with
    | some n => return .fixed (.bound side param n)
    | none =>
      .note (.badBound name param)
      return .null

/-- A rule that a parameter switches on. -/
def switched (r : Rule) (param : Value) : Run Rule := .ret (if param.truthy then r else .null)

/-- The rule of a keyword with one parameter; `excluding` is the flag of the keywords that have one.
Demands are not made here. -/
def make (k : Keyword) (excluding : Bool) (param : Value) : Run Rule :=
  match k with
  | required => switched (.leaf .required) param
  | type => makeType param
  | enum => makeEnum param
  | const => .ret (.leaf (.constant param))
  | minLength => bounded "minLength" (.size .least .length) param
  | maxLength => bounded "maxLength" (.size .greatest .length) param
  | pattern => makePattern excluding param
  | format => makeFormat param
  | minimum => makeLimit .least excluding param
  | exclusiveMinimum => bounded "exclusiveMinimum" (.limit .least .excluding) param
  | maximum => makeLimit .greatest excluding param
  | exclusiveMaximum => bounded "exclusiveMaximum" (.limit .greatest .excluding) param
  | multipleOf => makeDivisor param
  | minProperties => bounded "minProperties" (.size .least .properties) param
  | maxProperties => bounded "maxProperties" (.size .greatest .properties) param
  | dependencies => .ret .null
  | minItems => bounded "minItems" (.size .least .items) param
  | maxItems => bounded "maxItems" (.size .greatest .items) param
  | uniqueItems => switched (.leaf .unique) param
  | contains => switched (.leaf (.contains param)) param
  | min => makeFixedBound .least "min" param
  | max => makeFixedBound .greatest "max" param
  | requiredTrue => switched (.fixed .isTrue) param
  | email => switched (.fixed .email) param

/-- Whether a keyword takes a second argument. -/
def takesSecond : Keyword → Bool
  | minimum | maximum | pattern | dependencies => true
  | _ => false

/-- What stops the making of a rule with a second argument that the keyword does not take. -/
def surplus (k : Keyword) : Fault :=
  match k with
  | required | uniqueItems | contains => .tooManyArguments (makerName k) 0 1 2
  | requiredTrue | email => .tooManyArguments (makerName k) 0 1 2
  | k => .tooManyArguments (makerName k) 1 1 2
where
  makerName : Keyword → String
    | required => "required"
    | type => "type_"
    | enum => "enum"
    | const => "const"
    | minLength => "min_length"
    | maxLength => "max_length"
    | pattern => "pattern"
    | format => "format_"
    | minimum => "minimum"
    | exclusiveMinimum => "exclusive_minimum"
    | maximum => "maximum"
    | exclusiveMaximum => "exclusive_maximum"
    | multipleOf => "multiple_of"
    | minProperties => "min_properties"
    | maxProperties => "max_properties"
    | dependencies => "dependencies"
    | minItems => "min_items"
    | maxItems => "max_items"
    | uniqueItems => "unique_items"
    | contains => "contains"
    | min => "min_"
    | max => "max_"
    | requiredTrue | email => "_enabled.<locals>._factory"

end Keyword

end Rulebook
