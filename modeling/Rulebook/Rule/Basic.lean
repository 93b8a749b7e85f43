import Rulebook.Rule.Connective

/-!
Rules as data, and their evaluation. A rule is nothing, a leaf, a rule that cannot be inverted, an
evaluation that is given as it is, several rules under a connective, a negation, or a list of demands. A
demand asks of an object that has a member, the trigger, that others be present and that others meet
rules of their own.
-/

namespace Rulebook

mutual

inductive Rule where
  | null
  | leaf (l : Leaf)
  | fixed (r : Fixed)
  /-- Any evaluation, as makers from outside the program can give one. -/
  | given (check : Check)
  | several (c : Connective) (rules : List Rule)
  | negation (r : Rule)
  | demands (ds : List Demand)

/-- What the presence of a trigger asks for: fields that must be present, unless what names them
cannot be read, and fields with rules. -/
inductive Demand where
  | mk (trigger : Scalar) (required : Except Fault (List Value)) (plans : List Plan)

/-- The rules that a field must meet, with the notices of making them, or why they cannot be made. -/
inductive Plan where
  | rules (field : Scalar) (notices : List Notice) (rules : List Rule)
  | broken (field : Scalar) (notices : List Notice) (fault : Fault)

end

instance : Inhabited Rule := ⟨.null⟩

namespace Rule

/-- The rules that are given. -/
def present (rules : List (Option Rule)) : List Rule := rules.filterMap id

/-- Several rules under a connective, nothing when none is given. -/
def combine (c : Connective) (rules : List (Option Rule)) : Rule :=
  match present rules with
  | [] => .null
  | rs => .several c rs

/-- The negation of a rule, nothing when none is given. -/
def negate : Option Rule → Rule
  | some r => .negation r
  | none => .null

def isNull : Rule → Bool
  | .null => true
  | _ => false

end Rule

/-- The failures of the fields of a demand. -/
abbrev FieldFailures := List (Scalar × Failures)

/-- Adds the required fields that are absent, or present if inverted. -/
def requiredFailures (v : Value) (invert : Bool) : List Value → FieldFailures → Run FieldFailures
  | [], acc => .ret acc
  | .list _ :: _, _ => .stop (.unhashable "list")
  | .object _ :: _, _ => .stop (.unhashable "dict")
  | .scalar field :: rest, acc =>
    let acc := if differ (v.member field).isEmpty invert then
      Ordered.insert field [("required", .bool true)] acc else acc
    requiredFailures v invert rest acc

/-- Adds what the rules of a field report. -/
def addFailures (field : Scalar) (failed : List Failures) (acc : FieldFailures) : FieldFailures :=
  if failed.isEmpty then acc
  else Ordered.insert field (Failures.mergeGiven (Ordered.get? field acc :: failed.map some)) acc

/-- The failures of fields as a value. -/
def FieldFailures.toValue (fields : FieldFailures) : Value :=
  .object (fields.map fun (field, errors) => (field, .record errors))

/-- The outcome of demands whose failing triggers are given. -/
def demandsOutcome (failed : List (Scalar × Value)) : Outcome :=
  if failed.isEmpty then .pass else .fail [("dependencies", .object failed)]

mutual

/-- The evaluation of a rule. -/
def Rule.check : Rule → Value → Bool → Run Outcome
  | .null, _, _ => .ret .pass
  | .leaf l, v, invert => l.check v invert
  | .fixed r, v, invert => r.check v invert
  | .given check, v, invert => check v invert
  | .several c rules, v, invert => c.check (Rule.checks rules) v invert
  | .negation r, v, invert => Check.negate (Rule.check r) v invert
  | .demands ds, v, invert =>
    if v.isObject then do return demandsOutcome (← Demand.checks ds v invert) else .ret .pass
termination_by structural r => r

/-- The evaluations of some rules. -/
def Rule.checks : List Rule → List Check
  | [] => []
  | r :: rest => Rule.check r :: Rule.checks rest
termination_by structural rs => rs

/-- What each of some rules reports that a value fails. -/
def Rule.failures : List Rule → Value → Run (List Failures)
  | [], _ => .ret []
  | r :: rest, v => do
    let o ← Rule.check r v false
    let more ← Rule.failures rest v
    return if o.valid then more else o.errors :: more
termination_by structural rs => rs

/-- The failing triggers of some demands, with the failures of their fields. -/
def Demand.checks : List Demand → Value → Bool → Run (List (Scalar × Value))
  | [], _, _ => .ret []
  | d :: rest, v, invert => do
    let here ← Demand.check d v invert
    let more ← Demand.checks rest v invert
    return here ++ more
termination_by structural ds => ds

/-- The trigger of a demand with the failures of its fields, if there are any. -/
def Demand.check : Demand → Value → Bool → Run (List (Scalar × Value))
  | .mk trigger required plans, v, invert =>
    if (v.member trigger).isEmpty then .ret []
    else do
      let fields ← requiredFailures v invert (← required) []
      let fields ← Plan.addAll plans v fields
      return if fields.isEmpty then [] else [(trigger, fields.toValue)]
termination_by structural d => d

/-- Adds what the rules of some fields report. -/
def Plan.addAll : List Plan → Value → FieldFailures → Run FieldFailures
  | [], _, acc => .ret acc
  | p :: rest, v, acc => do Plan.addAll rest v (← Plan.add p v acc)
termination_by structural ps => ps

/-- Adds what the rules of a field report. -/
def Plan.add : Plan → Value → FieldFailures → Run FieldFailures
  | .rules field notices rules, v, acc => do
    .notes notices
    return addFailures field (← Rule.failures rules (v.member field)) acc
  | .broken _ notices fault, _, _ => do
    .notes notices
    .stop fault
termination_by structural p => p

end

end Rulebook
