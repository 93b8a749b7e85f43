import Rulebook.Rule.Leaf

/-!
Connectives: ways to make one evaluation out of several. The parts are always evaluated uninverted;
what they come to is decided by how many pass, and inversion is applied to that decision. A failure
reports the failures of the parts, or, where the passing parts are what failed, what those report
when inverted, and adds a marker under the name of the connective.
-/

namespace Rulebook

inductive Connective where
  | allOf | anyOf | oneOf | compose
  deriving DecidableEq

namespace Connective

/-- Whether a number of passing parts out of a total is enough. -/
def accepts (c : Connective) (passed total : Nat) : Bool :=
  match c with
  | allOf | compose => passed == total
  | anyOf => 0 < passed
  | oneOf => passed == 1

/-- The name of the marker in a report. -/
def marker? : Connective → Option String
  | allOf => some "allOf"
  | anyOf => some "anyOf"
  | oneOf => some "oneOf"
  | compose => none

/-- The outcomes of some evaluations, uninverted. -/
def outcomes (v : Value) : List Check → Run (List Outcome)
  | [] => .ret []
  | check :: rest => do
    let o ← check v false
    let os ← outcomes v rest
    return o :: os

/-- What the passing ones of some evaluations report when they are inverted. -/
def explain (v : Value) : List (Check × Outcome) → Run (List Failures)
  | [] => .ret []
  | (check, o) :: rest => do
    if o.valid then
      let inverted ← check v true
      let more ← explain v rest
      return if inverted.valid then more else inverted.errors :: more
    else explain v rest

/-- What the failing ones of some outcomes report. -/
def failures (os : List Outcome) : List Failures := (os.filter (!·.valid)).map (·.errors)

/-- The marker of a connective as a map of failures. -/
def mark (c : Connective) (invert : Bool) : List Failures :=
  match c.marker? with
  | some name => [[(name, .bool !invert)]]
  | none => []

/-- The evaluation of a connective over some evaluations. -/
def check (c : Connective) (checks : List Check) : Check := fun v invert => do
  let os ← outcomes v checks
  let passed := (os.filter (·.valid)).length
  if differ (c.accepts passed checks.length) invert then return .pass
  let failing := if c = oneOf ∨ !invert then failures os else []
  let passing ← if c = oneOf ∨ invert then explain v (checks.zip os) else .ret []
  return .fail (Failures.merge (failing ++ passing ++ c.mark invert))

end Connective

/-- The evaluation of the negation of another: empty values pass, all else is turned over. -/
def Check.negate (inner : Check) : Check := fun v invert =>
  if v.isEmpty then .ret .pass
  else do
    let o ← inner v !invert
    if o.valid then return .pass
    return .fail (Failures.merge [o.errors, [("not", .bool !invert)]])

end Rulebook
