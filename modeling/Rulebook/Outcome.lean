import Rulebook.Value.Basic

/-!
Outcomes: whether a value meets a rule and, if not, what failed. Failures are a map from the names of
rules to details in the order in which they were first reported. Merging is an ordered union: a name
keeps its first place and has its last detail, so no name is lost.
-/

namespace Rulebook

/-- Details by the names of the rules that failed. -/
abbrev Failures := List (String × Value)

/-- The ordered union of maps of failures. -/
def Failures.merge (maps : List Failures) : Failures := maps.foldl Ordered.union []

/-- The ordered union of the maps of failures that are given. -/
def Failures.mergeGiven (maps : List (Option Failures)) : Failures := merge (maps.filterMap id)

structure Outcome where
  valid : Bool
  errors : Failures

namespace Outcome

/-- The outcome of a rule that is met. -/
def pass : Outcome := ⟨true, []⟩

/-- The outcome of a rule that fails. -/
def fail (errors : Failures) : Outcome := ⟨false, errors⟩

/-- Met when all outcomes are, and otherwise the merged failures of those that are not. -/
def merge (outcomes : List Outcome) : Outcome :=
  let failed := outcomes.filter (!·.valid)
  if failed.isEmpty then pass else fail (Failures.merge (failed.map (·.errors)))

end Outcome

end Rulebook
