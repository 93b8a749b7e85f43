import Rulebook.Outcome
import Rulebook.Registry.Basic

/-!
Reports: what an operation answers. A report names the operation, says whether it succeeded and holds
named data, warnings and, after a failure, the problem. The outcome of a rule becomes a report whose
data say whether the value is valid and what failed.
-/

namespace Rulebook

/-- Why an operation failed. -/
structure Problem where
  code : String
  message : String
  detail : List (String × Value)

namespace Problem

/-- The problem of a value that fails some rules, which the message names in order. -/
def invalid (errors : Failures) : Problem :=
  ⟨"INVALID", "Value failed: " ++ ", ".intercalate (sortTexts (errors.map (·.1))), errors⟩

/-- The problem of rule names that no maker has. -/
def unknownRules (names : List String) : Problem :=
  ⟨"UNKNOWN_RULE", "Unknown rule(s): " ++ ", ".intercalate names, [("unknown", .texts names)]⟩

end Problem

structure Report where
  ok : Bool
  operation : String
  data : List (String × Value)
  warnings : List String
  problem : Option Problem

namespace Report

/-- The report of an operation that succeeded. -/
def success (operation : String) (data : List (String × Value)) (warnings : List String) : Report :=
  ⟨true, operation, data, warnings, none⟩

/-- The report of an operation that failed. -/
def failure (operation : String) (problem : Problem) (data : List (String × Value))
    (warnings : List String) : Report :=
  ⟨false, operation, data, warnings, some problem⟩

/-- The report of an outcome; the data have its validity and failures beside what is given. -/
def ofOutcome (operation : String) (o : Outcome) (data : List (String × Value))
    (warnings : List String) : Report :=
  let data := Ordered.insert "errors" (.record o.errors) (Ordered.insert "valid" (.bool o.valid) data)
  if o.valid then success operation data warnings
  else failure operation (.invalid o.errors) data warnings

/-- What the data hold under a name. -/
def get? (r : Report) (name : String) : Option Value := Ordered.get? name r.data

end Report

end Rulebook
