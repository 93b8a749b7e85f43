import Rulebook.Registry.Build
import Rulebook.Report.Basic

/-!
The two operations on a registry that answer with a report: checking a value against a requirement
document, and listing the names of the rules. A name that no maker has is a warning, or, in a strict
check, the problem; then no rule is evaluated.
-/

namespace Rulebook.Registry

/-- The rules of a built document as one. -/
def composed (b : Built) : Rule := .combine .compose (b.rules.map fun (_, r) => some r)

/-- The report on a value of the rules of a built document. -/
def reportBuilt (b : Built) (v : Value) (invert strict : Bool) : Run Report :=
  let names := b.rules.map (·.1)
  let data := [("rules", Value.texts names)]
  if !b.unknown.isEmpty && strict then
    .ret (.failure "check" (.unknownRules b.unknown) data [])
  else do
    .note (.evaluating names)
    let o ← (composed b).check v invert
    return .ofOutcome "check" o data (b.unknown.map ("Unknown rule: " ++ ·))

/-- Checks a value against a requirement document. -/
def check (r : Registry Maker) (v : Value) (document : List (Scalar × Value))
    (invert strict : Bool) : Run Report := do
  reportBuilt (← r.build document) v invert strict

/-- Lists the names of the rules. -/
def list {α : Type} (r : Registry α) : Report :=
  .success "list_rules" [("rules", .texts r.names), ("count", .int r.names.length)] []

end Rulebook.Registry
