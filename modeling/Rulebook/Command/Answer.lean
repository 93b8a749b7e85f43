import Rulebook.Command.Help
import Rulebook.Fault
import Rulebook.Settings.Load

/-!
Answers of a command: what it prints, what it reports, and how it ends. A run can end early; it then ends
with the answer that it has so far.
-/

namespace Rulebook

/-- What ends a run without a report. -/
inductive Collapse where
  | fault (f : Fault)
  | refusal (r : Settings.Refusal)

/-- What is said of a cause that is not reported. -/
def Collapse.message : Collapse → String
  | fault f => f.message
  | refusal (.tooManyDigits count) => (Fault.tooManyDigits count).message
  | refusal (.badVariable e) => "Invalid JSON in a settings variable: " ++ e.message
  | refusal r => r.message?.getD "Invalid settings"

/-- How a run ends. -/
inductive Ending where
  | success
  | failure
  | misuse
  /-- Code that is not part of the program ends the run with an exit code. -/
  | exit (code : Nat)
  | collapse (cause : Collapse)

/-- The exit code. -/
def Ending.code : Ending → Nat
  | success => 0
  | failure | collapse _ => 1
  | misuse => 2
  | exit code => code

/-- Whether what is raised aborts a command line: the end of an input, or an interrupt from the keyboard. -/
def Raised.aborts : Raised → Bool
  | mishap m => m.kind == "EOFError"
  | interrupt m => m.kind == "KeyboardInterrupt"
  | exit _ => false

structure Answer where
  out : String
  err : String
  ending : Ending

namespace Answer

def print (s : String) : Answer := ⟨s, "", .success⟩

/-- A failure with a message. -/
def fail (message : String) : Answer := ⟨"", "Error: " ++ message ++ "\n", .failure⟩

def ofMisuse (c : Command) (m : Misuse) : Answer := ⟨"", c.misuseText m, .misuse⟩

/-- The answer of a run that a fault stops. -/
def ofFault (f : Fault) : Answer :=
  match f with
  | .raised (.exit code) => ⟨"", "", .exit code⟩
  | .raised r =>
    if r.aborts then ⟨"", "\nAborted!\n", .failure⟩ else ⟨"", "", .collapse (.fault f)⟩
  | _ => ⟨"", "", .collapse (.fault f)⟩

def ofRefusal (r : Settings.Refusal) : Answer :=
  match r.message? with
  | some m => fail m
  | none => ⟨"", "", .collapse (.refusal r)⟩

end Answer

/-- A part of a run, which can end it early with an answer. -/
abbrev Stage (α : Type) := Except Answer α

end Rulebook
