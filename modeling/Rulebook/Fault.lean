import Rulebook.Text.Quoted

/-!
Faults: what stops an evaluation or a construction, as opposed to a rule that fails. Each is a
cause; its wording is in `Fault.message`.
-/

namespace Rulebook

/-- An ordinary failure of code that is not part of the program, by the name of its kind. -/
structure Mishap where
  kind : String
  message : String
  deriving DecidableEq

/-- What code that is not part of the program raises. -/
inductive Raised where
  | mishap (m : Mishap)
  /-- Something that handlers of mishaps let through, such as an interrupt. -/
  | interrupt (m : Mishap)
  /-- The end of the whole run with an exit code, which they let through as well. -/
  | exit (code : Nat)
  deriving DecidableEq

namespace Raised

/-- Whether a handler of mishaps takes what is raised. -/
def isTaken : Raised → Bool
  | mishap _ => true
  | interrupt _ | exit _ => false

def message : Raised → String
  | mishap m | interrupt m => m.message
  | exit code => toString code

end Raised

inductive Fault where
  /-- An integer of magnitude `2 ^ 1024` or more, once rounded, is needed as a float. -/
  | integerTooLarge
  /-- The remainder of an infinite number is asked for. -/
  | infiniteRemainder
  /-- A list or an object, named by its kind, is used as a key. -/
  | unhashable (kind : String)
  /-- A value of the named kind is walked through as if it were a list. -/
  | notIterable (kind : String)
  /-- A number of repetitions in a pattern is beyond what a matcher counts. -/
  | repetitionTooLarge
  /-- A pattern is to treat letters as ASCII alone and as all scripts at once. -/
  | conflictingFlags
  /-- An integer literal has more digits than are read. -/
  | tooManyDigits (count : Nat)
  /-- A maker is given more arguments than it takes. -/
  | tooManyArguments (maker : String) (least most given : Nat)
  /-- A truth value stands where a registry is needed. -/
  | noRegistry
  /-- A value of the named kind lacks a part that is asked for. -/
  | lacksPart (kind part : String)
  /-- What is to be put on one line has no items. -/
  | notJoinable
  /-- An item of what is to be put on one line is no text. -/
  | notTextItem (index : Nat) (kind : String)
  | registryFrozen (name : String)
  | emptyRuleName
  | notCallable (name : String)
  | alreadyRegistered (name : String)
  | pluginNameTaken (name : String)
  /-- A plugin is to be registered that is registered already. -/
  | pluginHeld (name : String)
  | pluginNotRegistered
  /-- Code that is not part of the program raises what nothing takes. -/
  | raised (r : Raised)
  deriving DecidableEq

namespace Fault

def message : Fault → String
  | integerTooLarge => "int too large to convert to float"
  | infiniteRemainder => "math domain error"
  | unhashable kind => "unhashable type: '" ++ kind ++ "'"
  | notIterable kind => "'" ++ kind ++ "' object is not iterable"
  | repetitionTooLarge => "the repetition number is too large"
  | conflictingFlags => "ASCII and UNICODE flags are incompatible"
  | tooManyDigits count =>
    "Exceeds the limit (4300 digits) for integer string conversion: value has " ++ toString count
      ++ " digits; use sys.set_int_max_str_digits() to increase the limit"
  | tooManyArguments maker least most given =>
    let takes := if least = most then toString most else s!"from {least} to {most}"
    maker ++ s!"() takes {takes} positional argument" ++ (if most = 1 ∧ least = 1 then "" else "s")
      ++ s!" but {given} were given"
  | noRegistry => "'bool' object has no attribute 'build_rules'"
  | lacksPart kind part => "'" ++ kind ++ "' object has no attribute '" ++ part ++ "'"
  | notJoinable => "can only join an iterable"
  | notTextItem index kind =>
    s!"sequence item {index}: expected str instance, " ++ kind ++ " found"
  | registryFrozen name => "Cannot register rule " ++ quoted name ++ ": registry is frozen"
  | emptyRuleName => "Rule name must not be empty"
  | notCallable name => "Rule factory for " ++ quoted name ++ " must be callable"
  | alreadyRegistered name => "Rule " ++ quoted name ++ " is already registered"
  | pluginNameTaken name => "Plugin name already registered: " ++ name
  | pluginHeld name => "Plugin already registered under new name: " ++ name
  | pluginNotRegistered => "plugin is not registered"
  | raised r => r.message

end Fault

end Rulebook
