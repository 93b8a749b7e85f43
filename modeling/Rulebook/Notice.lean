import Rulebook.Value.Display

/-!
Notices: what is written to the log while rules are made and evaluated and plugins are loaded. Each
is an event; its level, its logger and its wording are functions of it.
-/

namespace Rulebook

/-- How much an entry of the log matters. Some levels have names. -/
structure Level where
  rank : Int
  deriving DecidableEq

namespace Level

def debug : Level := ⟨10⟩
def info : Level := ⟨20⟩
def warning : Level := ⟨30⟩
def error : Level := ⟨40⟩
def critical : Level := ⟨50⟩

def name (l : Level) : String :=
  match l.rank with
  | 0 => "NOTSET"
  | 10 => "DEBUG"
  | 20 => "INFO"
  | 30 => "WARNING"
  | 40 => "ERROR"
  | 50 => "CRITICAL"
  | rank => s!"Level {rank}"

/-- The name in small letters. -/
def word (l : Level) : String := l.name.toLower

def ofName? : String → Option Level
  | "DEBUG" | "debug" => some debug
  | "INFO" | "info" => some info
  | "WARNING" | "warning" => some warning
  | "ERROR" | "error" => some error
  | "CRITICAL" | "critical" => some critical
  | _ => none

/-- Whether a level counts where entries count from another level on. -/
def reaches (l least : Level) : Bool := least.rank ≤ l.rank

end Level

inductive Notice where
  | badKind (declared : Value)
  | badChoices (allowed : Value)
  | badBound (rule : String) (bound : Value)
  | badPattern (pattern : Value)
  | badExpression (text : String)
  | unknownFormat (name : Value)
  | badDivisor (divisor : Value)
  | skippedDemand (name : Scalar)
  | evaluating (names : List String)
  | pluginRegistered (name : String)
  | pluginFailed (name : String)
  | pluginOfferedNoRules (name : String)
  | duplicateOffer (rule : Scalar) (plugin : String)
  | badOfferName (name : Scalar)
  | offerConflict (name : String)
  | offerNotCallable (name : String)
  | extending (names : List String)
  | fileFailed (path : String)
  | fileLoaded (name path : String)
  | classFailed (name path : String)
  | pluginNotInstantiated (name : String)
  | pluginInstantiated (name : String)

namespace Notice

def level : Notice → Level
  | skippedDemand _ | evaluating _ | pluginRegistered _ | extending _ | fileLoaded _ _
  | pluginInstantiated _ => .debug
  | _ => .warning

/-- The name of the logger that a notice is sent to. -/
def logger : Notice → String
  | badKind _ | badChoices _ | badBound _ _ | badPattern _ | badExpression _ | unknownFormat _
  | badDivisor _ => "jsonrules.domain.rules"
  | skippedDemand _ => "jsonrules.domain.dependencies"
  | evaluating _ => "jsonrules.services.rules"
  | _ => "jsonrules.plugins.manager"

def message : Notice → String
  | badKind v => "type rule disabled: invalid type name " ++ v.display
  | badChoices v => "enum rule disabled: allowed values " ++ v.display ++ " are not a list"
  | badBound rule v => rule ++ " rule disabled: invalid bound " ++ v.display
  | badPattern v => "pattern rule disabled: " ++ v.display ++ " is not a regular expression"
  | badExpression s => "pattern rule disabled: cannot compile " ++ quoted s
  | unknownFormat v => "format rule: " ++ v.display ++ " is not a recognized format"
  | badDivisor v => "multipleOf rule disabled: invalid divisor " ++ v.display
  | skippedDemand name => "dependencies: skipping unknown rule " ++ name.display
  | evaluating names =>
    s!"Evaluating {names.length} rule(s): " ++ (Value.texts names).display
  | pluginRegistered name => "Registered plugin: " ++ name
  | pluginFailed name => "Failed to collect rules from plugin " ++ name
  | pluginOfferedNoRules name => "Plugin " ++ name ++ " returned non-dict rule registrations"
  | duplicateOffer rule plugin =>
    "Skipping duplicate rule " ++ rule.display ++ " from plugin " ++ plugin
  | badOfferName name => "Skipping rule with invalid name " ++ name.display
  | offerConflict name => "Skipping rule " ++ quoted name ++ ": conflicts with a built-in rule"
  | offerNotCallable name => "Skipping rule " ++ quoted name ++ ": factory is not callable"
  | extending names => "Extending rule registry with: " ++ (Value.texts names).display
  | fileFailed path => "Failed to load local plugin " ++ path
  | fileLoaded name path => "Loaded local plugin " ++ name ++ " from " ++ path
  | classFailed name path => "Failed to instantiate plugin class " ++ name ++ " from " ++ path
  | pluginNotInstantiated name => "Failed to instantiate entry-point plugin " ++ name
  | pluginInstantiated name => "Instantiated entry-point plugin: " ++ name

end Notice

end Rulebook
