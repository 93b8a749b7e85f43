import Rulebook.Command.Answer
import Rulebook.Log.Router
import Rulebook.Plugin.Collect
import Rulebook.Plugin.Discovery
import Rulebook.Report.Check
import Rulebook.Report.Text
import Rulebook.Text.Alphanumeric

/-!
Running a command line. The options of the program make the settings, then the options and operands of the
named command are read, then it is done: `check` reads two documents and checks the second against the
first, `rules` lists the rules. A report of success is printed and one of failure is reported; notices
and warnings are reported before it.
-/

namespace Rulebook

/-- What a command line is run with. -/
structure Session where
  surroundings : Surroundings
  /-- What can be read from the standard input. -/
  input : String
  /-- The time that stands in lines of the log. -/
  time : String
  /-- What looking for files of plugins in a directory comes to. -/
  plugins : Path → Listing

namespace Command

/-- Ends with a page if an option of a line asks for one. -/
def heed (c : Command) (line : Line) : Stage Line :=
  match line.answered? with
  | some s => .error (.print (c.page s))
  | none => .ok line

/-- Reads the arguments of a command, and heeds what they ask for. -/
def enter (c : Command) (args : List String) : Stage Line := do
  c.heed (← (c.read args).mapError (Answer.ofMisuse c))

/-! ## The program -/

/-- Why a path cannot name a configuration file. -/
def configObstacle? (w : Surroundings) (spelling : String) : Option String :=
  match w.lookAt spelling with
  | .file _ => none
  | .directory => some ("File " ++ quoted spelling ++ " is a directory.")
  | .missing | .notDirectory => some ("File " ++ quoted spelling ++ " does not exist.")

/-- Looks whether the configuration file that a line names is one. -/
def lookForConfig (w : Surroundings) (line : Line) : Stage Line :=
  match (line.value? .config).bind (configObstacle? w) with
  | some reason => .error (.ofMisuse program (.badValue "'-c' / '--config'" reason))
  | none => .ok line

/-- Reads the arguments of the program. -/
def enterProgram (w : Surroundings) (args : List String) : Stage Line := do
  lookForConfig w (← program.enter args)

/-- The settings that a line asks for. It always says whether a flag for output is set. -/
def request (l : Line) : Settings.Request :=
  ⟨((l.value? .config).map fun s => (Path.ofText s).text).getD "", none,
    if l.has .noPlugins then some false else none,
    [(.text "json_output", .bool (l.has .json)), (.text "quiet", .bool (l.has .quiet)),
      (.text "verbose", .bool (l.has .verbose)), (.text "log_json", .bool (l.has .logJson))]⟩

/-- The settings for a line of the program. -/
def settings (w : Surroundings) (l : Line) : Stage Settings :=
  (Settings.load w (request l)).mapError Answer.ofRefusal

/-- Whether the name of no command can be meant as an option: it starts with another mark than a letter
or a digit. -/
def looksLikeOption (name : String) : Bool :=
  match name.toList with
  | c :: _ => !isAlphanumeric c
  | [] => false

/-- The command of a name. What looks like an option is read as such first. -/
def named (w : Surroundings) (name : String) (args : List String) : Stage Command :=
  match byName.lookup name with
  | some c => .ok c
  | none => do
    if looksLikeOption name then let _ ← enterProgram w (name :: args)
    throw (.ofMisuse program (.unknownCommand name (similarWords name (byName.map (·.1)))))

/-- The files that a line names: for configuration, or as the sources of a check. -/
def filesNamed (args : List String) : List String :=
  match program.read args with
  | .error _ => []
  | .ok line =>
    let inner : Except Misuse Line := match line.operands with
      | [] => .ok line
      | name :: rest =>
        match byName.lookup name with
        | some c => c.read rest
        | none => program.read line.operands
    match inner with
    | .ok l => (line.value? .config).toList ++ (l.value? .config).toList ++ l.operands
    | .error _ => []

end Command

/-! ## Reports -/

def Settings.presentation (s : Settings) : Presentation := ⟨s.jsonOutput, s.quiet, s.verbose⟩

def Settings.logging (s : Settings) : Log.Choice := ⟨s.verbose, s.quiet, s.logJson⟩

/-- The warnings of a report, one to a line; a document has its own. -/
def warningText (p : Presentation) (r : Report) : String :=
  if p.json then "" else Command.unlines (r.warnings.map ("WARNING: " ++ ·))

/-- The answer that gives a report. -/
def Answer.ofReport (p : Presentation) (r : Report) : Answer :=
  match r.text p with
  | .error f => .ofFault f
  | .ok text =>
    if r.ok then ⟨text ++ "\n", warningText p r, .success⟩
    else ⟨"", warningText p r ++ text ++ "\n", .failure⟩

/-- An answer with lines of the log before what it reports. -/
def Answer.logged (a : Answer) (lines : List String) : Answer := { a with err := String.join lines ++ a.err }

namespace Session

/-- The answer of a run that makes a report. -/
def answer (s : Session) (settings : Settings) (x : Run Report) : Answer :=
  let a := match x.result with
    | .ok r => Answer.ofReport settings.presentation r
    | .error f => .ofFault f
  a.logged (settings.logging.lines s.time x.notices)

/-- The rules that settings give: those that are built in, and those of plugins if they are enabled. -/
def registry (s : Session) (settings : Settings) : Run (Registry Maker) :=
  if settings.plugins.enabled then do
    let directory := settings.pluginDirectory
    let plugins ← Plugins.empty.discover 0 (some (directory.text, s.plugins directory))
    plugins.buildRegistry .builtin
  else return .builtin

/-! ## Documents -/

/-- A text that is to be read as a document, with the name of where it comes from. -/
structure Source where
  name : String
  text : String

/-- Opens what an operand names. A dash names the standard input, of which nothing is left once it is
read. -/
def openSource (s : Session) (c : Command) (operand : String) (spelling : String) (inputRead : Bool) :
    Stage Source :=
  if spelling == "-" then .ok ⟨"<stdin>", if inputRead then "" else readText s.input⟩
  else
    match s.surroundings.lookAt spelling with
    | .file text => .ok ⟨spelling, readText text⟩
    | seen =>
      .error (.ofMisuse c (.badValue (quoted operand)
        ("'" ++ spelling ++ "': " ++ seen.obstacle?.getD "")))

/-- Reads a source as a document. -/
def Source.document (source : Source) : Stage Value :=
  match Json.parse source.text with
  | .ok v => .ok v
  | .error e =>
    match e.cause with
    | .tooManyDigits count => .error (.ofFault (.tooManyDigits count))
    | _ => .error (.fail ("Invalid JSON in " ++ source.name ++ ": " ++ e.message))

/-- Reads a source as a requirement document. -/
def Source.requirements (source : Source) : Stage (List (Scalar × Value)) := do
  match ← source.document with
  | .object members => return members
  | _ => throw (.fail (source.name ++ " must contain a JSON object of rule name to parameter"))

/-! ## Commands -/

/-- Refuses operands beyond those that a command takes. -/
def refuseExtra (c : Command) : List String → Stage Unit
  | [] => .ok ()
  | operands => .error (.ofMisuse c (.extraOperands operands))

/-- Opens the operands of a check. -/
def openSources (s : Session) : List String → Stage (Source × Source)
  | [] => .error (.ofMisuse .check (.missingOperand "RULES_FILE"))
  | rules :: rest => do
    let first ← s.openSource .check "RULES_FILE" rules false
    match rest with
    | [] => throw (.ofMisuse .check (.missingOperand "VALUE_FILE"))
    | value :: extra =>
      let second ← s.openSource .check "VALUE_FILE" value (rules == "-")
      refuseExtra .check extra
      return (first, second)

def runCheck (s : Session) (settings : Settings) (args : List String) : Stage Answer := do
  let line ← Command.check.enter args
  let (rules, value) ← s.openSources line.operands
  let requirements ← rules.requirements
  let v ← value.document
  let strict := line.has .strict || settings.check.failOnUnknownRules
  return s.answer settings do
    (← s.registry settings).check v requirements (line.has .invert) strict

def runRules (s : Session) (settings : Settings) (args : List String) : Stage Answer := do
  let line ← Command.rules.enter args
  refuseExtra .rules line.operands
  return s.answer settings do return (← s.registry settings).list

/-- Does what a line of the program asks for. Without a command, the page of the program is printed. -/
def follow (s : Session) (line : Line) : Stage Answer :=
  match line.operands with
  | [] => do
    let _ ← Command.settings s.surroundings line
    return .print (Command.program.page .help)
  | name :: rest => do
    let c ← Command.named s.surroundings name rest
    let settings ← Command.settings s.surroundings line
    match c with
    | .check => s.runCheck settings rest
    | .rules => s.runRules settings rest
    | .program => return .print (Command.program.page .help)

/-- Reads a command line and does what it asks for. -/
def perform (s : Session) (args : List String) : Stage Answer := do
  s.follow (← Command.enterProgram s.surroundings args)

/-- The answer to a command line. -/
def run (s : Session) (args : List String) : Answer :=
  match s.perform args with
  | .ok a | .error a => a

end Session

end Rulebook
