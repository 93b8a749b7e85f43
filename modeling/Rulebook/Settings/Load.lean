import Rulebook.Files.Tree
import Rulebook.Settings.Basic
import Rulebook.Toml.Reader

/-!
Loading settings. From the lowest to the highest the layers are the defaults, the configuration file, the
environment and what the caller sets. The file is the one that the caller names, or the one that a
variable names, or else the nearest in the starting directory and those above. A file that cannot be used
is reported under its path.
-/

namespace Rulebook.Settings

/-- The name of configuration files. -/
def configName : String := "jsonrules.toml"

/-- The variable that names a configuration file. -/
def configVariable : String := "JSONRULES_CONFIG"

/-- The configuration file in a directory. -/
def configIn (w : Surroundings) (directory : Path) : Option Path :=
  let file := directory.child configName
  if w.isFile file then some file else none

/-- The nearest configuration file in a directory and those above. -/
def nearestConfig (w : Surroundings) (start : Path) : Option Path :=
  (Path.resolve w.directory start).lineage.findSome? (configIn w)

/-- The configuration file to use. One that a variable names is used if it is a file, and else there is
none. -/
def findConfig (w : Surroundings) (start : Option Path) : Option Path :=
  let named := (w.valueOf? configVariable).getD ""
  if named.isEmpty then nearestConfig w (start.getD w.directory)
  else
    let file := Path.ofText named
    if w.isFile file then some file else none

/-- What a caller asks for. -/
structure Request where
  /-- The configuration file as it is spelt; an empty text names none. -/
  config : String
  root : Option Path
  /-- Whether plugins are enabled, whatever the layers say. -/
  plugins : Option Bool
  layer : Layer

/-- A request that leaves all open. -/
def Request.plain : Request := ⟨"", none, none, []⟩

/-- What is wrong in a configuration file: the keys that lead to it, and the reason. -/
structure Complaint where
  place : String
  reason : String

/-- What a key of a section takes. -/
inductive KeyKind where
  | flag
  | text

namespace KeyKind

def accepts : KeyKind → Value → Bool
  | flag, v => v.flag?.isSome
  | text, v => v.text?.isSome

/-- The reason against a value that a key does not take: a text or a whole number of 64 bits is looked into
for a truth value. -/
def reason : KeyKind → Value → String
  | text, _ => "Input should be a valid string"
  | flag, v =>
    let lookedInto := match v with
      | .text _ => true
      | .number n =>
        match n.toInt? with
        | some (.ofNat k) | some (.negSucc k) => decide (k < twoTo 63)
        | none => false
      | _ => false
    if lookedInto then "Input should be a valid boolean, unable to interpret input"
    else "Input should be a valid boolean"

end KeyKind

/-- A section that is read by itself. -/
structure ConfigSection where
  name : String
  title : String
  keys : List (String × KeyKind)

/-- The sections of a configuration file. -/
def configSections : List ConfigSection :=
  [⟨"check", "CheckConfig", [("fail_on_unknown_rules", .flag)]⟩,
    ⟨"plugins", "PluginsConfig", [("enabled", .flag), ("local_dir", .text)]⟩]

/-- What is wrong with a section of a layer. -/
def ConfigSection.complaints (s : ConfigSection) (layer : Layer) : List Complaint :=
  match layer.section? s.name with
  | none => [⟨s.name, "Input should be a valid dictionary or instance of " ++ s.title⟩]
  | some keys => s.keys.filterMap fun (key, kind) =>
    match keys.get? key with
    | some v => if kind.accepts v then none else some ⟨s.name ++ "." ++ key, kind.reason v⟩
    | none => none

/-- What is wrong with the sections of a layer. -/
def complaintsOf (layer : Layer) : List Complaint := configSections.flatMap (·.complaints layer)

inductive Refusal where
  /-- The file that the caller names is none. -/
  | noConfig (spelling : String)
  | badDocument (file : Path) (error : Toml.Error)
  | badSection (file : Path) (complaints : List Complaint)
  /-- An integer in the file has more digits than are read. -/
  | tooManyDigits (count : Nat)
  /-- A variable that holds a section is no document. -/
  | badVariable (error : Json.Error)
  /-- A value is of no use for its name, or a name has no meaning. -/
  | badValue

namespace Refusal

/-- The message of a refusal that is reported; the others end the program. After a reason it leaves out what
a library adds on the kind of the value and on further reading. -/
def message? : Refusal → Option String
  | noConfig spelling => some ("Config file not found: " ++ spelling)
  | badDocument file error => some ("Invalid TOML in " ++ file.text ++ ": " ++ error.message)
  | badSection file complaints => some ("Invalid config in " ++ file.text ++ ": "
      ++ (if complaints.length = 1 then "1 validation error" else s!"{complaints.length} validation errors")
      ++ " for RulesConfig" ++ String.join (complaints.map fun c => "\n" ++ c.place ++ "\n  " ++ c.reason))
  | tooManyDigits _ | badVariable _ | badValue => none

end Refusal

/-- The layer of a configuration file. Its sections are read by themselves first. -/
def fileLayer (file : Path) (text : String) : Except Refusal Layer :=
  match Toml.parse (readText text) with
  | .error ⟨.tooManyDigits count, _⟩ => .error (.tooManyDigits count)
  | .error e => .error (.badDocument file e)
  | .ok (.object layer) =>
    match complaintsOf layer with
    | [] => .ok layer
    | complaints => .error (.badSection file complaints)
  | .ok _ => .ok []

/-- The layer of the configuration file in use, empty if there is none. -/
def configLayer (w : Surroundings) : Option Path → Except Refusal Layer
  | none => .ok []
  | some file =>
    match w.look file with
    | .file text => fileLayer file text
    | _ => .ok []

/-- The usual names of the variables that settings come from. -/
def variableNames : List String :=
  configVariable :: (flagNames ++ ["check", "plugins"] ++ checkKeys.map ("check__" ++ ·)
    ++ pluginKeys.map ("plugins__" ++ ·)).map fun name => (Environment.lead ++ name).toUpper

/-- A section in the environment, as a layer. -/
def sectionLayer (name : String) (keys : List String) (given : List (String × String)) :
    Except Refusal Layer :=
  match Environment.sectionValue? name keys given with
  | .ok (some v) => .ok [(.text name, v)]
  | .ok none => .ok []
  | .error e => .error (.badVariable e)

/-- The flags in the environment, as a layer. -/
def flagLayer (given : List (String × String)) : Layer :=
  flagNames.filterMap fun name => (given.lookup (Environment.lead ++ name)).map fun s => (.text name, .text s)

/-- The layer of the environment. -/
def environmentLayer (w : Surroundings) : Except Refusal Layer := do
  let given := Environment.smallNamed w.environment
  return flagLayer given ++ (← sectionLayer "check" checkKeys given)
    ++ (← sectionLayer "plugins" pluginKeys given)

/-- The configuration file that a request leads to. -/
def Request.configFile (r : Request) (w : Surroundings) : Except Refusal (Option Path) :=
  if r.config.isEmpty then .ok (findConfig w r.root)
  else
    let file := Path.ofText r.config
    if w.isFile file then .ok (some file) else .error (.noConfig r.config)

/-- The root of the project: as asked for, or where the configuration file is, or where one stands. -/
def Request.rootFor (r : Request) (w : Surroundings) (config : Option Path) : Path :=
  r.root.getD ((config.map Path.parent).getD w.directory)

/-- Sets whether plugins are enabled, if something is said of it. -/
def withPlugins (s : Settings) : Option Bool → Settings
  | some enabled => { s with plugins := { s.plugins with enabled } }
  | none => s

/-- Loads the settings for a request. -/
def load (w : Surroundings) (r : Request) : Except Refusal Settings := do
  let config ← r.configFile w
  let file ← configLayer w config
  let environment ← environmentLayer w
  match ofLayer? (r.rootFor w config) config (Layer.overlay (Layer.overlay file environment) r.layer) with
  | some s => return s.withPlugins r.plugins
  | none => throw .badValue

end Rulebook.Settings
