import Rulebook.Files.Path
import Rulebook.Settings.Layer

/-!
Settings: four flags for output, a section on checks and one on plugins, the directory that relative
paths of plugins start from, and the file that the settings come from. A layer is read into settings if
every value is of use: a flag takes a truth value or a number, a word or a letter that stands for one,
and a directory takes a text. A section can have keys of no meaning, the layer itself cannot.
-/

namespace Rulebook

/-- The texts that stand for a truth value, in any letter case. -/
def flagOfText? (s : String) : Option Bool :=
  match s.toLower with
  | "true" | "t" | "1" | "on" | "y" | "yes" => some true
  | "false" | "f" | "0" | "off" | "n" | "no" => some false
  | _ => none

/-- The truth value that a setting is or stands for. -/
def Value.flag? : Value → Option Bool
  | .bool b => some b
  | .number n => if n.eq (.int 1) then some true else if n.isZero then some false else none
  | .text s => flagOfText? s
  | _ => none

def Value.text? : Value → Option String
  | .text s => some s
  | _ => none

namespace Layer

/-- The flag under a name; there is a default, but a value of no use is none. -/
def flag? (layer : Layer) (name : String) (default : Bool) : Option Bool :=
  match layer.get? name with
  | some v => v.flag?
  | none => some default

def text? (layer : Layer) (name : String) (default : String) : Option String :=
  match layer.get? name with
  | some v => v.text?
  | none => some default

/-- The section under a name, empty if there is none. -/
def section? (layer : Layer) (name : String) : Option Layer :=
  match layer.get? name with
  | some (.object keys) => some keys
  | some _ => none
  | none => some []

end Layer

structure CheckSettings where
  /-- Whether every check is strict. -/
  failOnUnknownRules : Bool
  deriving DecidableEq

structure PluginSettings where
  enabled : Bool
  /-- The directory of plugins, as it is spelt. -/
  localDirectory : String
  deriving DecidableEq

structure Settings where
  root : Path
  config : Option Path
  jsonOutput : Bool
  quiet : Bool
  verbose : Bool
  logJson : Bool
  check : CheckSettings
  plugins : PluginSettings
  deriving DecidableEq

namespace Settings

/-- The keys of the section on checks. -/
def checkKeys : List String := ["fail_on_unknown_rules"]

/-- The keys of the section on plugins. -/
def pluginKeys : List String := ["enabled", "local_dir"]

/-- The names of the flags for output. -/
def flagNames : List String := ["json_output", "quiet", "verbose", "log_json"]

/-- The names that a layer can give values to. The first two are given on each call, so what a layer
says of them has no effect. -/
def names : List String := ["project_root", "config_path"] ++ flagNames ++ ["check", "plugins"]

/-- The section on checks of a layer. -/
def checkOf? (layer : Layer) : Option CheckSettings := do
  let keys ← layer.section? "check"
  return ⟨← keys.flag? "fail_on_unknown_rules" false⟩

/-- The section on plugins of a layer. -/
def pluginsOf? (layer : Layer) : Option PluginSettings := do
  let keys ← layer.section? "plugins"
  return ⟨← keys.flag? "enabled" true, ← keys.text? "local_dir" ".jsonrules/plugins"⟩

/-- Whether a name has a meaning. -/
def isKnown : Scalar → Bool
  | .text name => names.contains name
  | _ => false

/-- The settings that a layer gives. -/
def ofLayer? (root : Path) (config : Option Path) (layer : Layer) : Option Settings := do
  guard (layer.all fun (name, _) => isKnown name)
  return ⟨root, config, ← layer.flag? "json_output" false, ← layer.flag? "quiet" false,
    ← layer.flag? "verbose" false, ← layer.flag? "log_json" false, ← checkOf? layer, ← pluginsOf? layer⟩

/-- The directory of plugins, seen from the root of the project. -/
def pluginDirectory (s : Settings) : Path := s.root.join (.ofText s.plugins.localDirectory)

end Settings

end Rulebook
