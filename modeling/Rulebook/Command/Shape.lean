/-!
The commands and their options: the program itself, which takes the name of one of two commands, `check`,
which takes two files, and `rules`. What is said of them on the pages of help is here as well.
-/

namespace Rulebook

/-- The options of all commands. -/
inductive Switch where
  | version | json | quiet | verbose | logJson | config | noPlugins | invert | strict | examples | help
  deriving DecidableEq

namespace Switch

def long : Switch → String
  | version => "--version"
  | json => "--json"
  | quiet => "--quiet"
  | verbose => "--verbose"
  | logJson => "--log-json"
  | config => "--config"
  | noPlugins => "--no-plugins"
  | invert => "--invert"
  | strict => "--strict"
  | examples => "--examples"
  | help => "--help"

/-- The letter of an option that has a short form. -/
def letter? : Switch → Option Char
  | quiet => some 'q'
  | verbose => some 'v'
  | config => some 'c'
  | _ => none

/-- The word for the value of an option that takes one. -/
def value? : Switch → Option String
  | config => some "FILE"
  | _ => none

/-- Whether an option is answered by itself, before anything is done. -/
def isAnswered : Switch → Bool
  | version | examples | help => true
  | _ => false

def about : Switch → String
  | version => "Show the version and exit."
  | json => "Print results as JSON."
  | quiet => "One-line results; hide rule warnings."
  | verbose => "Show rule detail and debug logs."
  | logJson => "Write logs to stderr as JSON lines."
  | config => "Config file to use instead of the nearest jsonrules.toml (or $JSONRULES_CONFIG)."
  | noPlugins => "Use only the built-in rules."
  | invert => "Pass only if the rules fail."
  | strict => "Fail on unknown rule names instead of skipping them."
  | examples => "Show usage examples."
  | help => "Show this message and exit."

/-- The names of an option. -/
def names (s : Switch) : List String :=
  (s.letter?.map fun c => String.ofList ['-', c]).toList ++ [s.long]

end Switch

inductive Command where
  | program | check | rules
  deriving DecidableEq

namespace Command

def programName : String := "jsonrules"

def programVersion : String := "0.1.0"

/-- The commands that the program takes, by name. -/
def byName : List (String × Command) := [("check", check), ("rules", rules)]

/-- What is written to call a command. -/
def call : Command → String
  | program => programName
  | check => programName ++ " check"
  | rules => programName ++ " rules"

def switches : Command → List Switch
  | program => [.version, .json, .quiet, .verbose, .logJson, .config, .noPlugins, .help]
  | check => [.invert, .strict, .examples, .help]
  | rules => [.examples, .help]

/-- The names of the operands that a command needs. -/
def operandNames : Command → List String
  | check => ["RULES_FILE", "VALUE_FILE"]
  | _ => []

/-- What can follow the call of a command. -/
def usage : Command → String
  | program => "[OPTIONS] [COMMAND] [ARGS]..."
  | c => " ".intercalate ("[OPTIONS]" :: c.operandNames)

/-- What a command does, in paragraphs. -/
def about : Command → List String
  | program => ["jsonrules — check JSON values against invertible schema rules."]
  | check => ["Check the value in VALUE_FILE against the rules in RULES_FILE.",
      "RULES_FILE holds a JSON object of rule name to parameter, e.g. \x7b\"type\": \"string\", "
        ++ "\"minLength\": 3\x7d. Use - to read from stdin."]
  | rules => ["List registered rules, including plugin-provided ones."]

def examples : Command → List String
  | program => []
  | check => ["jsonrules check rules.json value.json", "echo '\"hello\"' | jsonrules check rules.json -",
      "jsonrules check rules.json value.json --invert",
      "jsonrules --json check rules.json value.json --strict"]
  | rules => ["jsonrules rules", "jsonrules -q rules", "jsonrules --json rules"]

end Command

end Rulebook
