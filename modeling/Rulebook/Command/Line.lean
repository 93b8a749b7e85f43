import Rulebook.Command.Shape
import Rulebook.Text.Quoted
import Rulebook.Text.Similarity

/-!
Reading the arguments of a command. An argument of two dashes ends the options; one that starts with a
dash, and is more than a dash, gives options; the others are operands. Those of the program end with the
first operand, which names a command and hands on the rest. An option is given by its long name, which can
have a value after an equals sign, or by its letter, and letters can stand together after one dash.
-/

namespace Rulebook

/-- What is wrong with a line. -/
inductive Misuse where
  | unknownOption (name : String) (similar : List String)
  | takesNoValue (name : String)
  | needsValue (name : String)
  | unknownCommand (name : String) (similar : List String)
  | missingOperand (name : String)
  | extraOperands (operands : List String)
  /-- The value for an operand or an option, named as in its hint, is of no use. -/
  | badValue (hint reason : String)
  deriving DecidableEq

namespace Misuse

/-- A text with suggestions after it. -/
def suggesting (s : String) (similar : List String) : String :=
  let named := ", ".intercalate (similar.map quoted)
  match similar with
  | [] => s
  | [_] => s ++ " Did you mean " ++ named ++ "?"
  | _ => s ++ " (Did you mean one of: " ++ named ++ "?)"

def message : Misuse → String
  | unknownOption name similar => suggesting ("No such option " ++ quoted name ++ ".") similar
  | takesNoValue name => "Option " ++ quoted name ++ " does not take a value."
  | needsValue name => "Option " ++ quoted name ++ " requires an argument."
  | unknownCommand name similar => suggesting ("No such command " ++ quoted name ++ ".") similar
  | missingOperand name => "Missing argument " ++ quoted name ++ "."
  | extraOperands operands =>
    "Got unexpected extra argument" ++ (if operands.length = 1 then "" else "s") ++ " ("
      ++ " ".intercalate operands ++ ")"
  | badValue hint reason => "Invalid value for " ++ hint ++ ": " ++ reason

end Misuse

/-- A line as it is read: the options in order, with their values, and the operands. -/
structure Line where
  given : List (Switch × Option String)
  operands : List String
  deriving DecidableEq

namespace Line

def has (l : Line) (s : Switch) : Bool := l.given.any fun (t, _) => t == s

/-- The last value given for an option. -/
def value? (l : Line) (s : Switch) : Option String :=
  ((l.given.filter fun (t, _) => t == s).getLast?).bind (·.2)

/-- The first option that is answered by itself. -/
def answered? (l : Line) : Option Switch := (l.given.find? fun (s, _) => s.isAnswered).map (·.1)

/-- Puts options before those of a line. -/
def after (l : Line) (given : List (Switch × Option String)) : Line := { l with given := given ++ l.given }

end Line

/-- The options in one argument, and the name of the last if the next argument is its value. -/
structure Bunch where
  given : List (Switch × Option String)
  open? : Option (Switch × String)

namespace Command

/-- Reads the letters after a dash. -/
def readLetters (c : Command) : List Char → Except Misuse Bunch
  | [] => .ok ⟨[], none⟩
  | letter :: rest =>
    match c.switches.find? fun s => s.letter? == some letter with
    | none => .error (.unknownOption (String.ofList ['-', letter]) [])
    | some s =>
      if s.value?.isSome then
        if rest.isEmpty then .ok ⟨[], some (s, String.ofList ['-', letter])⟩
        else .ok ⟨[(s, some (String.ofList rest))], none⟩
      else do
        let bunch ← readLetters c rest
        return { bunch with given := (s, none) :: bunch.given }

/-- Reads an argument that starts with a dash. -/
def readDashed (c : Command) (arg : List Char) : Except Misuse Bunch :=
  let name := String.ofList (arg.takeWhile (· != '='))
  let value : Option String := match arg.dropWhile (· != '=') with
    | [] => none
    | _ :: value => some (String.ofList value)
  match c.switches.find? fun s => s.long == name with
  | some s =>
    match s.value?, value with
    | some _, some v => .ok ⟨[(s, some v)], none⟩
    | some _, none => .ok ⟨[], some (s, name)⟩
    | none, some _ => .error (.takesNoValue name)
    | none, none => .ok ⟨[(s, none)], none⟩
  | none =>
    match arg with
    | '-' :: '-' :: _ => .error (.unknownOption name (similarWords name (c.switches.map Switch.long)))
    | _ => c.readLetters (arg.drop 1)

/-- Whether an argument gives options. -/
def isDashed (arg : String) : Bool :=
  match arg.toList with
  | '-' :: _ :: _ => true
  | _ => false

/-- Reads the arguments of a command. -/
def read (c : Command) : List String → Except Misuse Line
  | [] => .ok ⟨[], []⟩
  | arg :: rest =>
    if arg == "--" then .ok ⟨[], rest⟩
    else if isDashed arg then do
      match ← c.readDashed arg.toList with
      | ⟨given, none⟩ => return (← read c rest).after given
      | ⟨given, some (s, name)⟩ =>
        match rest with
        | [] => throw (.needsValue name)
        | v :: rest => return (← read c rest).after (given ++ [(s, some v)])
    else if c = program then .ok ⟨[], arg :: rest⟩
    else do
      let line ← read c rest
      return { line with operands := arg :: line.operands }

end Command

end Rulebook
