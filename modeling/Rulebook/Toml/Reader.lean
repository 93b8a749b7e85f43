import Rulebook.Toml.Document

/-!
Reading a TOML document into an object. A document is a list of statements, one to a line: a key with
a value, or the declaration of a table or of an item in a list of tables. The functions on values go
down a bound on the number of steps.
-/

namespace Rulebook.Toml

/-- Reads a key with its value, given how to read a value. -/
def pair (value : List Char → Except Stop (Reading Value)) (cs : List Char) :
    Except Stop (Reading (Key × Value)) := do
  let (key, rest) ← key cs
  match rest with
  | '=' :: rest =>
    let (v, rest) ← value (skipSpace rest)
    return ((key, v), rest)
  | rest => stopAt rest .missingEquals

mutual

/-- Reads one value, within a bound on the number of steps; one more than two for each character is enough,
as an opening bracket takes two. -/
def value : Nat → List Char → Except Stop (Reading Value)
  | 0, cs => stopAt cs .invalidValue
  | fuel + 1, cs =>
    match text? cs with
    | some reading => do
      let (s, rest) ← reading
      return (.text s, rest)
    | none =>
      match cs with
      | '[' :: rest => do
        match ← skipFiller rest.length rest with
        | ']' :: rest => return (.list [], rest)
        | rest => items fuel [] rest
      | '\x7b' :: rest =>
        match skipSpace rest with
        | '\x7d' :: rest => .ok (.object [], rest)
        | rest => members fuel .empty rest
      | _ => plain cs
termination_by structural n => n

/-- Reads the items of a list up to its closing bracket, with those before in reverse. -/
def items : Nat → List Value → List Char → Except Stop (Reading Value)
  | 0, _, cs => stopAt cs .unclosedList
  | fuel + 1, before, cs => do
    let (v, rest) ← value fuel cs
    match ← skipFiller rest.length rest with
    | ']' :: rest => return (.list (v :: before).reverse, rest)
    | ',' :: rest =>
      match ← skipFiller rest.length rest with
      | ']' :: rest => return (.list (v :: before).reverse, rest)
      | rest => items fuel (v :: before) rest
    | rest => stopAt rest .unclosedList
termination_by structural n => n

/-- Reads the members of an inline table up to its closing brace, with those before. -/
def members : Nat → InlineTable → List Char → Except Stop (Reading Value)
  | 0, _, cs => stopAt cs .unclosedTable
  | fuel + 1, before, cs => do
    let ((key, v), rest) ← pair (value fuel) cs
    match before.assign key v with
    | .error cause => stopAt rest cause
    | .ok table =>
      match skipSpace rest with
      | '\x7d' :: rest => return (table.table, rest)
      | ',' :: rest => members fuel table (skipSpace rest)
      | rest => stopAt rest .unclosedTable
termination_by structural n => n

end

/-- Reads a statement that starts with a bracket. -/
def declaration (d : Document) (cs : List Char) : Except Stop (Reading Document) := do
  let d := d.closeHeader
  if startsWith "[[" cs then
    let (key, rest) ← key (skipSpace (cs.drop 2))
    match d.declareItem key with
    | .error cause => stopAt rest cause
    | .ok d =>
      if startsWith "]]" rest then return (d, rest.drop 2)
      stopAt rest .unclosedListName
  else
    let (key, rest) ← key (skipSpace (cs.drop 1))
    match d.declare key with
    | .error cause => stopAt rest cause
    | .ok d =>
      match rest with
      | ']' :: rest => return (d, rest)
      | rest => stopAt rest .unclosedTableName

/-- Reads a statement that starts with a key. -/
def assignment (d : Document) (cs : List Char) : Except Stop (Reading Document) := do
  let ((key, v), rest) ← pair (value (2 * cs.length + 1)) cs
  match d.assign key v with
  | .error cause => stopAt rest cause
  | .ok d => return (d, rest)

/-- Whether a character can start a key. -/
def startsKey (c : Char) : Bool := isBareKeyChar c || c == '"' || c == '\''

/-- Reads what stands on a line before its comment. -/
def statement (d : Document) (cs : List Char) : Except Stop (Reading Document) :=
  match cs with
  | '[' :: _ => declaration d cs
  | '#' :: _ => .ok (d, cs)
  | c :: _ => if startsKey c then assignment d cs else stopAt cs .invalidStatement
  | [] => .ok (d, [])

/-- Reads statements, of which there are at most `fuel`. -/
def statements : Nat → Document → List Char → Except Stop Document
  | 0, d, _ => .ok d
  | fuel + 1, d, cs =>
    match skipSpace cs with
    | [] => .ok d
    | '\n' :: rest => statements fuel d rest
    | cs => do
      let (d, rest) ← statement d cs
      match ← skipComment (skipSpace rest) with
      | [] => return d
      | '\n' :: rest => statements fuel d rest
      | rest => stopAt rest .expectedLineEnd

/-- Why and where a document cannot be read. -/
structure Error where
  cause : Cause
  /-- The line and the column, counted from one; none at the end of the document. -/
  place : Option (Nat × Nat)

def Error.ofStop (cs : List Char) (stop : Stop) : Error :=
  let before := cs.take (cs.length - stop.left)
  ⟨stop.cause,
    if stop.left = 0 then none
    else some (before.count '\n' + 1, (before.reverse.takeWhile (· != '\n')).length + 1)⟩

def Error.message (e : Error) : String :=
  e.cause.message ++ match e.place with
    | some (line, column) => s!" (at line {line}, column {column})"
    | none => " (at end of document)"

/-- Reads a document from text whose lines end in line feeds. -/
def parse (s : String) : Except Error Value :=
  match statements (s.length + 1) .empty s.toList with
  | .ok d => .ok d.table
  | .error stop => .error (.ofStop s.toList stop)

end Rulebook.Toml
