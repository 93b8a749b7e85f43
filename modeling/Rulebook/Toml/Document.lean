import Rulebook.Toml.Scanner

/-!
The tables of a TOML document as it is read. Marks say which tables have been declared and which
values are complete: a table is declared at most once, a list or a table written as a value takes
nothing more, and no key is given a value twice. A key leads through a list of tables to the last one.
-/

namespace Rulebook.Toml

inductive Mark where
  /-- A table that has been declared, or that a key with dots has opened. -/
  | declared
  /-- A list or a table that is written as a value; all below it is complete too. -/
  | complete
  deriving DecidableEq

/-- Marked keys. -/
abbrev Marks := List (Key × Mark)

namespace Marks

def isDeclared (marks : Marks) (key : Key) : Bool := !key.isEmpty && marks.contains (key, .declared)

/-- Whether a key lies at or below a complete value. -/
def isComplete (marks : Marks) (key : Key) : Bool :=
  marks.any fun (k, m) => m == .complete && k.isPrefixOf key

/-- Removes the marks at and below a key. -/
def clear (marks : Marks) (key : Key) : Marks := marks.filter fun (k, _) => !key.isPrefixOf k

end Marks

/-- The members of a table. -/
abbrev Members := List (Scalar × Value)

/-- Changes the table under a key, which is made where it is missing. Fails if something else than a
table is in the way, or if the change fails. -/
def changeTable (throughLists : Bool) (change : Members → Option Members) : Key → Value → Option Value
  | [], .object ms => (change ms).map .object
  | name :: rest, .object ms => do
    let inner ← match Ordered.get? (.text name) ms with
      | none => changeTable throughLists change rest (.object [])
      | some (.list items) =>
        match throughLists, items.getLast? with
        | true, some last => do
          let last ← changeTable throughLists change rest last
          some (.list (items.dropLast ++ [last]))
        | _, _ => none
      | some v => changeTable throughLists change rest v
    return .object (Ordered.insert (.text name) inner ms)
  | _, _ => none

/-- A key without its last part, and that part. -/
def splitKey (key : Key) : Key × String := (key.dropLast, key.getLastD "")

/-- Adds a member that is not there yet. -/
def addMember (name : String) (v : Value) (ms : Members) : Option Members :=
  match Ordered.get? (.text name) ms with
  | some _ => none
  | none => some (Ordered.insert (.text name) v ms)

/-- Adds an empty table to the list under a name. -/
def addTable (name : String) (ms : Members) : Option Members :=
  match Ordered.get? (.text name) ms with
  | none => some (Ordered.insert (.text name) (.list [.object []]) ms)
  | some (.list items) => some (Ordered.insert (.text name) (.list (items ++ [.object []])) ms)
  | some _ => none

/-- Whether a value is a list or a table. -/
def isCompound : Value → Bool
  | .list _ | .object _ => true
  | _ => false

/-- A document that has been read in part. -/
structure Document where
  table : Value
  marks : Marks
  /-- Tables that keys with dots have opened since the last declaration. -/
  pending : List Key
  /-- The table that the next keys belong to. -/
  header : Key

namespace Document

def empty : Document := ⟨.object [], [], [], []⟩

/-- Ends the keys of a table: what they have opened counts as declared. -/
def closeHeader (d : Document) : Document :=
  { d with marks := d.pending.map (·, .declared) ++ d.marks, pending := [] }

/-- Declares a table. -/
def declare (d : Document) (key : Key) : Except Cause Document :=
  if d.marks.isDeclared key || d.marks.isComplete key then .error (.declaredTwice key)
  else
    match changeTable true some key d.table with
    | none => .error .overwritten
    | some table => .ok { d with table, marks := (key, .declared) :: d.marks, header := key }

/-- Declares one more table of a list. -/
def declareItem (d : Document) (key : Key) : Except Cause Document :=
  if d.marks.isComplete key then .error (.immutable key)
  else
    let (parent, name) := splitKey key
    match changeTable true (addTable name) parent d.table with
    | none => .error .overwritten
    | some table => .ok { d with table, marks := (key, .declared) :: d.marks.clear key, header := key }

/-- The tables that a key with dots opens below the header. -/
def opened (d : Document) (key : Key) : List Key :=
  (List.range' 1 (key.length - 1)).map fun n => d.header ++ key.take n

/-- Gives a key below the header a value. -/
def assign (d : Document) (key : Key) (v : Value) : Except Cause Document :=
  let opened := d.opened key
  let (parent, name) := splitKey key
  let parent := d.header ++ parent
  match opened.find? d.marks.isDeclared with
  | some key => .error (.redefined key)
  | none =>
    if d.marks.isComplete parent then .error (.immutable parent)
    else
      match changeTable true (addMember name v) parent d.table with
      | none => .error .overwritten
      | some table =>
        let complete := if isCompound v then [(d.header ++ key, Mark.complete)] else []
        .ok { d with table, marks := complete ++ d.marks, pending := opened ++ d.pending }

end Document

/-- A table written as a value that has been read in part: a compound value is complete once another
member follows. -/
structure InlineTable where
  table : Value
  marks : Marks

namespace InlineTable

def empty : InlineTable := ⟨.object [], []⟩

/-- Gives a key a value. -/
def assign (t : InlineTable) (key : Key) (v : Value) : Except Cause InlineTable :=
  if t.marks.isComplete key then .error (.immutable key)
  else
    let (parent, name) := splitKey key
    match changeTable false some parent t.table with
    | none => .error .overwritten
    | some table =>
      match changeTable false (addMember name v) parent table with
      | none => .error (.duplicateKey name)
      | some table => .ok ⟨table, if isCompound v then (key, .complete) :: t.marks else t.marks⟩

end InlineTable

end Rulebook.Toml
