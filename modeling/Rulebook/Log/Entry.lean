import Rulebook.Json.Printer
import Rulebook.Notice

/-!
Entries of the log and the lines that they make. A line is either a row of columns, of which the level and
the event are padded and the fields come in order of name, or an object of JSON that starts with the fields
in their own order.
-/

namespace Rulebook.Log

structure Entry where
  logger : String
  level : Level
  event : String
  fields : List (String × Value)

/-- The entry of a notice. -/
def Entry.ofNotice (n : Notice) : Entry := ⟨n.logger, n.level, n.message, []⟩

/-- What the lines of a log look like. -/
inductive LineForm where
  | columns | json
  deriving DecidableEq

/-- A text with blanks after it up to a width. -/
def padded (width : Nat) (s : String) : String :=
  s ++ String.ofList (List.replicate (width - s.length) ' ')

/-- The characters that a text does not have in a column without quotes. -/
def columnMarks : List Char := [' ', '\t', '=', '\r', '\n', '"', '\'']

/-- A value in a column. -/
def columnText : Value → String
  | .text s => if s.toList.any columnMarks.contains then quoted s else s
  | v => v.display

namespace Entry

/-- What an entry holds beside its fields; a field of such a name is replaced. -/
def standing (e : Entry) (time : String) : List (String × Value) :=
  [("event", .text e.event), ("level", .text e.level.word), ("logger", .text e.logger),
    ("timestamp", .text time)]

/-- All that an entry holds. -/
def content (e : Entry) (time : String) : List (String × Value) :=
  Ordered.union e.fields (e.standing time)

/-- The fields in order of name, as columns. -/
def fieldColumns (e : Entry) : List String :=
  let own := e.fields.filter fun (name, _) => !(e.standing "").any fun (n, _) => n == name
  (own.mergeSort fun (m, _) (n, _) => decide (m ≤ n)).map fun (name, v) => name ++ "=" ++ columnText v

/-- An entry as a row of columns. -/
def columns (e : Entry) (time : String) : String :=
  let row := [time, "[" ++ padded 9 e.level.word ++ "]", padded 30 e.event, "[" ++ e.logger ++ "]"]
    ++ e.fieldColumns
  String.ofList (((" ".intercalate row).toList.reverse.dropWhile (· == ' ')).reverse)

/-- An entry as a line, with its end. -/
def line (e : Entry) (time : String) : LineForm → String
  | .columns => e.columns time ++ "\n"
  | .json => Json.print Json.lineStyle (.record (e.content time)) ++ "\n"

end Entry

end Rulebook.Log
