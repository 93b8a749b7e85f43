import Rulebook.Json.Printer
import Rulebook.Layout.Table
import Rulebook.Report.Basic
import Rulebook.Value.Display

/-!
The text of a report: a JSON document, one line, or a page for readers. A page starts with a status
line; what follows depends on the operation, and after a failure it is a table of what failed or, if
asked for, the detail of the problem. Pages are `pageWidth` columns wide. JSON goes before one line.
-/

namespace Rulebook

/-- How reports are to be written. -/
structure Presentation where
  json : Bool
  quiet : Bool
  verbose : Bool
  deriving DecidableEq

namespace Report

def pageWidth : Nat := 120

/-- A report as a document. -/
def document (r : Report) : Value :=
  .record [("ok", .bool r.ok), ("op", .text r.operation), ("data", .record r.data),
    ("warnings", .texts r.warnings),
    ("error", match r.problem with
      | some p => .record [("code", .text p.code), ("message", .text p.message), ("detail", .record p.detail)]
      | none => .null)]

/-- The message of the problem. -/
def problemMessage (r : Report) : String :=
  match r.problem with
  | some p => p.message
  | none => "Unknown error"

/-- The texts that are the items of a list, from item number `i` on. -/
def textItems (i : Nat) : List Value → Except Fault (List String)
  | [] => .ok []
  | .text s :: rest => return s :: (← textItems (i + 1) rest)
  | v :: _ => .error (.notTextItem i v.typeName)

/-- The names in a value that is put on one line. -/
def namesIn : Value → Except Fault (List String)
  | .list items => textItems 0 items
  | .object members => textItems 0 (members.map fun (k, _) => .scalar k)
  | .text s => .ok (s.toList.map String.singleton)
  | _ => .error .notJoinable

/-- The names in a value that is put in a column. -/
def entriesIn : Value → Except Fault (List String)
  | .list items => items.mapM fun
    | .text s => .ok s
    | v => .error (.lacksPart v.typeName "translate")
  | .object members => members.mapM fun
    | (.text s, _) => .ok s
    | (k, _) => .error (.lacksPart (Value.scalar k).typeName "translate")
  | .text s => .ok (s.toList.map String.singleton)
  | v => .error (.notIterable v.typeName)

/-- What the data hold under `rules`, an empty list if they hold nothing. -/
def rules (r : Report) : Value := (r.get? "rules").getD (.list [])

/-- A report on one line. -/
def line (r : Report) : Except Fault String :=
  if !r.ok then .ok ("ERROR: " ++ r.operation ++ " — " ++ r.problemMessage)
  else if r.operation = "list_rules" then return "\n".intercalate (← namesIn r.rules)
  else .ok ("OK: " ++ r.operation)

/-- A value on one line of JSON if it has parts, and as plain text otherwise. -/
def shortText : Value → String
  | .scalar s => s.plainText
  | v => Json.print Json.compactStyle v

/-- The lines of a named value. -/
def field (name text : String) : List String :=
  Layout.paragraph pageWidth ("  " ++ name ++ ":  " ++ text)

/-- The table of what failed, with the details. -/
def failureTable : Value → Except Fault (List String)
  | .object members => do
    let names ← entriesIn (.object members)
    return Layout.table pageWidth
      [⟨"Rule", false, names⟩,
        ⟨"Detail", true, members.map fun (_, detail) => Json.print Json.compactStyle detail⟩]
  | v => .error (.lacksPart v.typeName "items")

/-- The lines of the detail of the problem, if it is asked for and there is one. -/
def detailLines (r : Report) (verbose : Bool) : List String :=
  match r.problem with
  | some p =>
    if verbose && !p.detail.isEmpty then
      "  detail:" :: p.detail.flatMap fun (name, v) =>
        Layout.paragraph pageWidth ("    " ++ name ++ ": " ++ v.plainText)
    else []
  | none => []

/-- The lines after the status of a failure. -/
def failureLines (r : Report) (verbose : Bool) : Except Fault (List String) :=
  let errors := (r.get? "errors").getD .null
  if errors.truthy then failureTable errors else .ok (r.detailLines verbose)

/-- The lines after the status of a success. -/
def successLines (r : Report) : Except Fault (List String) :=
  match r.operation with
  | "check" => do
    let names ← if r.rules.truthy then namesIn r.rules else .ok ["(none)"]
    return field "rules" (", ".intercalate names)
  | "list_rules" => do
    let names ← entriesIn r.rules
    return Layout.table pageWidth [⟨"Rule", true, names⟩]
      ++ field "count" ((r.get? "count").getD (.int 0)).plainText
  | _ => .ok (r.data.flatMap fun (name, v) => field name (shortText v))

/-- A report as the lines of a page. -/
def page (r : Report) (verbose : Bool) : Except Fault (List String) :=
  if r.ok then
    return Layout.paragraph pageWidth ("OK   " ++ r.operation) ++ (← r.successLines)
  else
    return Layout.paragraph pageWidth ("ERROR   " ++ r.operation ++ "  —  " ++ r.problemMessage)
      ++ (← r.failureLines verbose)

/-- Lines as one text, without line breaks at its end. -/
def joinLines (lines : List String) : String :=
  String.ofList ((("\n".intercalate lines).toList.reverse.dropWhile (· == '\n')).reverse)

/-- The text of a report. -/
def text (r : Report) (p : Presentation) : Except Fault String :=
  if p.json then .ok (Json.print Json.indentedStyle r.document)
  else if p.quiet then r.line
  else return joinLines (← r.page p.verbose)

end Report

end Rulebook
