import Rulebook.Layout.Wrap

/-!
Tables in a frame, with a heading above each column. A column is as wide as its widest cell; if the
table does not fit, the last column gets what the others leave. One blank stands on each side of the
line between two columns and none at the edges, cells are broken into lines unless their column forbids
it, and what does not fit in a cell is cut off with a sign.
-/

namespace Rulebook.Layout

structure Column where
  heading : String
  breaking : Bool
  cells : List String

/-- Characters that end a line where the width of a cell is measured. -/
def isLineEnd (c : Char) : Bool :=
  ['\n', '\x0d', '\x0b', '\x0c', '\x1c', '\x1d', '\x1e', '\x85', '\u2028', '\u2029'].contains c

/-- The width of the widest line of a cell. -/
def cellWidth (s : String) : Nat :=
  (((withoutControls s).splitOnP isLineEnd).map textWidth).foldl max 0

/-- A column in a table, with the blanks to its left and right. -/
structure Placed where
  column : Column
  left : Nat
  right : Nat

namespace Placed

/-- The width that a column asks for, blanks included. -/
def natural (p : Placed) : Nat :=
  ((p.column.heading :: p.column.cells).map cellWidth).foldl max 0 + p.left + p.right

/-- The lines of a cell in a column of a given width, each as wide as the column; a column with no room
for text has no lines. -/
def cellLines (p : Placed) (width : Nat) (s : String) : List String :=
  let inner := width - p.left - p.right
  if inner = 0 then []
  else (wrap inner .ellipsis p.column.breaking s).map fun line =>
    String.ofList (List.replicate p.left ' ' ++ takeWidth inner (clusters line)
      ++ List.replicate p.right ' ')

end Placed

/-- Columns with their blanks; `first` says that none stands before them. -/
def place (first : Bool) : List Column → List Placed
  | [] => []
  | [c] => [⟨c, if first then 0 else 1, 0⟩]
  | c :: rest => ⟨c, if first then 0 else 1, 1⟩ :: place false rest

/-- The widths of columns for which there is only so much room. -/
def columnWidths : Nat → List Placed → List Nat
  | _, [] => []
  | room, p :: rest =>
    let width := min p.natural room
    width :: columnWidths (room - width) rest

/-- The pieces of a horizontal or vertical part of the frame. -/
structure Stroke where
  left : String
  body : String
  crossing : String
  right : String

/-- A horizontal line of the frame. -/
def Stroke.across (r : Stroke) (widths : List Nat) : String :=
  r.left ++ r.crossing.intercalate (widths.map fun w => String.join (List.replicate w r.body)) ++ r.right

/-- The lines of a row, given those of its cells. -/
def Stroke.row (r : Stroke) (widths : List Nat) (cells : List (List String)) : List String :=
  let height := max 1 ((cells.map List.length).foldl max 0)
  (List.range height).map fun i =>
    r.left ++ r.crossing.intercalate ((widths.zip cells).map fun (w, lines) =>
      lines.getD i (String.ofList (List.replicate w ' '))) ++ r.right

/-- The rows of some columns, from top to bottom. -/
def rows (columns : List Column) : List (List String) :=
  let height := (columns.map fun c => c.cells.length).foldl max 0
  (List.range height).map fun i => columns.map fun c => c.cells.getD i ""

/-- A table within a width, as lines. -/
def table (width : Nat) (columns : List Column) : List String :=
  let placed := place true columns
  let widths := columnWidths (width - columns.length - 1) placed
  let lines (r : Stroke) (cells : List String) : List String :=
    r.row widths ((placed.zip (widths.zip cells)).map fun (p, w, s) => p.cellLines w s)
  [Stroke.across ⟨"┏", "━", "┳", "┓"⟩ widths]
    ++ lines ⟨"┃", "", "┃", "┃"⟩ (columns.map (·.heading))
    ++ [Stroke.across ⟨"┡", "━", "╇", "┩"⟩ widths]
    ++ (rows columns).flatMap (lines ⟨"│", "", "│", "│"⟩)
    ++ [Stroke.across ⟨"└", "─", "┴", "┘"⟩ widths]

end Rulebook.Layout
