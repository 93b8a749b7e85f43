import Rulebook.Value.Coercion
import Rulebook.Text.Quoted

/-!
Writing values as JSON. A `Style` says whether what is not ASCII is escaped, what stands between the
parts, how deep levels are indented and how floats are spelt. Without indentation everything is on
one line; with it each part has a line of its own and empty lists and objects stay closed.
-/

namespace Rulebook.Json

structure Style where
  asciiOnly : Bool
  indent : Option Nat
  comma : String
  colon : String
  floats : DecimalStyle
  /-- The spelling of numbers that are not finite, where JSON has none of its own. -/
  nonFinite : Option String

/-- One line without blanks, in ASCII. -/
def compactStyle : Style := ⟨true, none, ",", ":", { plainStyle with infinity := "Infinity", nan := "NaN" }, none⟩

/-- One line with a blank after each comma and colon, in ASCII. -/
def lineStyle : Style := { compactStyle with comma := ", ", colon := ": " }

/-- Two more columns for each level; positional floats start at `0.00001`, and an exponent is as short as
it can be. -/
def indentedStyle : Style :=
  ⟨false, some 2, ",", ": ", { plainStyle with firstPoint := -4, exponentWidth := 1 }, some "null"⟩

/-- A `\u` escape for one unit. -/
def unitEscape (u : Nat) : String := "\\u" ++ hexText 4 u

/-- A character inside a text. -/
def charText (asciiOnly : Bool) (c : Char) : String :=
  match c with
  | '"' => "\\\""
  | '\\' => "\\\\"
  | '\n' => "\\n"
  | '\r' => "\\r"
  | '\t' => "\\t"
  | '\x08' => "\\b"
  | '\x0c' => "\\f"
  | c =>
    let n := c.toNat
    if n < 0x20 then unitEscape n
    else if !asciiOnly || n < 0x7F then String.singleton c
    else if n < 0x10000 then unitEscape n
    else unitEscape (0xD800 + (n - 0x10000) / 0x400) ++ unitEscape (0xDC00 + (n - 0x10000) % 0x400)

namespace Style

/-- A text between quotes. -/
def text (style : Style) (s : String) : String :=
  "\"" ++ String.join (s.toList.map (charText style.asciiOnly)) ++ "\""

def float (style : Style) (x : Binary64) : String :=
  match x.value?, style.nonFinite with
  | none, some word => word
  | _, _ => style.floats.text x

def scalar (style : Style) : Scalar → String
  | .missing => style.text "MISSING"
  | .null => "null"
  | .bool b => if b then "true" else "false"
  | .number (.int n) => toString n
  | .number (.float x) => style.float x
  | .text s => style.text s

/-- A key, which is a text whatever its kind. -/
def key (style : Style) : Scalar → String
  | .text s => style.text s
  | .null => style.text (if style.indent.isSome then "None" else "null")
  | .number (.float x) => style.text (style.floats.text x)
  | s => style.text (style.scalar s)

/-- A line break and the indentation of a level, or nothing on one line. -/
def lineBreak (style : Style) (level : Nat) : String :=
  match style.indent with
  | none => ""
  | some width => "\n" ++ String.ofList (List.replicate (width * level) ' ')

/-- Parts between brackets at a level. -/
def enclose (style : Style) (level : Nat) (opening closing : String) (parts : List String) : String :=
  if parts.isEmpty then opening ++ closing
  else opening ++ style.lineBreak (level + 1)
    ++ (style.comma ++ style.lineBreak (level + 1)).intercalate parts
    ++ style.lineBreak level ++ closing

end Style

mutual

/-- The text of a value at a level of nesting. -/
def Style.value (style : Style) : Nat → Value → String
  | _, .scalar s => style.scalar s
  | level, .list items => style.enclose level "[" "]" (Style.values style (level + 1) items)
  | level, .object members =>
    style.enclose level "\x7b" "\x7d" (Style.members style (level + 1) members)
termination_by structural _ v => v

def Style.values (style : Style) : Nat → List Value → List String
  | _, [] => []
  | level, v :: rest => Style.value style level v :: Style.values style level rest
termination_by structural _ vs => vs

def Style.members (style : Style) : Nat → List (Scalar × Value) → List String
  | _, [] => []
  | level, (k, v) :: rest =>
    (style.key k ++ style.colon ++ Style.value style level v) :: Style.members style level rest
termination_by structural _ ms => ms

end

/-- A value as a JSON document. -/
def print (style : Style) (v : Value) : String := style.value 0 v

end Rulebook.Json
