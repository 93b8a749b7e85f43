import Rulebook.Number.Literal
import Rulebook.Text.Quoted
import Rulebook.Value.Basic

/-!
The parts of a TOML document: blanks and comments, keys, texts, numbers and moments in time. A reader
takes the characters that are left and gives back what it read with the characters after it; why and
where it stops is a `Stop`, which holds how many characters are left there.
-/

namespace Rulebook.Toml

/-- A key with dots, part by part. -/
abbrev Key := List String

inductive Cause where
  | invalidStatement
  | expectedLineEnd
  | expected (delimiter : String)
  | invalidCharacter (c : Char)
  | illegalCharacter (c : Char)
  | declaredTwice (key : Key)
  | immutable (key : Key)
  | redefined (key : Key)
  | overwritten
  | duplicateKey (name : String)
  | unclosedTableName
  | unclosedListName
  | missingEquals
  | invalidKey
  | unclosedList
  | unclosedTable
  | unescapedBackslash
  | invalidHex
  | notScalarValue
  | unterminatedText
  | invalidMoment
  | invalidValue
  /-- An integer has more digits than are read; this is not counted among the errors of a document. -/
  | tooManyDigits (count : Nat)
  deriving DecidableEq

/-- A key as messages show it. -/
def Key.display (key : Key) : String :=
  match key with
  | [name] => "(" ++ quoted name ++ ",)"
  | names => "(" ++ ", ".intercalate (names.map quoted) ++ ")"

def Cause.message : Cause → String
  | invalidStatement => "Invalid statement"
  | expectedLineEnd => "Expected newline or end of document after a statement"
  | expected delimiter => "Expected " ++ quoted delimiter
  | invalidCharacter c => "Found invalid character " ++ quoted (String.singleton c)
  | illegalCharacter c => "Illegal character " ++ quoted (String.singleton c)
  | declaredTwice key => "Cannot declare " ++ Key.display key ++ " twice"
  | immutable key => "Cannot mutate immutable namespace " ++ Key.display key
  | redefined key => "Cannot redefine namespace " ++ Key.display key
  | overwritten => "Cannot overwrite a value"
  | duplicateKey name => "Duplicate inline table key " ++ quoted name
  | unclosedTableName => "Expected ']' at the end of a table declaration"
  | unclosedListName => "Expected ']]' at the end of an array declaration"
  | missingEquals => "Expected '=' after a key in a key/value pair"
  | invalidKey => "Invalid initial character for a key part"
  | unclosedList => "Unclosed array"
  | unclosedTable => "Unclosed inline table"
  | unescapedBackslash => "Unescaped '\\' in a string"
  | invalidHex => "Invalid hex value"
  | notScalarValue => "Escaped character is not a Unicode scalar value"
  | unterminatedText => "Unterminated string"
  | invalidMoment => "Invalid date or datetime"
  | invalidValue => "Invalid value"
  | tooManyDigits count => (toString count) ++ " digits"

/-- Why reading stopped and how many characters were left there. -/
structure Stop where
  cause : Cause
  left : Nat

/-- Something read and the characters after it. -/
abbrev Reading (α : Type) := α × List Char

/-- Stops at the characters that are left. -/
def stopAt {α : Type} (cs : List Char) (cause : Cause) : Except Stop α := .error ⟨cause, cs.length⟩

def isSpace (c : Char) : Bool := c == ' ' || c == '\t'

def skipSpace (cs : List Char) : List Char := cs.dropWhile isSpace

def skipSpaceAndLines (cs : List Char) : List Char := cs.dropWhile fun c => isSpace c || c == '\n'

/-- Control characters other than the tab, which no text or comment may hold. -/
def isControl (c : Char) : Bool := (c.toNat < 32 && c != '\t') || c.toNat == 127

/-- Whether some characters start with a text. -/
def startsWith (word : String) (cs : List Char) : Bool := word.toList.isPrefixOf cs

/-- The characters before the first place where a delimiter stands, if there is one. -/
def before? (delimiter : List Char) : List Char → Option (List Char)
  | [] => none
  | c :: rest =>
    if delimiter.isPrefixOf (c :: rest) then some []
    else (before? delimiter rest).map (c :: ·)

/-- Refuses characters that a text may not hold; lines may break inside it if `lines` says so. -/
def refuseControls (lines : Bool) (cs : List Char) : List Char → Except Stop Unit
  | [] => .ok ()
  | c :: rest =>
    if isControl c && !(lines && c == '\n') then stopAt cs (.invalidCharacter c)
    else refuseControls lines (cs.drop 1) rest

/-- Skips a comment up to the end of its line. -/
def skipComment (cs : List Char) : Except Stop (List Char) :=
  match cs with
  | '#' :: rest => do
    let comment := rest.takeWhile (· != '\n')
    refuseControls false rest comment
    return rest.drop comment.length
  | _ => .ok cs

/-- Skips blanks, line breaks and comments, of which there are at most `fuel`. -/
def skipFiller : Nat → List Char → Except Stop (List Char)
  | 0, cs => .ok cs
  | fuel + 1, cs =>
    match skipSpaceAndLines cs with
    | '#' :: rest => do skipFiller fuel (← skipComment ('#' :: rest))
    | rest => .ok rest

/-! ### Texts -/

/-- The value of some hexadecimal digits, if that is all they are. -/
def hexNumber? (cs : List Char) : Option Nat :=
  cs.foldlM (fun n c =>
    if '0' ≤ c ∧ c ≤ '9' then some (16 * n + (c.toNat - 48))
    else if 'a' ≤ c ∧ c ≤ 'f' then some (16 * n + (c.toNat - 87))
    else if 'A' ≤ c ∧ c ≤ 'F' then some (16 * n + (c.toNat - 55))
    else none) 0

/-- Reads the digits of an escape. -/
def hexEscape (width : Nat) (cs : List Char) : Except Stop (Reading Char) :=
  let digits := cs.take width
  if digits.length != width then stopAt cs .invalidHex
  else
    match hexNumber? digits with
    | none => stopAt cs .invalidHex
    | some n =>
      let rest := cs.drop width
      if n < 0xD800 || (0xE000 ≤ n && n ≤ 0x10FFFF) then .ok (Char.ofNat n, rest)
      else stopAt rest .notScalarValue

/-- The character that a letter after a backslash stands for. -/
def simpleEscape? : Char → Option Char
  | 'b' => some '\x08'
  | 't' => some '\t'
  | 'n' => some '\n'
  | 'f' => some '\x0c'
  | 'r' => some '\r'
  | '"' => some '"'
  | '\\' => some '\\'
  | _ => none

/-- Reads what follows a backslash; one at the end of a line stands for nothing and hides the blanks
and line breaks after it. -/
def escape (lines : Bool) (cs : List Char) : Except Stop (Reading (Option Char)) :=
  match cs with
  | 'u' :: rest => do
    let (c, rest) ← hexEscape 4 rest
    return (some c, rest)
  | 'U' :: rest => do
    let (c, rest) ← hexEscape 8 rest
    return (some c, rest)
  | c :: rest =>
    if lines && c == '\n' then .ok (none, skipSpaceAndLines rest)
    else if lines && isSpace c then
      match skipSpace rest with
      | [] => .ok (none, [])
      | '\n' :: rest => .ok (none, skipSpaceAndLines rest)
      | rest => stopAt rest .unescapedBackslash
    else
      match simpleEscape? c with
      | some c => .ok (some c, rest)
      | none => stopAt rest .unescapedBackslash
  | [] => stopAt [] .unescapedBackslash

/-- Reads a text with escapes after its opening quotes, given what was read in reverse. -/
def basicBody (lines : Bool) : Nat → List Char → List Char → Except Stop (Reading (List Char))
  | 0, _, cs => stopAt cs .unterminatedText
  | fuel + 1, read, cs =>
    match cs with
    | [] => stopAt [] .unterminatedText
    | '"' :: rest =>
      if !lines then .ok (read.reverse, rest)
      else if startsWith "\"\"" rest then .ok (read.reverse, rest.drop 2)
      else basicBody lines fuel ('"' :: read) rest
    | '\\' :: rest => do
      let (c, rest) ← escape lines rest
      basicBody lines fuel (c.toList ++ read) rest
    | c :: rest =>
      if isControl c && !(lines && c == '\n') then stopAt cs (.illegalCharacter c)
      else basicBody lines fuel (c :: read) rest

/-- Reads a text between single quotes, one or three, after the opening ones. -/
def literalBody (lines : Bool) (delimiter : String) (cs : List Char) :
    Except Stop (Reading (List Char)) :=
  match before? delimiter.toList cs with
  | none => stopAt [] (.expected delimiter)
  | some body => do
    refuseControls lines cs body
    return (body, cs.drop (body.length + delimiter.length))

/-- Adds up to two quotes that stand right after the closing ones. -/
def extraQuotes (quote : Char) (body : List Char) : List Char → Reading String
  | a :: b :: rest =>
    if a == quote then
      if b == quote then (String.ofList (body ++ [quote, quote]), rest)
      else (String.ofList (body ++ [quote]), b :: rest)
    else (String.ofList body, a :: b :: rest)
  | [a] => if a == quote then (String.ofList (body ++ [quote]), []) else (String.ofList body, [a])
  | [] => (String.ofList body, [])

/-- Skips a line break right after the opening quotes. -/
def skipFirstLine : List Char → List Char
  | '\n' :: rest => rest
  | cs => cs

/-- Reads a text on one line, if one starts here. -/
def shortText? (cs : List Char) : Option (Except Stop (Reading String)) :=
  match cs with
  | '"' :: rest => some do
    let (body, rest) ← basicBody false (rest.length + 1) [] rest
    return (String.ofList body, rest)
  | '\'' :: rest => some do
    let (body, rest) ← literalBody false "'" rest
    return (String.ofList body, rest)
  | _ => none

/-- Reads a text, if one starts here. -/
def text? (cs : List Char) : Option (Except Stop (Reading String)) :=
  if startsWith "\"\"\"" cs then some do
    let rest := skipFirstLine (cs.drop 3)
    let (body, rest) ← basicBody true (rest.length + 1) [] rest
    return extraQuotes '"' body rest
  else if startsWith "'''" cs then some do
    let (body, rest) ← literalBody true "'''" (skipFirstLine (cs.drop 3))
    return extraQuotes '\'' body rest
  else shortText? cs

/-! ### Keys -/

def isBareKeyChar (c : Char) : Bool := c.isAlphanum || c == '-' || c == '_'

/-- Reads one part of a key. -/
def keyPart (cs : List Char) : Except Stop (Reading String) :=
  match shortText? cs with
  | some reading => reading
  | none =>
    match cs.span isBareKeyChar with
    | ([], _) => stopAt cs .invalidKey
    | (name, rest) => .ok (String.ofList name, rest)

/-- Reads the parts of a key after the first, which each follow a dot. -/
def keyRest : Nat → List String → List Char → Except Stop (Reading Key)
  | 0, read, cs => .ok (read.reverse, cs)
  | fuel + 1, read, cs =>
    match cs with
    | '.' :: rest => do
      let (part, rest) ← keyPart (skipSpace rest)
      keyRest fuel (part :: read) (skipSpace rest)
    | _ => .ok (read.reverse, cs)

/-- Reads a key with the blanks after it. -/
def key (cs : List Char) : Except Stop (Reading Key) := do
  let (part, rest) ← keyPart cs
  keyRest (rest.length + 1) [part] (skipSpace rest)

/-! ### Moments in time -/

/-- Splits off two digits that denote a number in a range. -/
def twoDigits? (least greatest : Nat) : List Char → Option (Nat × List Char)
  | a :: b :: rest =>
    let n := 10 * (a.toNat - 48) + (b.toNat - 48)
    if a.isDigit && b.isDigit && least ≤ n && n ≤ greatest then some (n, rest) else none
  | _ => none

/-- Splits off a given character. -/
def sign? (c : Char) : List Char → Option (List Char)
  | d :: rest => if c == d then some rest else none
  | [] => none

/-- What follows a fraction of a second, if there is one. -/
def skipFraction (cs : List Char) : List Char :=
  match cs with
  | '.' :: d :: rest => if d.isDigit then rest.dropWhile Char.isDigit else cs
  | _ => cs

/-- What follows a time of day. -/
def afterTime? (cs : List Char) : Option (List Char) := do
  let (_, cs) ← twoDigits? 0 23 cs
  let (_, cs) ← twoDigits? 0 59 (← sign? ':' cs)
  let (_, cs) ← twoDigits? 0 59 (← sign? ':' cs)
  return skipFraction cs

/-- What follows an offset from universal time, if there is one. -/
def skipOffset (cs : List Char) : List Char :=
  match cs with
  | 'Z' :: rest | 'z' :: rest => rest
  | c :: rest =>
    if c == '+' || c == '-' then
      (do
        let (_, rest) ← twoDigits? 0 23 rest
        let (_, rest) ← twoDigits? 0 59 (← sign? ':' rest)
        return rest : Option (List Char)).getD cs
    else cs
  | [] => cs

/-- What follows the time of a date, if it has one. -/
def skipTime (cs : List Char) : List Char :=
  match cs with
  | c :: rest =>
    if c == 'T' || c == 't' || c == ' ' then ((afterTime? rest).map skipOffset).getD cs else cs
  | [] => cs

def isLeapYear (year : Nat) : Bool := year % 4 == 0 && (year % 100 != 0 || year % 400 == 0)

/-- The number of days in a month. -/
def daysIn (year month : Nat) : Nat :=
  if month == 2 then (if isLeapYear year then 29 else 28)
  else if [4, 6, 9, 11].contains month then 30
  else 31

/-- Reads a date with or without a time; the flag says whether there is such a date. -/
def date? (cs : List Char) : Option (Bool × List Char) := do
  let year := cs.take 4
  if year.length != 4 || !year.all Char.isDigit then none
  let (month, rest) ← twoDigits? 1 12 (← sign? '-' (cs.drop 4))
  let (day, rest) ← twoDigits? 1 31 (← sign? '-' rest)
  let year := digitsValue year
  return (year != 0 && day ≤ daysIn year month, skipTime rest)

/-! ### Numbers -/

/-- Splits off digits between any two of which a low line may stand, the first already read. -/
def moreDigits (isDigit : Char → Bool) : List Char → List Char × List Char
  | '_' :: d :: rest =>
    if isDigit d then
      let (ds, after) := moreDigits isDigit rest
      (d :: ds, after)
    else ([], '_' :: d :: rest)
  | c :: rest =>
    if isDigit c then
      let (ds, after) := moreDigits isDigit rest
      (c :: ds, after)
    else ([], c :: rest)
  | [] => ([], [])

/-- Splits off a row of digits. -/
def digits? (isDigit : Char → Bool) : List Char → Option (List Char × List Char)
  | c :: rest =>
    if isDigit c then
      let (ds, after) := moreDigits isDigit rest
      some (c :: ds, after)
    else none
  | [] => none

def isHexDigit (c : Char) : Bool := c.isDigit || ('a' ≤ c && c ≤ 'f') || ('A' ≤ c && c ≤ 'F')

/-- The digits that belong to a letter after a zero. -/
def base? : Char → Option (Nat × (Char → Bool))
  | 'x' => some (16, isHexDigit)
  | 'b' => some (2, fun c => c == '0' || c == '1')
  | 'o' => some (8, fun c => '0' ≤ c && c ≤ '7')
  | _ => none

/-- Reads an integer in a base that its second character names. -/
def basedInteger? : List Char → Option (Int × List Char)
  | '0' :: letter :: rest => do
    let (base, isDigit) ← base? letter
    let (ds, rest) ← digits? isDigit rest
    return (ds.foldl (fun n c => base * n + ((hexNumber? [c]).getD 0 : Nat)) 0, rest)
  | _ => none

/-- Splits off the whole part of a decimal number: zero, or digits that do not start with it. -/
def whole? : List Char → Option (List Char × List Char)
  | '0' :: rest => some (['0'], rest)
  | cs => digits? Char.isDigit cs

/-- Splits off a fraction, if there is one. -/
def fraction (cs : List Char) : Option (List Char) × List Char :=
  match cs with
  | '.' :: rest =>
    match digits? Char.isDigit rest with
    | some (ds, rest) => (some ds, rest)
    | none => (none, cs)
  | _ => (none, cs)

/-- Splits off an exponent, if there is one. -/
def exponent (cs : List Char) : Option Int × List Char :=
  match cs with
  | e :: rest =>
    let (negative, body) := takeSign rest
    match digits? Char.isDigit body with
    | some (ds, after) =>
      if e == 'e' || e == 'E' then
        (some (if negative then -(digitsValue ds : Int) else digitsValue ds), after)
      else (none, cs)
    | none => (none, cs)
  | [] => (none, cs)

/-- Reads a decimal number, if one starts here. -/
def decimal? (cs : List Char) : Option (Except Stop (Reading Value)) := do
  let (negative, body) := takeSign cs
  let (whole, rest) ← whole? body
  let (fraction, rest) := fraction rest
  let (exponent, rest) := exponent rest
  match fraction, exponent with
  | none, none =>
    if maxDigits < whole.length then some (stopAt cs (.tooManyDigits whole.length))
    else
      let n : Int := digitsValue whole
      some (.ok (.int (if negative then -n else n), rest))
  | _, _ =>
    let ds := fraction.getD []
    some (.ok (.float (.ofDecimal negative (digitsValue (whole ++ ds)) (exponent.getD 0 - ds.length)), rest))

/-- The words that are values. -/
def words : List (String × Value) :=
  [("inf", .float (.infinity false)), ("nan", .float .nan), ("-inf", .float (.infinity true)),
    ("+inf", .float (.infinity false)), ("-nan", .float .nan), ("+nan", .float .nan)]

/-- Reads a truth value, a moment, which is read as null, a number or a word. -/
def plain (cs : List Char) : Except Stop (Reading Value) :=
  if startsWith "true" cs then .ok (.bool true, cs.drop 4)
  else if startsWith "false" cs then .ok (.bool false, cs.drop 5)
  else
    match date? cs with
    | some (true, rest) => .ok (.null, rest)
    | some (false, _) => stopAt cs .invalidMoment
    | none =>
      match afterTime? cs with
      | some rest => .ok (.null, rest)
      | none =>
        match basedInteger? cs with
        | some (n, rest) => .ok (.int n, rest)
        | none =>
          match decimal? cs with
          | some reading => reading
          | none =>
            match words.find? fun (word, _) => startsWith word cs with
            | some (word, v) => .ok (v, cs.drop word.length)
            | none => stopAt cs .invalidValue

end Rulebook.Toml
