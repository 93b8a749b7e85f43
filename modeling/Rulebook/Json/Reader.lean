import Rulebook.Value.Basic
import Rulebook.Fault

/-!
Reading a JSON document. Beside the standard forms the words `NaN`, `Infinity` and `-Infinity` are
numbers. An integer stays an integer of any size up to `maxDigits` digits, and of two members with
one name the later has the value and the earlier the place.

A reader takes the characters that are left and gives back a value with the characters after it. An
error holds how many characters are left where it lies, from which `Json.Error.ofStop` finds the line.
-/

namespace Rulebook.Json

inductive Cause where
  | byteOrderMark
  | extraData
  | expectingValue
  | expectingName
  | expectingColon
  | expectingComma
  | unterminatedText
  | controlCharacter
  | badEscape
  | badCodePoint
  | tooManyDigits (count : Nat)
  deriving DecidableEq

def Cause.message : Cause → String
  | byteOrderMark => "Unexpected UTF-8 BOM (decode using utf-8-sig)"
  | extraData => "Extra data"
  | expectingValue => "Expecting value"
  | expectingName => "Expecting property name enclosed in double quotes"
  | expectingColon => "Expecting ':' delimiter"
  | expectingComma => "Expecting ',' delimiter"
  | unterminatedText => "Unterminated string starting at"
  | controlCharacter => "Invalid control character at"
  | badEscape => "Invalid \\escape"
  | badCodePoint => "Invalid \\uXXXX escape"
  | tooManyDigits count => (Fault.tooManyDigits count).message

/-- Why reading stopped and how many characters were left there. -/
structure Stop where
  cause : Cause
  left : Nat

/-- Something read and the characters after it. -/
abbrev Reading (α : Type) := α × List Char

def isSpace (c : Char) : Bool := c == ' ' || c == '\t' || c == '\n' || c == '\r'

def skipSpace (cs : List Char) : List Char := cs.dropWhile isSpace

def hexValue? (c : Char) : Option Nat :=
  if '0' ≤ c ∧ c ≤ '9' then some (c.toNat - 48)
  else if 'a' ≤ c ∧ c ≤ 'f' then some (c.toNat - 87)
  else if 'A' ≤ c ∧ c ≤ 'F' then some (c.toNat - 55)
  else none

/-- The number of four hexadecimal digits; something must follow them. -/
def hexUnit? : List Char → Option (Nat × List Char)
  | a :: b :: c :: d :: e :: rest => do
    let u := ((16 * (← hexValue? a) + (← hexValue? b)) * 16 + (← hexValue? c)) * 16 + (← hexValue? d)
    return (u, e :: rest)
  | _ => none

/-- The character that two halves of a pair stand for. -/
def joinPair (high low : Nat) : Char :=
  Char.ofNat (0x10000 + (high - 0xD800) * 0x400 + (low - 0xDC00))

/-- The character of one unit; half a pair on its own becomes the replacement character. -/
def charOfUnit (u : Nat) : Char :=
  if 0xD800 ≤ u ∧ u ≤ 0xDFFF then '\ufffd' else Char.ofNat u

/-- Reads what follows the letter of a `\u` escape, given what is left from the letter on. -/
def codePoint (left : Nat) (cs : List Char) : Except Stop (Reading Char) :=
  match hexUnit? cs with
  | none => .error ⟨.badCodePoint, left⟩
  | some (u, rest) =>
    if 0xD800 ≤ u ∧ u ≤ 0xDBFF then
      match rest with
      | '\\' :: 'u' :: more =>
        if more.length < 5 then .ok (charOfUnit u, rest)
        else
          match hexUnit? more with
          | none => .error ⟨.badCodePoint, more.length + 1⟩
          | some (v, after) =>
            if 0xDC00 ≤ v ∧ v ≤ 0xDFFF then .ok (joinPair u v, after) else .ok (charOfUnit u, rest)
      | _ => .ok (charOfUnit u, rest)
    else .ok (charOfUnit u, rest)

/-- The character that a letter after a backslash stands for. -/
def simpleEscape? : Char → Option Char
  | '"' => some '"'
  | '\\' => some '\\'
  | '/' => some '/'
  | 'b' => some '\x08'
  | 'f' => some '\x0c'
  | 'n' => some '\n'
  | 'r' => some '\r'
  | 't' => some '\t'
  | _ => none

/-- Reads a text after its opening quote; `start` characters were left before that quote. -/
def textBody (start : Nat) : Nat → List Char → List Char → Except Stop (Reading String)
  | 0, _, _ => .error ⟨.unterminatedText, start⟩
  | fuel + 1, read, cs =>
    match cs with
    | [] | ['\\'] => .error ⟨.unterminatedText, start⟩
    | '"' :: rest => .ok (String.ofList read.reverse, rest)
    | '\\' :: 'u' :: rest => do
      let (c, rest) ← codePoint (rest.length + 1) rest
      textBody start fuel (c :: read) rest
    | '\\' :: e :: rest =>
      match simpleEscape? e with
      | some c => textBody start fuel (c :: read) rest
      | none => .error ⟨.badEscape, rest.length + 2⟩
    | c :: rest =>
      if c.toNat < 0x20 then .error ⟨.controlCharacter, rest.length + 1⟩
      else textBody start fuel (c :: read) rest

/-- Reads a text whose opening quote has been taken off. -/
def text (cs : List Char) : Except Stop (Reading String) := textBody (cs.length + 1) (cs.length + 1) [] cs

/-- Splits off the digits at the start. -/
def takeDigits (cs : List Char) : List Char × List Char := cs.span Char.isDigit

/-- Splits off the whole part of a number: zero alone or digits that do not start with it. -/
def takeWhole? : List Char → Option (List Char × List Char)
  | '0' :: rest => some (['0'], rest)
  | c :: rest => if c.isDigit then some (takeDigits (c :: rest)) else none
  | [] => none

/-- Splits off a point with digits after it, if there are any. -/
def takePoint (cs : List Char) : Option (List Char) × List Char :=
  match cs with
  | '.' :: rest =>
    match takeDigits rest with
    | ([], _) => (none, cs)
    | (ds, more) => (some ds, more)
  | _ => (none, cs)

/-- Splits off an exponent, if it has digits. -/
def takeExponent (cs : List Char) : Option Int × List Char :=
  match cs with
  | e :: rest =>
    if e == 'e' || e == 'E' then
      let (negative, body) := takeSign rest
      match takeDigits body with
      | ([], _) => (none, cs)
      | (ds, more) => (some (if negative then -(digitsValue ds : Int) else digitsValue ds), more)
    else (none, cs)
  | [] => (none, cs)

/-- Reads a number. -/
def number (cs : List Char) : Except Stop (Reading Value) :=
  let (negative, body) := match cs with
    | '-' :: rest => (true, rest)
    | _ => (false, cs)
  match takeWhole? body with
  | none => .error ⟨.expectingValue, cs.length⟩
  | some (whole, rest) =>
    let (fraction, rest) := takePoint rest
    let (exponent, rest) := takeExponent rest
    match fraction, exponent with
    | none, none =>
      if maxDigits < whole.length then .error ⟨.tooManyDigits whole.length, cs.length⟩
      else
        let n : Int := digitsValue whole
        .ok (.int (if negative then -n else n), rest)
    | _, _ =>
      let ds := fraction.getD []
      .ok (.float (.ofDecimal negative (digitsValue (whole ++ ds)) (exponent.getD 0 - ds.length)), rest)

/-- The rest of a text after a word, if it starts with it. -/
def afterWord? (word : String) (cs : List Char) : Option (List Char) :=
  if word.toList.isPrefixOf cs then some (cs.drop word.length) else none

/-- The words that are values. -/
def words : List (String × Value) :=
  [("null", .null), ("true", .bool true), ("false", .bool false), ("NaN", .float .nan),
    ("Infinity", .float (.infinity false)), ("-Infinity", .float (.infinity true))]

/-- Reads a word or a number. -/
def scalar (cs : List Char) : Except Stop (Reading Value) :=
  match words.findSome? fun (word, v) => (afterWord? word cs).map (v, ·) with
  | some found => .ok found
  | none => number cs

mutual

/-- Reads one value, within a bound on the number of steps; one more than two for each character is enough,
as an opening bracket takes two. -/
def value : Nat → List Char → Except Stop (Reading Value)
  | 0, cs => .error ⟨.expectingValue, cs.length⟩
  | fuel + 1, cs =>
    match cs with
    | '"' :: rest => do
      let (s, rest) ← text rest
      return (.text s, rest)
    | '[' :: rest =>
      match skipSpace rest with
      | ']' :: rest => .ok (.list [], rest)
      | rest => items fuel [] rest
    | '\x7b' :: rest =>
      match skipSpace rest with
      | '\x7d' :: rest => .ok (.object [], rest)
      | rest => members fuel [] rest
    | _ => scalar cs
termination_by structural n => n

/-- Reads the items of a list up to its closing bracket, with those before in reverse. -/
def items : Nat → List Value → List Char → Except Stop (Reading Value)
  | 0, _, cs => .error ⟨.expectingValue, cs.length⟩
  | fuel + 1, before, cs => do
    let (v, rest) ← value fuel cs
    match skipSpace rest with
    | ']' :: rest => return (.list (v :: before).reverse, rest)
    | ',' :: rest => items fuel (v :: before) (skipSpace rest)
    | rest => .error ⟨.expectingComma, rest.length⟩
termination_by structural n => n

/-- Reads the members of an object up to its closing brace, with those before in reverse. -/
def members : Nat → List (Scalar × Value) → List Char → Except Stop (Reading Value)
  | 0, _, cs => .error ⟨.expectingName, cs.length⟩
  | fuel + 1, before, cs =>
    match cs with
    | '"' :: rest => do
      let (name, rest) ← text rest
      match skipSpace rest with
      | ':' :: rest =>
        let (v, rest) ← value fuel (skipSpace rest)
        match skipSpace rest with
        | '\x7d' :: rest => return (.object (Ordered.ofList ((.text name, v) :: before).reverse), rest)
        | ',' :: rest => members fuel ((.text name, v) :: before) (skipSpace rest)
        | rest => .error ⟨.expectingComma, rest.length⟩
      | rest => .error ⟨.expectingColon, rest.length⟩
    | _ => .error ⟨.expectingName, cs.length⟩
termination_by structural n => n

end

/-- Reads a whole document. -/
def document (cs : List Char) : Except Stop Value :=
  match cs with
  | '\ufeff' :: _ => .error ⟨.byteOrderMark, cs.length⟩
  | _ => do
    let (v, rest) ← value (2 * cs.length + 1) (skipSpace cs)
    match skipSpace rest with
    | [] => return v
    | rest => .error ⟨.extraData, rest.length⟩

/-- Why and where a document cannot be read; lines and columns count from one. -/
structure Error where
  cause : Cause
  line : Nat
  column : Nat
  offset : Nat

/-- The place in a text of a stop. -/
def Error.ofStop (cs : List Char) (stop : Stop) : Error :=
  let before := cs.take (cs.length - stop.left)
  ⟨stop.cause, before.count '\n' + 1, (before.reverse.takeWhile (· != '\n')).length + 1, before.length⟩

def Error.message (e : Error) : String :=
  e.cause.message ++ s!": line {e.line} column {e.column} (char {e.offset})"

/-- Reads a document from text. -/
def parse (s : String) : Except Error Value :=
  (document s.toList).mapError (Error.ofStop s.toList)

end Rulebook.Json
