import Rulebook.Number.Basic
import Rulebook.Text.Digit
import Rulebook.Text.Blank

/-!
Numbers written as text. An integer is an optional sign and digits; a float may have a point and an
exponent. Digits of every script count, and a single low line may stand between two digits.

`Number.ofText?` reads a text with blanks around it: an integer if it has the form of one and at
most `maxDigits` digits, else a finite float.
-/

namespace Rulebook

/-- The greatest count of digits that is read or written as an integer. -/
def maxDigits : Nat := 4300

/-- Removes each low line between two digits; any other stays and makes the text unreadable. -/
def joinDigits (afterDigit : Bool) : List Char → List Char
  | [] => []
  | c :: rest =>
    if c == '_' && afterDigit && rest.head?.any isDecimalDigit then joinDigits false rest
    else c :: joinDigits (isDecimalDigit c) rest

/-- Splits off a sign; the flag says whether it is a minus. -/
def takeSign : List Char → Bool × List Char
  | '-' :: rest => (true, rest)
  | '+' :: rest => (false, rest)
  | cs => (false, cs)

/-- The number that a row of digits denotes, and zero for what is no digit. -/
def digitsValue (cs : List Char) : Nat :=
  cs.foldl (fun n c => 10 * n + (digitValue? c).getD 0) 0

/-- An integer in a text without low lines. -/
def integerOf? (cs : List Char) : Option Int :=
  let (negative, ds) := takeSign cs
  if ds.isEmpty || !ds.all isDecimalDigit || maxDigits < ds.length then none
  else some (if negative then -(digitsValue ds : Int) else digitsValue ds)

/-- The float nearest to `digits * 10 ^ exponent`, decided by size alone far outside the range. -/
def Binary64.ofDecimal (negative : Bool) (digits : Nat) (exponent : Int) : Binary64 :=
  let size := (Nat.toDigits 10 digits).length + exponent
  if digits = 0 ∨ size < -400 then .nearest negative 0 1
  else if 400 < size then .infinity negative
  else .nearest negative (digits * tenTo exponent.toNat) (tenTo (-exponent).toNat)

/-- The exponent part of a float, zero when there is none. -/
def exponentOf? : List Char → Option Int
  | [] => some 0
  | c :: rest =>
    let (negative, ds) := takeSign rest
    if (c == 'e' || c == 'E') && !ds.isEmpty && ds.all isDecimalDigit then
      some (if negative then -(digitsValue ds : Int) else digitsValue ds)
    else none

/-- Splits off the fraction of a float: its digits after a point, none without one. -/
def takeFraction : List Char → List Char × List Char
  | '.' :: rest => rest.span isDecimalDigit
  | cs => ([], cs)

/-- A finite or overflowing float in a text without low lines. -/
def decimalOf? (cs : List Char) : Option Binary64 :=
  let (negative, body) := takeSign cs
  let (whole, rest) := body.span isDecimalDigit
  let (fraction, rest) := takeFraction rest
  if whole.isEmpty && fraction.isEmpty then none
  else (exponentOf? rest).map fun e =>
    .ofDecimal negative (digitsValue (whole ++ fraction)) (e - fraction.length)

/-- A float with the words for the numbers that are not finite, in any letter case. -/
def Binary64.ofText? (s : String) : Option Binary64 :=
  let cs := trimBlanks s.toList
  let (negative, body) := takeSign cs
  let word := String.ofList (body.map Char.toLower)
  if word = "inf" ∨ word = "infinity" then some (.infinity negative)
  else if word = "nan" then some .nan
  else decimalOf? (joinDigits false cs)

/-- The number a text denotes, blanks at its ends aside. -/
def Number.ofText? (s : String) : Option Number :=
  let cs := joinDigits false (trimBlanks s.toList)
  match integerOf? cs with
  | some n => some (.int n)
  | none =>
    match decimalOf? cs with
    | some (.infinity _) | none => none
    | some x => some (.float x)

end Rulebook
