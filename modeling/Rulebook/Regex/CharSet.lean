import Rulebook.Text.Alphanumeric
import Rulebook.Text.Blank
import Rulebook.Text.Case
import Rulebook.Text.Digit

/-!
Sets of characters, the part of a pattern that decides one character at a time. Without regard to
case a set holds lower forms, and the lower form of a character is looked up in it; so a set is made
from what is written (`Piece`) by `CharSet.make`, which leaves the letter case alone where no
character of the set has another form.
-/

namespace Rulebook.Regex

/-- How letter case is treated: kept, folded for ASCII letters, or folded for all letters. -/
inductive CaseFold where
  | exact | ascii | unicode
  deriving DecidableEq

/-- The form of a code point that is compared. -/
def CaseFold.apply : CaseFold → Nat → Nat
  | .exact, n => n
  | .ascii, n => if 0x41 ≤ n ∧ n ≤ 0x5A then n + 32 else n
  | .unicode, n => lowerCode n

/-- Whether a code point between two bounds has another form. -/
def CaseFold.meets : CaseFold → Nat → Nat → Bool
  | .exact, _, _ => false
  | .ascii, low, high => (low ≤ 0x5A && 0x41 ≤ high) || (low ≤ 0x7A && 0x61 ≤ high)
  | .unicode, low, high => hasCased low high

/-- The code points with a given form. -/
def CaseFold.sources : CaseFold → Nat → List Nat
  | .exact, n => [n]
  | .ascii, n => [n, n - 32].filter fun m => CaseFold.ascii.apply m == n
  | .unicode, n => withLower n

/-- The other forms that match a form. -/
def CaseFold.siblings : CaseFold → Nat → List Nat
  | .unicode, n => siblingsOf n
  | _, _ => []

/-- The classes of characters that have a letter of their own. -/
inductive Category where
  | digit | space | word
  deriving DecidableEq

/-- Whether a character is of a class, among ASCII characters alone if so asked. -/
def Category.holds (k : Category) (asciiOnly : Bool) (c : Char) : Bool :=
  let n := c.toNat
  match k with
  | .digit => if asciiOnly then c.isDigit else isDecimalDigit c
  | .space => if asciiOnly then n == 0x20 || (0x09 ≤ n && n ≤ 0x0D) else isBlank c
  | .word => (if asciiOnly then c.isAlphanum else isAlphanumeric c) || c == '_'

/-- A part of a set as it is looked up. -/
inductive Item where
  /-- The code points between two bounds. -/
  | range (low high : Nat)
  /-- The forms of the code points between two bounds. -/
  | formsOf (fold : CaseFold) (low high : Nat)
  /-- What lies between two bounds in lower or upper case. -/
  | eitherCase (low high : Nat)
  | category (k : Category) (asciiOnly negated : Bool)
  deriving DecidableEq

def Item.holds : Item → Nat → Bool
  | .range low high, n => low ≤ n && n ≤ high
  | .formsOf fold low high, n =>
    (n :: fold.siblings n).any fun f => (fold.sources f).any fun m => low ≤ m && m ≤ high
  | .eitherCase low high, n =>
    (low ≤ n && n ≤ high) || (low ≤ upperCode n && upperCode n ≤ high)
  | .category k asciiOnly negated, n => k.holds asciiOnly (Char.ofNat n) != negated

/-- A set of characters: the form of a character under `fold` is among the items, or is not. -/
structure CharSet where
  negated : Bool
  fold : CaseFold
  items : List Item
  deriving DecidableEq

namespace CharSet

def contains (s : CharSet) (c : Char) : Bool :=
  s.items.any (fun i => i.holds (s.fold.apply c.toNat)) != s.negated

/-- A part of a set as it is written. -/
inductive Piece where
  | one (n : Nat)
  | range (low high : Nat)
  | category (k : Category) (asciiOnly negated : Bool)
  deriving DecidableEq

/-- Whether a part has characters with another form; beyond the basic plane all count as such. -/
def Piece.isCased (fold : CaseFold) : Piece → Bool
  | .one n => fold.meets n n || (fold != .exact && 0x10000 ≤ n)
  | .range low high => fold.meets low high || (fold != .exact && 0x10000 ≤ high)
  | .category _ _ _ => false

/-- A part looked up as it is. -/
def Piece.plain : Piece → List Item
  | .one n => [.range n n]
  | .range low high => [.range low high]
  | .category k asciiOnly negated => [.category k asciiOnly negated]

/-- A part looked up by forms. -/
def Piece.folded (fold : CaseFold) : Piece → List Item
  | .one n => if n < 0x10000 then [.formsOf fold n n] else [.range n n]
  | .range low high =>
    (if low < 0x10000 then [.formsOf fold low (min high 0xFFFF)] else [])
      ++ (if 0x10000 ≤ high then [.eitherCase low high] else [])
  | .category k asciiOnly negated => [.category k asciiOnly negated]

/-- The set of one character. -/
def single (fold : CaseFold) (negated : Bool) (n : Nat) : CharSet :=
  if fold.meets n n then
    let form := fold.apply n
    ⟨negated, fold, (form :: fold.siblings form).map fun f => .range f f⟩
  else ⟨negated, .exact, [.range n n]⟩

/-- The set of what is written between brackets. -/
def make (fold : CaseFold) (negated : Bool) (pieces : List Piece) : CharSet :=
  match pieces.eraseDups with
  | [.one n] => single fold negated n
  | pieces =>
    if pieces.any (·.isCased fold) then ⟨negated, fold, pieces.flatMap (·.folded fold)⟩
    else ⟨negated, .exact, pieces.flatMap (·.plain)⟩

/-- Every character, or every one but the line feed. -/
def anything (lineFeedToo : Bool) : CharSet :=
  ⟨true, .exact, if lineFeedToo then [] else [.range 0x0A 0x0A]⟩

/-- The characters between two. -/
def between (low high : Char) : CharSet := ⟨false, .exact, [.range low.toNat high.toNat]⟩

/-- One character. -/
def char (c : Char) : CharSet := between c c

end CharSet

end Rulebook.Regex
