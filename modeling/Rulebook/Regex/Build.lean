import Rulebook.Regex.Basic

/-!
Patterns put together from parts: texts, sets of characters, sequences, alternatives and
repetitions.
-/

namespace Rulebook.Regex

namespace CharSet

/-- The characters of some ranges and some single ones. -/
def ofRanges (ranges : List (Char × Char)) (singles : String) : CharSet :=
  ⟨false, .exact, ranges.map (fun (a, b) => .range a.toNat b.toNat)
    ++ singles.toList.map fun c => .range c.toNat c.toNat⟩

/-- The same with the word characters of all scripts. -/
def withWord (s : CharSet) : CharSet := { s with items := s.items ++ [.category .word false false] }

end CharSet

/-- A character between two. -/
def between (low high : Char) : Regex := .one (.between low high)

/-- One of some characters. -/
def oneOf (singles : String) : Regex := .one (.ofRanges [] singles)

/-- Patterns one after the other. -/
def inTurn : List Regex → Regex
  | [] => .empty
  | [r] => r
  | r :: rest => .seq r (inTurn rest)

/-- The first of some patterns that leads to a match. -/
def firstOf : List Regex → Regex
  | [] => .empty
  | [r] => r
  | r :: rest => .alt r (firstOf rest)

/-- A text as it is. -/
def text (s : String) : Regex := inTurn (s.toList.map fun c => .one (.char c))

def optional (r : Regex) : Regex := .loop .greedy 0 (some 1) r

def many (r : Regex) : Regex := .loop .greedy 0 none r

def oneOrMore (r : Regex) : Regex := .loop .greedy 1 none r

/-- A number of times between two. -/
def times (least most : Nat) (r : Regex) : Regex := .loop .greedy least (some most) r

def exactly (n : Nat) (r : Regex) : Regex := times n n r

/-- From the start of the text to its end, or to a line feed that ends it. -/
def entire (r : Regex) : Regex := inTurn [.anchor .textStart, r, .anchor .textEnd]

/-- What follows up to the end of the text has at least `least` and at most `most` characters and no
line feed before the last place. -/
def sizeAhead (least most : Nat) : Regex :=
  .ahead false (.seq (times least most (.one (.anything false))) (.anchor .textEnd))

end Rulebook.Regex
