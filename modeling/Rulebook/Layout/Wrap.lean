import Rulebook.Text.Blank
import Rulebook.Text.Width

/-!
Breaking text into lines of a limited width. A line is filled with words, each with the blanks after
it, as long as the word without them fits; the blanks that reach beyond the end of a line are dropped.
A word wider than a line is folded over several lines or, in a table, left to be cut off with a sign.
-/

namespace Rulebook.Layout

/-- What becomes of a word wider than a line. -/
inductive Overflow where
  | fold | ellipsis
  deriving DecidableEq

/-- The control characters that move the cursor. -/
def cursorMoves : List Char := ['\x07', '\x08', '\x0b', '\x0c', '\x0d']

/-- A text without the control characters that move the cursor. -/
def withoutControls (s : String) : List Char :=
  s.toList.filter fun c => !cursorMoves.contains c

/-- The lines of a text; `before` is the beginning of the first, in reverse. -/
def linesAfter (before : List Char) : List Char → List (List Char)
  | [] => [before.reverse]
  | '\n' :: rest => before.reverse :: linesAfter [] rest
  | c :: rest => linesAfter (c :: before) rest

/-- Replaces each tab by blanks up to the next multiple of eight columns; `before` is the line so far,
in reverse. -/
def expandTabs (before : List Char) : List Char → List Char
  | [] => before.reverse
  | '\t' :: rest =>
    expandTabs (List.replicate (8 - textWidth before.reverse % 8) ' ' ++ before) rest
  | c :: rest => expandTabs (c :: before) rest

/-- The words of a line with the blanks after them. `current` is the word so far, in reverse; the flags
say whether it has more than blanks and whether it ends with them. -/
def wordsAfter (current : List Char) (started ended : Bool) : List Char → List (List Char)
  | [] => if started then [current.reverse] else []
  | c :: rest =>
    if isBlank c then wordsAfter (c :: current) started started rest
    else if ended then current.reverse :: wordsAfter [c] true false rest
    else wordsAfter (c :: current) true false rest

/-- The words of a line; the first has the blanks before it too. -/
def words (line : List Char) : List (List Char) := wordsAfter [] false false line

/-- The width of a word without the blanks after it. -/
def bareWidth (word : List Char) : Nat := textWidth (word.reverse.dropWhile isBlank).reverse

/-- Cuts clusters into pieces of a limited width, given the piece so far and its width. -/
def piecesAfter (width : Nat) (piece : List Char) (used : Nat) : List Cluster → List (List Char)
  | [] => if used = 0 then [] else [piece]
  | k :: rest =>
    if width < used + k.width then piece :: piecesAfter width k.chars k.width rest
    else piecesAfter width (piece ++ k.chars) (used + k.width) rest

/-- A word folded over lines. -/
def pieces (width : Nat) (word : List Char) : List (List Char) :=
  piecesAfter width [] 0 (clusters word)

/-- Fills lines with words, given the line so far and its width. -/
def fill (width : Nat) (overflow : Overflow) (line : List Char) (used : Nat) :
    List (List Char) → List (List Char)
  | [] => [line]
  | word :: rest =>
    if used + bareWidth word ≤ width then
      fill width overflow (line ++ word) (used + textWidth word) rest
    else
      let closed := if line.isEmpty then [] else [line]
      if width < bareWidth word ∧ overflow = .fold then
        let parts := pieces width word
        let last := parts.getLastD []
        closed ++ parts.dropLast ++ fill width overflow last (textWidth last) rest
      else closed ++ fill width overflow word (textWidth word) rest

/-- Drops blanks at the end as far as the line is longer than the width. -/
def dropExcess (width : Nat) (line : List Char) : List Char :=
  let blanks := (line.reverse.takeWhile isBlank).length
  line.take (line.length - min blanks (line.length - width))

/-- The beginning of a line, made exactly as wide as asked: a blank stands for half of a wide sign. -/
def takeWidth : Nat → List Cluster → List Char
  | width, [] => List.replicate width ' '
  | width, k :: rest =>
    if k.width ≤ width then k.chars ++ takeWidth (width - k.width) rest
    else List.replicate width ' '

/-- Cuts off what is still beyond the width. -/
def cut (width : Nat) (overflow : Overflow) (line : List Char) : List Char :=
  if textWidth line ≤ width then line
  else
    match overflow with
    | .fold => takeWidth width (clusters line)
    | .ellipsis => takeWidth (width - 1) (clusters line) ++ ['…']

/-- The lines that one line is broken into. -/
def breakLine (width : Nat) (overflow : Overflow) (line : List Char) : List (List Char) :=
  match words line with
  | [] => [line]
  | ws => fill width overflow [] 0 ws

/-- A text as lines of a limited width, broken between words if so asked. -/
def wrap (width : Nat) (overflow : Overflow) (breaking : Bool) (s : String) : List (List Char) :=
  (linesAfter [] (withoutControls s)).flatMap fun line =>
    let line := expandTabs [] line
    let broken := if breaking then breakLine width overflow line else [line]
    broken.map fun l => cut width overflow (dropExcess width l)

/-- A text as a paragraph of a limited width. -/
def paragraph (width : Nat) (s : String) : List String := (wrap width .fold true s).map String.ofList

end Rulebook.Layout
