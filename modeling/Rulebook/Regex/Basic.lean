import Rulebook.Regex.CharSet

/-!
Patterns: regular expressions with anchors, captures and conditions. `Regex.run` searches
depth first in the order in which alternatives are written, so a repetition is greedy, lazy or
possessive; it is total because a repetition stops after an iteration that takes no character.

A pattern matches a text when it matches from some place in it.
-/

namespace Rulebook

namespace Regex

inductive Anchor where
  /-- The start of the text. -/
  | textStart
  /-- The start of a line. -/
  | lineStart
  /-- The end of the text, or the line feed that ends it. -/
  | textEnd
  /-- The end of a line. -/
  | lineEnd
  /-- The very end of the text. -/
  | veryEnd
  /-- A place between a word character and none, or any other place. -/
  | wordEdge (asciiOnly negated : Bool)
  deriving DecidableEq

/-- How a repetition chooses the number of its iterations: most first, fewest first, or most and
nothing given back. -/
inductive Greed where
  | greedy | lazy | possessive
  deriving DecidableEq

end Regex

open Regex in
inductive Regex where
  | empty
  | one (s : CharSet)
  | anchor (a : Anchor)
  | seq (first second : Regex)
  | alt (left right : Regex)
  | loop (greed : Greed) (least : Nat) (most : Option Nat) (body : Regex)
  | group (index : Nat) (body : Regex)
  | backref (index : Nat) (fold : CaseFold)
  | ahead (negated : Bool) (body : Regex)
  | behind (negated : Bool) (width : Nat) (body : Regex)
  | atomic (body : Regex)
  | choose (index : Nat) (yes no : Regex)
  deriving DecidableEq

namespace Regex

/-- A place in a text, with the characters before it in reverse, and where each group was opened
and closed last. -/
structure Cursor where
  before : List Char
  after : List Char
  position : Nat
  opened : List (Nat × Nat)
  closed : List (Nat × Nat)

namespace Cursor

/-- The start of a text. -/
def start (cs : List Char) : Cursor := ⟨[], cs, 0, [], []⟩

/-- One character further on, if there is one. -/
def advance? (c : Cursor) : Option (Char × Cursor) :=
  match c.after with
  | [] => none
  | x :: rest => some (x, { c with before := x :: c.before, after := rest, position := c.position + 1 })

/-- A number of characters back, if there are as many. -/
def back? : Nat → Cursor → Option Cursor
  | 0, c => some c
  | n + 1, c =>
    match c.before with
    | [] => none
    | x :: rest => back? n { c with before := rest, after := x :: c.after, position := c.position - 1 }

def openGroup (c : Cursor) (i : Nat) : Cursor := { c with opened := (i, c.position) :: c.opened }

def closeGroup (c : Cursor) (i : Nat) : Cursor := { c with closed := (i, c.position) :: c.closed }

/-- The place of one cursor with the groups of another. -/
def withGroups (c other : Cursor) : Cursor :=
  { c with opened := other.opened, closed := other.closed }

/-- The text that a group took. -/
def captured? (c : Cursor) (i : Nat) : Option (List Char) := do
  let p ← c.opened.lookup i
  let e ← c.closed.lookup i
  if p ≤ e then some (((c.before.reverse ++ c.after).drop p).take (e - p)) else none

/-- Takes characters that agree with given ones up to case. -/
def take? (fold : CaseFold) : List Char → Cursor → Option Cursor
  | [], c => some c
  | x :: xs, c =>
    match c.advance? with
    | some (y, c) => if fold.apply x.toNat == fold.apply y.toNat then take? fold xs c else none
    | none => none

end Cursor

/-- Whether an anchor holds at a place. -/
def Anchor.holds (a : Anchor) (c : Cursor) : Bool :=
  match a with
  | .textStart => c.before.isEmpty
  | .lineStart => c.before.isEmpty || c.before.head? == some '\n'
  | .textEnd => c.after.isEmpty || c.after == ['\n']
  | .lineEnd => c.after.isEmpty || c.after.head? == some '\n'
  | .veryEnd => c.after.isEmpty
  | .wordEdge asciiOnly negated =>
    let isWord (x : Option Char) : Bool := x.any (Category.word.holds asciiOnly)
    !(c.before.isEmpty && c.after.isEmpty)
      && ((isWord c.before.head? != isWord c.after.head?) != negated)

/-- What remains to be matched after a part of a pattern. -/
abbrev Rest := Cursor → Option Cursor

/-- Iterates a body that gives characters back. `last` is where the previous iteration beyond the
least number began: one that took nothing is the last. -/
def iterate (body : Cursor → Rest → Option Cursor) (lazy : Bool) (least : Nat) (most : Option Nat)
    (k : Rest) : Nat → Nat → Option Nat → Cursor → Option Cursor
  | 0, _, _, _ => none
  | fuel + 1, count, last, c =>
    if count < least then
      body c fun c' => iterate body lazy least most k fuel (count + 1) last c'
    else
      let again (_ : Unit) : Option Cursor :=
        if most.all (count < ·) && last != some c.position then
          body c fun c' => iterate body lazy least most k fuel (count + 1) (some c.position) c'
        else none
      if lazy then (k c).orElse again else (again ()).orElse fun _ => k c

/-- Iterates a body whose iterations are never undone. -/
def iterateOnce (body : Cursor → Rest → Option Cursor) (least : Nat) (most : Option Nat) :
    Nat → Nat → Option Nat → Cursor → Option Cursor
  | 0, _, _, _ => none
  | fuel + 1, count, last, c =>
    if count < least then
      match body c some with
      | some c' => iterateOnce body least most fuel (count + 1) last c'
      | none => none
    else if most.all (count < ·) && last != some c.position then
      match body c some with
      | some c' => iterateOnce body least most fuel (count + 1) (some c.position) c'
      | none => some c
    else some c

/-- Matches a pattern at a place and then the rest. -/
def run : Regex → Cursor → Rest → Option Cursor
  | .empty, c, k => k c
  | .one s, c, k =>
    match c.advance? with
    | some (x, c') => if s.contains x then k c' else none
    | none => none
  | .anchor a, c, k => if a.holds c then k c else none
  | .seq r s, c, k => run r c fun c' => run s c' k
  | .alt r s, c, k => (run r c k).orElse fun _ => run s c k
  | .loop greed least most r, c, k =>
    let fuel := least + c.after.length + 2
    match greed with
    | .greedy => iterate (run r) false least most k fuel 0 none c
    | .lazy => iterate (run r) true least most k fuel 0 none c
    | .possessive => (iterateOnce (run r) least most fuel 0 none c).bind k
  | .group i r, c, k => run r (c.openGroup i) fun c' => k (c'.closeGroup i)
  | .backref i fold, c, k =>
    match c.captured? i with
    | some cs => (c.take? fold cs).bind k
    | none => none
  | .ahead negated r, c, k =>
    match run r c some with
    | some c' => if negated then none else k (c.withGroups c')
    | none => if negated then k c else none
  | .behind negated width r, c, k =>
    match (c.back? width).bind fun b => run r b some with
    | some c' => if negated then none else k (c.withGroups c')
    | none => if negated then k c else none
  | .atomic r, c, k => (run r c some).bind k
  | .choose i yes no, c, k => if (c.captured? i).isSome then run yes c k else run no c k

/-- Whether the pattern matches from some place at or after one with given characters before it. -/
def matchesFrom (r : Regex) (before : List Char) (position : Nat) : List Char → Bool
  | [] => (r.run ⟨before, [], position, [], []⟩ some).isSome
  | x :: rest =>
    (r.run ⟨before, x :: rest, position, [], []⟩ some).isSome
      || matchesFrom r (x :: before) (position + 1) rest

/-- Whether the pattern matches from some place in a text. -/
def matchesIn (r : Regex) (s : String) : Bool := r.matchesFrom [] 0 s.toList

end Regex

end Rulebook
