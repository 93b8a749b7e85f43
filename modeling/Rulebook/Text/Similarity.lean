/-!
Similar words, for suggestions. Two words have in common their longest common block and, on either side of
it, what the rests have in common. They are similar if at least three fifths of their characters are in
blocks that they have in common.
-/

namespace Rulebook

/-- A common block of two texts: its place in each, and its length. -/
structure Block where
  left : Nat
  right : Nat
  length : Nat
  deriving DecidableEq

/-- The length of the longest common start. -/
def commonStart : List Char → List Char → Nat
  | a :: as, b :: bs => if a == b then commonStart as bs + 1 else 0
  | _, _ => 0

/-- The longest common block; of several the first in the left text, and of those the first in the right. -/
def longestBlock (as bs : List Char) : Block :=
  (List.range as.length).foldl (fun best i =>
    (List.range bs.length).foldl (fun best j =>
      let n := commonStart (as.drop i) (bs.drop j)
      if best.length < n then ⟨i, j, n⟩ else best) best) ⟨0, 0, 0⟩

/-- How many characters two texts have in common, in at most `fuel` levels of blocks. -/
def inCommon : Nat → List Char → List Char → Nat
  | 0, _, _ => 0
  | fuel + 1, as, bs =>
    match longestBlock as bs with
    | ⟨_, _, 0⟩ => 0
    | ⟨i, j, n⟩ =>
      inCommon fuel (as.take i) (bs.take j) + n + inCommon fuel (as.drop (i + n)) (bs.drop (j + n))

/-- A word with how much it has in common with another one, out of how many characters of both. -/
structure Likeness where
  word : String
  shared : Nat
  total : Nat

namespace Likeness

def of (word candidate : String) : Likeness :=
  ⟨candidate, inCommon candidate.length candidate.toList word.toList, candidate.length + word.length⟩

/-- Whether two words are similar. -/
def holds (l : Likeness) : Bool := 3 * l.total ≤ 10 * l.shared

/-- Whether a word comes before another one: it is more alike or, if equally so, later in the alphabet. -/
def before (l m : Likeness) : Bool :=
  if l.shared * m.total = m.shared * l.total then decide (m.word ≤ l.word)
  else m.shared * l.total < l.shared * m.total

end Likeness

/-- The words most similar to a given one, at most three, in alphabetical order. -/
def similarWords (word : String) (candidates : List String) : List String :=
  let close := ((candidates.map (Likeness.of word)).filter (·.holds)).mergeSort Likeness.before
  ((close.take 3).map (·.word)).mergeSort fun a b => decide (a ≤ b)

end Rulebook
