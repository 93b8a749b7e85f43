/-!
Paths: names of steps down from a starting point. A path is kept without empty steps and steps to the
same place, so two spellings that differ in these alone are one path; a step up is kept until the path
is resolved, which removes it together with the step before it.
-/

namespace Rulebook

/-- Where a path starts: where one stands, or at the root, which can have a name of two slashes. -/
inductive Origin where
  | here | root | doubleRoot
  deriving DecidableEq

def Origin.text : Origin → String
  | here => ""
  | root => "/"
  | doubleRoot => "//"

structure Path where
  origin : Origin
  parts : List String
  deriving DecidableEq

namespace Path

/-- The steps of a spelling. -/
def steps (s : String) : List String := (s.toList.splitOnP (· == '/')).map String.ofList

/-- The starting point of a spelling: two slashes are kept, any other number is one. -/
def originOf (s : String) : Origin :=
  match (s.toList.takeWhile (· == '/')).length with
  | 0 => .here
  | 2 => .doubleRoot
  | _ => .root

def ofText (s : String) : Path := ⟨originOf s, (steps s).filter fun part => part != "" && part != "."⟩

def text (p : Path) : String :=
  if p = ⟨.here, []⟩ then "." else p.origin.text ++ "/".intercalate p.parts

def isAbsolute (p : Path) : Bool := p.origin != .here

/-- The path seen from another; one that starts at the root is the same from anywhere. -/
def join (base p : Path) : Path := if p.isAbsolute then p else ⟨base.origin, base.parts ++ p.parts⟩

/-- The path without its last step. -/
def parent (p : Path) : Path := ⟨p.origin, p.parts.dropLast⟩

/-- Adds one step. -/
def child (p : Path) (name : String) : Path := ⟨p.origin, p.parts ++ [name]⟩

/-- One step further; a step up takes back the last one, and at the root stays there. -/
def advance (trail : List String) (part : String) : List String :=
  if part == ".." then trail.dropLast else trail ++ [part]

/-- The path as seen from a directory, without steps up. -/
def resolve (directory p : Path) : Path :=
  let whole := directory.join p
  ⟨whole.origin, whole.parts.foldl advance []⟩

/-- The path and those above it, the path itself first. -/
def lineage (p : Path) : List Path :=
  (List.range (p.parts.length + 1)).reverse.map fun n => ⟨p.origin, p.parts.take n⟩

end Path

end Rulebook
