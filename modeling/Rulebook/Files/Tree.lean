import Rulebook.Files.Path

/-!
Trees of files, what stands at a path in one, and the surroundings of a command: a tree, the directory
in which it is called, and named variables. There are no links, so a step up leads back to where the
step down came from; it can be taken from a directory only, as every step can.
-/

namespace Rulebook

inductive Tree where
  | file (text : String)
  | directory (entries : List (String × Tree))
  deriving Inhabited

/-- What is seen at a path. -/
inductive Sighting where
  | file (text : String)
  | directory
  | missing
  /-- A step is taken from a file. -/
  | notDirectory
  deriving DecidableEq

/-- Why what is seen cannot be read. -/
def Sighting.obstacle? : Sighting → Option String
  | file _ => none
  | directory => some "Is a directory"
  | missing => some "No such file or directory"
  | notDirectory => some "Not a directory"

def Sighting.isFile : Sighting → Bool
  | file _ => true
  | _ => false

namespace Tree

def empty : Tree := .directory []

/-- The entry of a directory. -/
def below? (name : String) : List (String × Tree) → Option Tree
  | [] => none
  | (n, t) :: rest => if n == name then some t else below? name rest

/-- Takes steps from a place, of which the directories above are known, the nearest first. -/
def walk : List Tree → Tree → List String → Sighting
  | _, .file text, [] => .file text
  | _, .directory _, [] => .directory
  | _, .file _, _ :: _ => .notDirectory
  | above, .directory entries, part :: rest =>
    if part == ".." then
      match above with
      | [] => walk [] (.directory entries) rest
      | t :: above => walk above t rest
    else
      match below? part entries with
      | some t => walk (.directory entries :: above) t rest
      | none => .missing

/-- What is seen at a path from the root. -/
def look (t : Tree) (p : Path) : Sighting := walk [] t p.parts

/-- Puts a tree under some steps, with directories on the way; a file on the way gives way. -/
def insert (new : Tree) : List String → Tree → Tree
  | [], _ => new
  | part :: rest, .directory entries =>
    .directory (put part (insert new rest ((below? part entries).getD empty)) entries)
  | part :: rest, .file _ => .directory [(part, insert new rest empty)]
where
  put (name : String) (t : Tree) : List (String × Tree) → List (String × Tree)
    | [] => [(name, t)]
    | (n, u) :: rest => if n == name then (n, t) :: rest else (n, u) :: put name t rest

/-- Makes a directory unless there is something. -/
def addDirectory (t : Tree) (p : Path) : Tree :=
  match t.look p with
  | .missing => insert empty p.parts t
  | _ => t

/-- Writes a file. -/
def addFile (t : Tree) (p : Path) (text : String) : Tree := insert (.file text) p.parts t

end Tree

/-- Where a command is called. -/
structure Surroundings where
  tree : Tree
  /-- The directory from which paths are seen. -/
  directory : Path
  environment : List (String × String)

namespace Surroundings

/-- What is seen at a path. -/
def look (w : Surroundings) (p : Path) : Sighting := w.tree.look (w.directory.join p)

def isFile (w : Surroundings) (p : Path) : Bool := (w.look p).isFile

/-- What is seen at a path as it is spelt: nothing has an empty name, and what a slash or a step to the
same place ends must be a directory. -/
def lookAt (w : Surroundings) (spelling : String) : Sighting :=
  if spelling.isEmpty then .missing
  else
    match w.look (.ofText spelling), (Path.steps spelling).getLast? with
    | .file _, some "" | .file _, some "." => .notDirectory
    | seen, _ => seen

/-- The value of a variable. -/
def valueOf? (w : Surroundings) (name : String) : Option String := w.environment.lookup name

end Surroundings

/-- Text with line feeds as its only line ends. -/
def unifyLineEnds : List Char → List Char
  | [] => []
  | '\r' :: '\n' :: rest => '\n' :: unifyLineEnds rest
  | '\r' :: rest => '\n' :: unifyLineEnds rest
  | c :: rest => c :: unifyLineEnds rest

/-- The text of a file as it is read. -/
def readText (s : String) : String := String.ofList (unifyLineEnds s.toList)

end Rulebook
