import Rulebook.Command.Line

/-!
Pages of help and reports of misuse. Pages are `helpWidth` columns wide and filled word by word. What is
listed on a page stands in two columns, the second as far to the right as the first needs.
-/

namespace Rulebook.Command

/-- The width of a page, of which the last two columns stay free. -/
def helpWidth : Nat := 78

/-- Fills lines with words, given the words on the line so far. -/
def fillLines (width : Nat) : String → List String → List String
  | line, [] => [line]
  | line, word :: rest =>
    if line.length + 1 + word.length ≤ width then fillLines width (line ++ " " ++ word) rest
    else line :: fillLines width word rest

/-- A text in lines of a width. -/
def filled (width : Nat) (s : String) : List String :=
  match s.splitOn " " with
  | [] => []
  | word :: rest => fillLines width word rest

def blanks (n : Nat) : String := String.ofList (List.replicate n ' ')

/-- Lines two columns to the right. -/
def indented (lines : List String) : List String := lines.map ("  " ++ ·)

/-- Names and what is said of them, as the lines of two columns. -/
def twoColumns (rows : List (String × String)) : List String :=
  let first := (rows.map fun (name, _) => name.length).foldl max 0 + 2
  rows.flatMap fun (name, about) =>
    match filled (helpWidth - first - 2) about with
    | [] => [name]
    | line :: rest =>
      (name ++ blanks (first - name.length) ++ line) :: rest.map (blanks first ++ ·)

/-- The names of an option with the word for its value. -/
def switchHead (s : Switch) : String :=
  ", ".intercalate s.names ++ (s.value?.map (" " ++ ·)).getD ""

def usageLine (c : Command) : String := "Usage: " ++ c.call ++ " " ++ c.usage

/-- Some named rows as a part of a page. -/
def listing (title : String) (rows : List (String × String)) : List String :=
  if rows.isEmpty then [] else "" :: title :: indented (twoColumns rows)

/-- The commands that the page of a command lists. -/
def listed : Command → List (String × Command)
  | program => byName
  | _ => []

/-- The lines of the page of help. -/
def helpLines (c : Command) : List String :=
  [c.usageLine] ++ c.about.flatMap (fun s => "" :: indented (filled (helpWidth - 2) s))
    ++ listing "Options:" (c.switches.map fun s => (switchHead s, s.about))
    ++ listing "Commands:" (c.listed.map fun (name, d) => (name, d.about.headD ""))

/-- Lines as one text, each with its end. -/
def unlines (lines : List String) : String := String.join (lines.map (· ++ "\n"))

/-- What is printed for an option that is answered by itself. -/
def page (c : Command) : Switch → String
  | .version => programName ++ ", version " ++ programVersion ++ "\n"
  | .examples => unlines (["Examples for '" ++ c.call ++ "':", ""] ++ indented c.examples)
  | _ => unlines c.helpLines

/-- The report of a misuse. -/
def misuseText (c : Command) (m : Misuse) : String :=
  unlines [c.usageLine, "Try '" ++ c.call ++ " --help' for help.", "", "Error: " ++ m.message]

end Rulebook.Command
