import Std.Time
import Rulebook.Command.Run

/-!
The program: it looks at the files, variables and input that its arguments can lead to, and gives the
answer of the session. Files of plugins are code, which it has nothing to run with, so it takes none.
-/

namespace Rulebook

/-- All that a stream has left. -/
partial def readAll (stream : IO.FS.Stream) (before : ByteArray) : IO ByteArray := do
  let part ← stream.read 65536
  if part.isEmpty then return before else readAll stream (before ++ part)

/-- The text of the standard input. -/
def readInput : IO String := do
  match String.fromUTF8? (← readAll (← IO.getStdin) .empty) with
  | some s => return s
  | none => throw (IO.userError "the standard input is not UTF-8")

/-- Adds what stands at a path, as seen from a directory, and at those on the way to it. -/
def observe (directory : Path) (t : Tree) (p : Path) : IO Tree := do
  let here ← IO.currentDir
  let whole := directory.join p
  (List.range (whole.parts.length + 1)).foldlM (fun t n => do
    let onWay : Path := ⟨whole.origin, whole.parts.take n⟩
    let found := here / onWay.text
    let place := Path.resolve directory onWay
    if ← found.isDir then return t.addDirectory place
    else if ← found.pathExists then return t.addFile place (← IO.FS.readFile found)
    else return t) t

/-- The values of the variables that settings come from. -/
def readVariables : IO (List (String × String)) := do
  let values ← Settings.variableNames.mapM fun name => do return (name, ← IO.getEnv name)
  return values.filterMap fun (name, value) => value.map fun s => (name, s)

/-- The time now, in the universal time zone. -/
def readTime : IO String := do
  let now ← Std.Time.Timestamp.now
  return (Std.Time.DateTime.ofTimestamp now .UTC).format "uuuu-MM-dd'T'HH:mm:ss.SSSSSS'Z'"

/-- What is needed of the world for some arguments. -/
def readSession (args : List String) : IO Session := do
  let directory := Path.ofText (toString (← IO.currentDir))
  let environment ← readVariables
  let names := Command.filesNamed args
  let configs := directory.lineage.map (·.child Settings.configName)
  let paths := configs ++ (names ++ (environment.lookup Settings.configVariable).toList).map Path.ofText
  let tree ← paths.foldlM (observe directory) .empty
  let input ← if names.contains "-" then readInput else pure ""
  return ⟨⟨tree, directory, environment⟩, input, ← readTime, fun _ => .ok []⟩

end Rulebook

def main (args : List String) : IO UInt32 := do
  let answer := (← Rulebook.readSession args).run args
  IO.print answer.out
  IO.eprint answer.err
  match answer.ending with
  | .collapse cause => IO.eprintln ("Error: " ++ cause.message)
  | _ => pure ()
  return answer.ending.code.toUInt32
