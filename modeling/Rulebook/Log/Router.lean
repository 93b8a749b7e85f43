import Rulebook.Log.Entry

/-!
Where entries go. A router has handlers, some of which are its own, and levels for loggers. The names of loggers
make a hierarchy by their dots: a logger without a level of its own has that of the nearest one above it, and above
all is the root. To configure a router is to put one handler in the place of its own and to set the levels of the
program's logger and of two others. An entry goes to the handlers if it reaches the level of its logger.
-/

namespace Rulebook.Log

inductive Handler where
  | own (stream : String) (form : LineForm)
  /-- A handler that belongs to something else. -/
  | foreign (name : String)
  deriving DecidableEq

namespace Handler

def isOwn : Handler → Bool
  | own _ _ => true
  | foreign _ => false

/-- What a handler of the router writes for an entry, and to which stream. -/
def write? (time : String) (e : Entry) : Handler → Option (String × String)
  | own stream form => some (stream, e.line time form)
  | foreign _ => none

end Handler

/-- How much is to be logged and how it is to look. -/
structure Choice where
  verbose : Bool
  quiet : Bool
  json : Bool
  deriving DecidableEq

namespace Choice

/-- The level from which entries of the program's loggers count. -/
def level (c : Choice) : Level := if c.verbose then .debug else if c.quiet then .error else .warning

def form (c : Choice) : LineForm := if c.json then .json else .columns

/-- The lines that notices make. -/
def lines (c : Choice) (time : String) (notices : List Notice) : List String :=
  (notices.filter fun n => n.level.reaches c.level).map fun n => (Entry.ofNotice n).line time c.form

end Choice

/-- The beginnings of a name that end before one of its dots, the longest last. -/
def beginnings : List Char → List (List Char)
  | [] => []
  | c :: cs =>
    let longer := (beginnings cs).map (c :: ·)
    if c == '.' then [] :: longer else longer

/-- A logger and those above it below the root, the nearest first. The parts of names are not empty: of
`jsonrules..x`, with two dots in a row, `jsonrules` is said to be above, while to the logging library only the
root and `jsonrules.` are, if there is a logger of that name. -/
def lineage (logger : String) : List String :=
  logger :: ((beginnings logger.toList).reverse.map String.ofList)

structure Router where
  handlers : List Handler
  /-- The level of the root of all loggers. -/
  rootLevel : Level
  /-- The levels that loggers have of their own. -/
  levels : List (String × Level)

/-- The logger that those of the program are under. -/
def programLogger : String := "jsonrules"

/-- The logger of what calls the hooks of plugins. -/
def hookLogger : String := "pluggy"

/-- What happens to a router. -/
inductive Event where
  | configure (choice : Choice) (stream : String)
  /-- An entry is sent at a time. -/
  | record (time : String) (entry : Entry)

namespace Router

/-- A router that nothing was set for. -/
def initial : Router := ⟨[], .warning, []⟩

/-- Replaces the own handlers by one and sets levels. -/
def configure (r : Router) (c : Choice) (stream : String) : Router where
  handlers := r.handlers.filter (fun h => !h.isOwn) ++ [.own stream c.form]
  rootLevel := .warning
  levels := Ordered.insert hookLogger .warning (Ordered.insert programLogger c.level r.levels)

/-- The level that a logger has of its own. -/
def ownLevel? (r : Router) (logger : String) : Option Level := Ordered.get? logger r.levels

/-- The level from which the entries of a logger count. -/
def levelOf (r : Router) (logger : String) : Level :=
  ((lineage logger).findSome? r.ownLevel?).getD r.rootLevel

/-- What is written for an entry, and to which streams. -/
def deliver (r : Router) (time : String) (e : Entry) : List (String × String) :=
  if e.level.reaches (r.levelOf e.logger) then r.handlers.filterMap (Handler.write? time e) else []

/-- What an event makes of a router, and what is written. -/
def step (r : Router) : Event → Router × List (String × String)
  | .configure c stream => (r.configure c stream, [])
  | .record time e => (r, r.deliver time e)

/-- What a history makes of a router, and what is written at each event. -/
def run (r : Router) : List Event → Router × List (List (String × String))
  | [] => (r, [])
  | event :: rest =>
    let (next, written) := r.step event
    let (last, more) := next.run rest
    (last, written :: more)

/-- The name of the level that the program's logger has of its own. -/
def levelName (r : Router) : String := ((r.ownLevel? programLogger).map Level.name).getD "NOTSET"

end Router

end Rulebook.Log
