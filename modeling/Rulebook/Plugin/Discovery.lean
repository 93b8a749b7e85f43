import Rulebook.Plugin.Basic

/-!
Looking for plugins. First every registered class with a marked hook is replaced by an instance under
the same name, or dropped if it cannot be instantiated. Then the files of a directory are loaded in the
order of their names: a file that fails is noticed and passed over, and each class that a file defines
is instantiated and registered under a name made from that of the file. A mishap in loading a file or in
making an instance does not end the search. What is raised elsewhere does, and so does all that is more
than a mishap; what the search did by then is not undone.
-/

namespace Rulebook

/-- A class in a file, and whether the file has it from elsewhere. -/
structure DefinedClass where
  cls : PluginClass
  imported : Bool

/-- What loading a file comes to. -/
inductive Loading where
  | raises (r : Raised)
  /-- The file is loaded, but looking through what it holds raises. -/
  | closed (r : Raised)
  | classes (cs : List DefinedClass)

/-- A file in a directory of plugins. -/
structure PluginFile where
  /-- The name of the file without directories. -/
  name : String
  loading : Loading

/-- The files of a directory, or what looking for them raises. -/
abbrev Listing := Except Raised (List PluginFile)

/-- A name without its last extension. -/
def fileStem (name : String) : String :=
  let cs := name.toList.reverse
  let extension := cs.takeWhile (· != '.')
  match cs.drop extension.length with
  | '.' :: stem => if stem.isEmpty || extension.isEmpty then name else String.ofList stem.reverse
  | _ => name

namespace PluginFile

/-- Whether a file is loaded; those that start with a low line are not. -/
def isLoaded (f : PluginFile) : Bool := f.name.endsWith ".py" && !f.name.startsWith "_"

/-- The name under which the plugins of a file are registered. -/
def pluginName (f : PluginFile) : String := "jsonrules_local_plugin_" ++ fileStem f.name

/-- The classes of a file that can be loaded and looked through. -/
def classes (f : PluginFile) : Option (List DefinedClass) :=
  match f.loading with
  | .classes cs => some cs
  | .raises _ | .closed _ => none

end PluginFile

/-- Classes with their places in the order of creation, counted from a number. -/
def numbered (first : Nat) (classes : List DefinedClass) : List (String × Nat × DefinedClass) :=
  ((List.range' first classes.length).zip classes).map fun (i, c) => (c.cls.name, i, c)

/-- The classes of a file as they are taken up: of two with one name the later, in order of name. -/
def definedClasses (first : Nat) (classes : List DefinedClass) : List (Nat × DefinedClass) :=
  ((Ordered.ofList (numbered first classes)).mergeSort fun (m, _) (n, _) => decide (m ≤ n)).map (·.2)

/-- The files of a directory that a search loads, in the order in which it does. -/
def loadedFiles (files : List PluginFile) : List PluginFile :=
  (files.filter (·.isLoaded)).mergeSort fun f g => decide (f.name ≤ g.name)

/-- How far a search has come, and what stopped it if anything did. -/
structure Search where
  notices : List Notice
  plugins : Plugins
  stopped : Option Fault

namespace Search

/-- A search that has come to some plugins. -/
def reached (ps : Plugins) : Search := ⟨[], ps, none⟩

/-- A search that notices something on its way. -/
def noticed (ns : List Notice) (ps : Plugins) : Search := ⟨ns, ps, none⟩

/-- A search that is stopped at some plugins. -/
def stop (ps : Plugins) (f : Fault) : Search := ⟨[], ps, some f⟩

/-- Goes on from the plugins that a search has come to, unless it was stopped. -/
def andThen (s : Search) (next : Plugins → Search) : Search :=
  match s.stopped with
  | some _ => s
  | none => { next s.plugins with notices := s.notices ++ (next s.plugins).notices }

/-- Does the same with each of some items. -/
def each {α : Type} (step : Plugins → α → Search) (ps : Plugins) : List α → Search
  | [] => reached ps
  | a :: rest => (step ps a).andThen fun ps => each step ps rest

/-- A search as a run that gives back the plugins. -/
def run (s : Search) : Run Plugins := ⟨s.notices, match s.stopped with
  | some f => .error f
  | none => .ok s.plugins⟩

end Search

namespace Plugins

/-- The plugins without the one of a name. -/
def without (ps : Plugins) (name : String) : Plugins :=
  { ps with entries := ps.entries.filter fun (n, _) => n != name }

/-- Replaces a registered class by an instance. No handler guards the registration of the instance. -/
def replaceClass (ps : Plugins) (name : String) (p : Plugin) : Search :=
  let others := ps.without name
  match p.cls.making with
  | .raises r =>
    if r.isTaken then .noticed [.pluginNotInstantiated name] others else .stop others (.raised r)
  | .fresh | .shared =>
    if p.cls.isShared && others.holds p.instanced then .stop others (.pluginHeld name)
    else
      let replaced := { others with entries := others.entries ++ [(name, p.instanced)] }
      match p.instanced.flaw with
      | some m => .stop replaced (.raised (.mishap m))
      | none => .noticed [.pluginInstantiated name] replaced

/-- Settles a registered plugin: a class with a marked hook is replaced. No handler guards the look at the
class. -/
def settleEntry (ps : Plugins) : String × Plugin → Search
  | (name, p) =>
    if p.instantiated then .reached ps
    else
      match p.cls.inspection with
      | some r => .stop ps (.raised r)
      | none => if p.cls.hasHook then ps.replaceClass name p else .reached ps

/-- Settles some of the registered plugins. -/
def settleEntries (ps : Plugins) (walk : List (String × Plugin)) : Search := .each settleEntry ps walk

/-- Registers an instance of a class of a file. One with a flaw stays although its registration fails. -/
def takeClass (ps : Plugins) (name path : String) (created : Nat) (c : PluginClass) : Search :=
  match c.making with
  | .raises r => if r.isTaken then .noticed [.classFailed c.name path] ps else .stop ps (.raised r)
  | .fresh | .shared =>
    if ps.contains name then .noticed [.classFailed c.name path] ps
    else
      let entered := { ps with entries := ps.entries ++ [(name, ⟨c, created, true⟩)] }
      match c.flaw true with
      | some _ => .noticed [.classFailed c.name path] entered
      | none => .noticed [.pluginRegistered name, .fileLoaded c.name path] entered

/-- Takes up a class of a file if it is the file's own and has a marked hook. -/
def addClass (name path : String) (ps : Plugins) : Nat × DefinedClass → Search
  | (created, c) =>
    if c.imported then .reached ps
    else
      match c.cls.inspection with
      | some r => .stop ps (.raised r)
      | none => if c.cls.hasHook then ps.takeClass name path created c.cls else .reached ps

/-- Takes up the classes of a file. -/
def addClasses (ps : Plugins) (name path : String) (classes : List (Nat × DefinedClass)) : Search :=
  .each (addClass name path) ps classes

/-- Takes up the plugins of a file, with classes numbered from `created` on. -/
def addFile (ps : Plugins) (directory : String) (created : Nat) (f : PluginFile) : Search :=
  let path := directory ++ "/" ++ f.name
  match f.loading with
  | .raises r => if r.isTaken then .noticed [.fileFailed path] ps else .stop ps (.raised r)
  | .closed r => .stop ps (.raised r)
  | .classes cs => ps.addClasses f.pluginName path (definedClasses created cs)

/-- Takes up the plugins of some files in a directory, with classes numbered from `created` on. -/
def addFiles (ps : Plugins) (directory : String) (created : Nat) : List PluginFile → Search
  | [] => .reached ps
  | f :: rest => (ps.addFile directory created f).andThen fun ps =>
    ps.addFiles directory (created + (f.classes.getD []).length) rest

/-- Takes up the plugins of a directory if there is one. -/
def addDirectory (ps : Plugins) (created : Nat) : Option (String × Listing) → Search
  | none => .reached ps
  | some (_, .error r) => .stop ps (.raised r)
  | some (path, .ok files) => ps.addFiles path created (loadedFiles files)

/-- Looks for plugins, in a directory if there is one; its classes are created after all others. -/
def search (ps : Plugins) (created : Nat) (directory : Option (String × Listing)) : Search :=
  ((ps.settleEntries ps.visited).andThen fun ps => ps.addDirectory created directory).andThen fun ps =>
    .reached { ps with loaded := true }

/-- A search that gives back the plugins, unless it is stopped. -/
def discover (ps : Plugins) (created : Nat) (directory : Option (String × Listing)) : Run Plugins :=
  (ps.search created directory).run

end Plugins

end Rulebook
