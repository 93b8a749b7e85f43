import Rulebook.Plugin.Discovery

/-!
Plugins that come and go. A change registers a plugin or ends its registration, and a search changes
the plugins as well. A change that a fault stops leaves the plugins as they were, except for a registration
that fails when it looks through its plugin: it has added it by then. A search leaves the plugins as far as it
came.
-/

namespace Rulebook.Plugins

inductive Change where
  /-- Registers a plugin, under its own name unless one is given. -/
  | register (given : Option String) (p : Plugin)
  | unregister (p : Plugin)

inductive Call where
  | change (c : Change)
  /-- Looks for plugins, in a directory if there is one, whose classes are numbered from a place on. -/
  | discover (created : Nat) (directory : Option (String × Listing))

def perform (ps : Plugins) : Call → Run Plugins
  | .change (.register given p) => ps.register (p.nameOr given) p
  | .change (.unregister p) => ps.unregister p
  | .discover created directory => ps.discover created directory

/-- What a call leaves that a fault stops. -/
def left (ps : Plugins) : Call → Plugins
  | .change (.register given p) => ps.enter (p.nameOr given) p
  | .change (.unregister _) => ps
  | .discover created directory => (ps.search created directory).plugins

def after (ps : Plugins) (call : Call) : Plugins :=
  match (ps.perform call).result with
  | .ok ps' => ps'
  | .error _ => ps.left call

/-- The plugins after some calls, one after another. -/
def afterAll (ps : Plugins) (calls : List Call) : Plugins := calls.foldl after ps

end Rulebook.Plugins
