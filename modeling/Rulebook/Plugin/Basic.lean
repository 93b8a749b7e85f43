import Rulebook.Registry.Build

/-!
Plugins: things that offer makers of rules under names of their choice. A plugin is of a class, and
the class itself can be registered in its place until it is instantiated. Plugins are registered under
distinct names and are visited in the order in which their classes were created.
-/

namespace Rulebook

/-- What the hook of a plugin gives back when it is called. -/
inductive Offering where
  | nothing
  /-- The hook fails with a mishap. -/
  | failure (m : Mishap)
  /-- Something that is no map from names to makers. -/
  | junk
  | offers (makers : List (Scalar × Offer Maker))

/-- What calling a class comes to. -/
inductive Making where
  /-- Each call makes an instance of its own. -/
  | fresh
  /-- All calls give one and the same instance. -/
  | shared
  | raises (r : Raised)

structure PluginClass where
  name : String
  /-- What the hook gives back, unless the class has none. -/
  hook : Option Offering
  /-- Whether the hook is marked as one. -/
  marked : Bool
  making : Making
  /-- What looking through the members of the class for a marked hook raises, if it does. -/
  inspection : Option Raised
  /-- What a registration fails with, if it does, that comes to look through an instance of the class or the
  class itself. The plugin is added by then, but its hook is not. -/
  flaw : (instantiated : Bool) → Option Mishap

namespace PluginClass

/-- Whether a class has a hook that is marked as one. -/
def hasHook (c : PluginClass) : Bool := c.hook.isSome && c.marked

/-- Whether calling the class gives an instance. -/
def instantiable (c : PluginClass) : Bool :=
  match c.making with
  | .fresh | .shared => true
  | .raises _ => false

/-- Whether the class gives one and the same instance to all calls. -/
def isShared (c : PluginClass) : Bool :=
  match c.making with
  | .shared => true
  | .fresh | .raises _ => false

/-- How a hook fails that is called on the class itself. -/
def unbound (c : PluginClass) : Mishap :=
  ⟨"TypeError", c.name ++ ".register_rules() missing 1 required positional argument: 'self'"⟩

end PluginClass

/-- An instance of a class or the class itself. -/
structure Plugin where
  cls : PluginClass
  /-- The place of the class among all classes in the order of their creation. Several instances that
  are made of one class have places of their own. -/
  created : Nat
  instantiated : Bool

namespace Plugin

/-- The instance that takes the place of a class. -/
def instanced (p : Plugin) : Plugin := { p with instantiated := true }

/-- What a registration fails with, if it does, that comes to look through the plugin. -/
def flaw (p : Plugin) : Option Mishap := p.cls.flaw p.instantiated

/-- What calling the hook comes to: without an instance it fails. -/
def call? (p : Plugin) : Option Offering :=
  p.cls.hook.map fun o => if p.instantiated then o else .failure p.cls.unbound

/-- The name under which a plugin is registered unless another is given. -/
def defaultName (p : Plugin) : String := if p.instantiated then p.cls.name else "type"

/-- The name under which a plugin is registered; an empty one counts as none. -/
def nameOr (p : Plugin) (given : Option String) : String :=
  match given with
  | some name => if name.isEmpty then p.defaultName else name
  | none => p.defaultName

/-- Whether two plugins are one thing. -/
def same (p q : Plugin) : Bool := p.created == q.created && p.instantiated == q.instantiated

end Plugin

/-- Registered plugins by name, in the order of registration. -/
structure Plugins where
  entries : List (String × Plugin)
  /-- Whether plugins have been looked for. -/
  loaded : Bool

namespace Plugins

def empty : Plugins := ⟨[], false⟩

def contains (ps : Plugins) (name : String) : Bool := (Ordered.get? name ps.entries).isSome

/-- Whether a plugin is registered, under any name. -/
def holds (ps : Plugins) (p : Plugin) : Bool := ps.entries.any fun (_, q) => p.same q

/-- Adds a plugin; a name that is taken is refused, and so is a plugin that is registered. -/
def insert (ps : Plugins) (name : String) (p : Plugin) : Except Fault Plugins :=
  if ps.contains name then .error (.pluginNameTaken name)
  else if ps.holds p then .error (.pluginHeld name)
  else .ok { ps with entries := ps.entries ++ [(name, p)] }

/-- The plugins with one added if it is not refused. -/
def enter (ps : Plugins) (name : String) (p : Plugin) : Plugins :=
  match ps.insert name p with
  | .ok entered => entered
  | .error _ => ps

/-- Adds a plugin and says so. One with a flaw is added as well. -/
def register (ps : Plugins) (name : String) (p : Plugin) : Run Plugins := do
  let ps ← ps.insert name p
  match p.flaw with
  | some m => .stop (.raised (.mishap m))
  | none =>
    .note (.pluginRegistered name)
    return ps

/-- Removes a plugin that is registered. -/
def unregister (ps : Plugins) (p : Plugin) : Except Fault Plugins :=
  if ps.holds p then
    .ok { ps with entries := ps.entries.filter fun (_, q) => !p.same q }
  else .error .pluginNotRegistered

/-- The plugins in the order in which they are visited. -/
def visited (ps : Plugins) : List (String × Plugin) :=
  ps.entries.mergeSort fun (_, p) (_, q) => p.created ≤ q.created

/-- The names in the order in which the plugins are visited. -/
def names (ps : Plugins) : List String := ps.visited.map (·.1)

/-- Calls the marked hooks of all plugins without a flaw, the last registered first; what is not nothing is
kept. -/
def callAll (ps : Plugins) : Except Fault (List Offering) := do
  let results ← ps.entries.reverse.filterMapM fun (_, p) =>
    if p.cls.hasHook && p.flaw.isNone then
      match p.call? with
      | some (.failure m) => .error (.raised (.mishap m))
      | some .nothing | none => .ok none
      | some o => .ok (some o)
    else .ok none
  return results

end Plugins

end Rulebook
