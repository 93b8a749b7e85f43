import Rulebook.Registry.Build

/-!
Registries that change. A store keeps registries in the order in which they were made, and a call names
the place of the registry that it is about. A fault stops a call but undoes nothing: what the call had
changed by then stays changed, and a registry that was being made keeps its place, which no answer tells.
-/

namespace Rulebook.Registry

/-- Registries by place; a place with none counts as an empty registry and keeps nothing. -/
abbrev Store := List (Registry Maker)

inductive Call where
  | construct (offers : List (String × Offer Maker))
  | register (place : Nat) (name : String) (offer : Offer Maker)
  | freeze (place : Nat)
  | extend (place : Nat) (extra : List (String × Offer Maker))
  | lookup (place : Nat) (name : String)
  | build (place : Nat) (document : List (Scalar × Value))

inductive Answer where
  | nothing
  | registry (place : Nat)
  | found (maker : Option Maker)
  | built (x : Run Built)

/-- The place of the registry that a call is to change. -/
def Call.changes? : Call → Option Nat
  | .register place _ _ | .freeze place => some place
  | _ => none

namespace Store

/-- A computation on a store that can stop with a fault. -/
abbrev Action (α : Type) := ExceptT Fault (StateM Store) α

def read (place : Nat) : Action (Registry Maker) := do
  return (← get).getD place .empty

def write (place : Nat) (r : Registry Maker) : Action Unit :=
  modify fun (rs : Store) => rs.set place r

/-- Makes an empty registry and tells its place. -/
def new : Action Nat := do
  let rs ← get
  set (rs ++ [Registry.empty])
  return rs.length

def register (place : Nat) (name : String) (offer : Offer Maker) : Action Unit := do
  let r ← read place
  write place (← r.register name offer)

def registerAll (place : Nat) : List (String × Offer Maker) → Action Unit
  | [] => return
  | (name, offer) :: rest => do
    register place name offer
    registerAll place rest

def construct (offers : List (String × Offer Maker)) : Action Nat := do
  let place ← new
  registerAll place offers
  return place

def freeze (place : Nat) : Action Unit := do
  write place (← read place).freeze

/-- Makes a copy that is not frozen, registers the new offers in it and freezes it. -/
def extend (place : Nat) (extra : List (String × Offer Maker)) : Action Nat := do
  let r ← read place
  let copy ← construct (r.entries.map fun (name, entry) => (name, .callable entry))
  registerAll copy extra
  freeze copy
  return copy

def perform : Call → Action Answer
  | .construct offers => return .registry (← construct offers)
  | .register place name offer => do
    register place name offer
    return .nothing
  | .freeze place => do
    freeze place
    return .registry place
  | .extend place extra => return .registry (← extend place extra)
  | .lookup place name => return .found ((← read place).lookup? name)
  | .build place document => return .built ((← read place).build document)

/-- The answer to a call, or the fault that stops it, and the store after it. -/
def run {α : Type} (x : Action α) (rs : Store) : Except Fault α × Store := ExceptT.run x rs

def after (rs : Store) (call : Call) : Store := (run (perform call) rs).2

/-- The store after some calls, one after another. -/
def afterAll (rs : Store) (calls : List Call) : Store := calls.foldl after rs

end Store

end Rulebook.Registry
