import Rulebook.Fault
import Rulebook.Text.Blank
import Rulebook.Value.Basic

/-!
Registries: named entries of any kind in order of registration. Names are kept without the blanks
around them, are not empty and are registered once. A frozen registry takes no more entries;
`extend` makes a new frozen one that has the entries of the old.
-/

namespace Rulebook

/-- What is put forward for registration: something that can be called, or anything else. -/
inductive Offer (α : Type) where
  | callable (entry : α)
  | inert

structure Registry (α : Type) where
  entries : List (String × α)
  frozen : Bool

/-- A name without the blanks around it. -/
def bareName (name : String) : String := String.ofList (trimBlanks name.toList)

/-- Texts in the order of their code points. -/
def sortTexts (names : List String) : List String := names.mergeSort fun a b => decide (a ≤ b)

namespace Registry

variable {α : Type}

def empty : Registry α := ⟨[], false⟩

def lookup? (r : Registry α) (name : String) : Option α := Ordered.get? name r.entries

def contains (r : Registry α) (name : String) : Bool := (r.lookup? name).isSome

/-- Whether a value is the name of an entry; a list or an object cannot be looked up. -/
def holds (r : Registry α) : Value → Except Fault Bool
  | .text name => .ok (r.contains name)
  | .scalar _ => .ok false
  | .list _ => .error (.unhashable "list")
  | .object _ => .error (.unhashable "dict")

/-- Adds an entry. A frozen registry, an empty name, something that cannot be called and a name that
is taken are refused, in this order. -/
def register (r : Registry α) (name : String) (offer : Offer α) : Except Fault (Registry α) :=
  if r.frozen then .error (.registryFrozen name)
  else
    let bare := bareName name
    if bare.isEmpty then .error .emptyRuleName
    else
      match offer with
      | .inert => .error (.notCallable bare)
      | .callable entry =>
        if r.contains bare then .error (.alreadyRegistered bare)
        else .ok { r with entries := r.entries ++ [(bare, entry)] }

/-- Adds entries from left to right. -/
def registerAll (r : Registry α) : List (String × Offer α) → Except Fault (Registry α)
  | [] => .ok r
  | (name, offer) :: rest => do (← r.register name offer).registerAll rest

/-- A registry of some entries. -/
def ofList (offers : List (String × Offer α)) : Except Fault (Registry α) := empty.registerAll offers

def freeze (r : Registry α) : Registry α := { r with frozen := true }

/-- A new frozen registry with the entries of an old one and some more. -/
def extend (r : Registry α) (extra : List (String × Offer α)) : Except Fault (Registry α) := do
  let copy ← ofList (r.entries.map fun (name, entry) => (name, .callable entry))
  return (← copy.registerAll extra).freeze

/-- The names in order. -/
def names (r : Registry α) : List String := sortTexts (r.entries.map (·.1))

def size (r : Registry α) : Nat := r.entries.length

end Registry

end Rulebook
