import Rulebook.Rule.Basic

/-!
Rules evaluated together on one value. Each rule that is given has a slot; the slots are filled in
any order as evaluations complete, none is skipped when another fails, and the outcomes are merged in
the order of the slots, whatever the order in which they came.
-/

namespace Rulebook

/-- A place for the outcome of a rule, whose index is its place among the rules that were listed. -/
structure Slot where
  index : Nat
  check : Check
  outcome? : Option Outcome

structure Gathering where
  slots : List Slot
  /-- The indexes of the rules that ran, in the order in which they completed. -/
  ran : List Nat

namespace Gathering

/-- Slots for the rules that are given, counted from an index. -/
def slotsFrom (index : Nat) : List (Option Check) → List Slot
  | [] => []
  | some check :: rest => ⟨index, check, none⟩ :: slotsFrom (index + 1) rest
  | none :: rest => slotsFrom (index + 1) rest

/-- All rules are started, none has completed. -/
def start (checks : List (Option Check)) : Gathering := ⟨slotsFrom 0 checks, []⟩

/-- The rule in a slot completes; one that has completed before does not run again. -/
def complete (v : Value) (g : Gathering) (place : Nat) : Run Gathering :=
  match g.slots[place]? with
  | some ⟨index, check, none⟩ => do
    let o ← check v false
    return ⟨g.slots.set place ⟨index, check, some o⟩, g.ran ++ [index]⟩
  | _ => .ret g

/-- The rules in some slots complete one after another. -/
def completeAll (v : Value) (g : Gathering) : List Nat → Run Gathering
  | [] => .ret g
  | place :: rest => do completeAll v (← g.complete v place) rest

/-- The outcomes of some slots, once all are filled. -/
def outcomes? : List Slot → Option (List Outcome)
  | [] => some []
  | slot :: rest => do return (← slot.outcome?) :: (← outcomes? rest)

/-- The merged outcome, once all rules have completed. -/
def outcome? (g : Gathering) : Option Outcome := (outcomes? g.slots).map .merge

/-- The gathering of some rules over a value, whose slots complete in a given order. -/
def run (order : List Nat) (checks : List (Option Check)) (v : Value) : Run Gathering :=
  (start checks).completeAll v order

end Gathering

end Rulebook
