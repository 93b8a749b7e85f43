import Rulebook.Proofs.Value.Equivalence

/-!
Definite values. A value is definite when no indefinite number stands in it, as a value or as a key, and the keys
of each object are different keys. The keys may be scalars of any kind. A definite value equals itself.
-/

namespace Rulebook

/-- No indefinite number stands in the value at any depth, and no object has two members under one key. -/
inductive Value.Definite : Value → Prop
  | scalar {s : Scalar} (h : s ≠ .nan) : Definite (.scalar s)
  | list {items : List Value} (each : ∀ v ∈ items, Definite v) : Definite (.list items)
  | object {members : List (Scalar × Value)} (keys : ∀ m ∈ members, m.1 ≠ .nan)
      (apart : members.Pairwise fun m n => (m.1 == n.1) = false) (each : ∀ m ∈ members, Definite m.2) :
      Definite (.object members)

/-- A scalar is the same key as itself unless it is the indefinite number. -/
theorem Scalar.beq_self_iff {s : Scalar} : (s == s) = true ↔ s ≠ .nan := by
  show s.sameKey s = true ↔ _
  cases s with
  | bool b => cases b <;> simp [Scalar.sameKey, Scalar.keyNumber?, Number.eq_self_iff]
  | number n => simp [Scalar.sameKey, Scalar.keyNumber?, Number.eq_self_iff]
  | _ => simp [Scalar.sameKey, Scalar.keyNumber?]

/-- A member is found under its key where the keys are different. -/
theorem Ordered.get?_of_apart {members : List (Scalar × Value)} (keys : ∀ m ∈ members, m.1 ≠ .nan)
    (apart : members.Pairwise fun m n => (m.1 == n.1) = false) {m : Scalar × Value} (hm : m ∈ members) :
    Ordered.get? m.1 members = some m.2 := by
  induction members with
  | nil => cases hm
  | cons p rest ih =>
    obtain ⟨hp, hrest⟩ := List.pairwise_cons.mp apart
    rw [Ordered.get?]
    rcases List.mem_cons.mp hm with rfl | hm
    · rw [if_pos (Scalar.beq_self_iff.mpr (keys m List.mem_cons_self))]
    · rw [if_neg (Bool.eq_false_iff.mp (hp m hm))]
      exact ih (fun n hn => keys n (List.mem_cons_of_mem p hn)) hrest hm

namespace Value

variable {v : Value}

theorem Definite.equal_self (hv : v.Definite) : v.equal v = true := by
  induction hv with
  | scalar h =>
    rw [equal]
    exact Scalar.equal_self_iff.mpr h
  | list _ ih => exact list_equal_self_iff.mpr ih
  | object keys apart _ ih =>
    exact equal_object_iff.mpr ⟨rfl, fun m hm => ⟨m.2, Ordered.get?_of_apart keys apart hm, ih m hm⟩⟩

end Value

end Rulebook
