import Rulebook.Value.Coercion
import Rulebook.Proofs.Run
import Rulebook.Proofs.Value.Keyed

/-!
JSON values: no part is absent, floats are finite, integers have a float near them, and objects have
texts as keys. Every reading of a number in such a value returns.
-/

namespace Rulebook

/-- A finite float, or an integer with a float near it. -/
def Number.IsJson : Number → Prop
  | .int n => (Binary64.ofInt? n).isSome = true
  | .float x => x.value?.isSome = true

def Scalar.IsJson : Scalar → Prop
  | .missing => False
  | .number n => n.IsJson
  | _ => True

abbrev Value.IsJson : Value → Prop := Value.Over Scalar.IsJson

namespace Number.IsJson

variable {n : Number}

theorem isDefinite (h : n.IsJson) : n.isDefinite = .ok true := by
  cases n with
  | int n =>
    have hn : (Binary64.ofInt? n).isSome = true := h
    rw [Number.isDefinite, if_pos hn]
  | float x =>
    cases x with
    | nan => cases h
    | infinity negative => cases h
    | finite x fits => rfl
    | negativeZero => rfl

end Number.IsJson

namespace Value

/-- The number that a value is, whatever its size. -/
def asNumber? : Value → Option Number
  | .number n => some n
  | _ => none

theorem eq_of_asNumber? {v : Value} {n : Number} (h : v.asNumber? = some n) : v = .number n := by
  unfold asNumber? at h
  split at h <;> cases h
  rfl

/-- The number that a value is or spells, whatever its size. -/
def spelled? : Value → Option Number
  | .text s => Number.ofText? s
  | v => v.asNumber?

namespace IsJson

variable {v w : Value}

theorem asScalar {s : Scalar} (h : Value.IsJson (.scalar s)) : s.IsJson := by
  cases h
  assumption

theorem number? (h : v.IsJson) : v.number? = .ok v.asNumber? := by
  cases v with
  | scalar s =>
    cases s with
    | number n =>
      have hn : n.isDefinite = .ok true := Number.IsJson.isDefinite h.asScalar
      show (do return if ← n.isDefinite then some n else none) = _
      rw [hn]
      rfl
    | _ => rfl
  | list items => rfl
  | object members => rfl

theorem toNumber? (h : v.IsJson) : v.toNumber? = .ok v.spelled? := by
  cases v with
  | scalar s =>
    cases s with
    | text s => rfl
    | _ => exact h.number?
  | list items => rfl
  | object members => rfl

/-- What a JSON value is or spells is not infinite. -/
theorem spelled?_ne_infinity (hv : v.IsJson) {n : Number} (h : v.spelled? = some n)
    (negative : Bool) : n ≠ .float (.infinity negative) := by
  rintro rfl
  cases v with
  | list items => cases h
  | object members => cases h
  | scalar s =>
    cases s with
    | text s =>
      have h' : Number.ofText? s = some (.float (.infinity negative)) := h
      unfold Number.ofText? at h'
      dsimp only at h'
      split at h'
      · cases h'
      · split at h'
        · cases h'
        · cases h'
        · next hx _ =>
          cases h'
          exact hx negative rfl
    | number m =>
      cases h
      have hm : (Scalar.number (.float (.infinity negative))).IsJson := hv.asScalar
      cases hm
    | _ => cases h

theorem isKindNamed (h : v.IsJson) (name : String) : ∃ b, v.isKindNamed name = .ok b := by
  unfold Value.isKindNamed
  split
  · next kind _ =>
    cases kind with
    | number =>
      show ∃ b, (do return (← v.number?).isSome) = .ok b
      rw [h.number?]
      exact ⟨_, rfl⟩
    | integer =>
      show ∃ b, (do return (← v.number?).any Number.isIntegral) = .ok b
      rw [h.number?]
      exact ⟨_, rfl⟩
    | _ => exact ⟨_, rfl⟩
  · exact ⟨_, rfl⟩

theorem toTruth? (h : v.IsJson) : ∃ t, v.toTruth? = .ok t := by
  cases v with
  | scalar s =>
    cases s with
    | number n =>
      simp only [Value.toTruth?]
      rw [h.number?]
      exact ⟨_, rfl⟩
    | _ => exact ⟨_, rfl⟩
  | list items => exact ⟨_, rfl⟩
  | object members => exact ⟨_, rfl⟩

theorem looselyEqual (hv : v.IsJson) (hw : w.IsJson) : ∃ b, v.looselyEqual w = .ok b := by
  unfold Value.looselyEqual
  rw [hv.number?, hw.toNumber?]
  split
  · exact ⟨_, rfl⟩
  · cases v.asNumber? with
    | some n => exact ⟨_, rfl⟩
    | none =>
      obtain ⟨t, ht⟩ := hw.toTruth?
      simp only [ht]
      split <;> exact ⟨_, rfl⟩

theorem member (h : v.IsJson) (key : Scalar) : (v.member key).IsJson := Value.Over.member trivial h key

end IsJson

end Value

end Rulebook
