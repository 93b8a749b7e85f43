import Rulebook.Proofs.Rule.Verdict
import Rulebook.Proofs.Value.Coercion

/-!
Bounds on numbers. The limits of both sides, with their bound and without it, the flagged ones and the bounds that
cannot be inverted all look at one number and one order. So what a least bound admits is what the greatest bound
that excludes it refuses, a flag makes the limit that another keyword makes, and a tighter bound admits less.
-/

namespace Rulebook

/-! ### Admitted numbers -/

namespace Side

def opposite : Side → Side
  | least => greatest
  | greatest => least

/-- A number is within a bound when it is not within the other bound that excludes it. -/
theorem admits_opposite (side : Side) {bound n : Number} (hbound : bound.isNaN = false)
    (hn : n.isNaN = false) : side.opposite.admits true bound n = !side.admits false bound n := by
  cases side with
  | least => exact Number.lt_eq_not_le hn hbound
  | greatest => exact Number.lt_eq_not_le hbound hn

/-- What is within a bound that is within another is within that. -/
theorem admits_trans {side : Side} {bound tighter n : Number} (h : side.admits false bound tighter = true)
    (hn : side.admits false tighter n = true) : side.admits false bound n = true := by
  cases side with
  | least => exact Number.le_trans h hn
  | greatest => exact Number.le_trans hn h

/-- The keyword of a limit that excludes its bound. -/
def excludingKeyword : Side → Keyword
  | least => .exclusiveMinimum
  | greatest => .exclusiveMaximum

/-- The keyword of a bound that cannot be inverted. -/
def fixedKeyword : Side → Keyword
  | least => .min
  | greatest => .max

end Side

/-! ### Making limits -/

namespace Keyword

variable {side : Side} {bound : Number}

theorem bounded_of_usable (rule : String) (leaf : Number → Leaf) (h : bound.Usable) :
    bounded rule leaf (.number bound) = .ret (.leaf (leaf bound)) := by
  unfold bounded usableBound
  rw [Value.number?_of_usable h]
  rfl

theorem makeLimit_of_usable (excluding : Bool) (h : bound.Usable) :
    makeLimit side excluding (.number bound) =
      .ret (.leaf (.limit side (if excluding then .flagged else .including) bound)) :=
  bounded_of_usable _ _ h

theorem make_excluding_of_usable (h : bound.Usable) :
    side.excludingKeyword.make false (.number bound) = .ret (.leaf (.limit side .excluding bound)) := by
  cases side <;> exact bounded_of_usable _ _ h

/-- A bound that cannot be inverted is made of the number that its parameter is or spells. -/
theorem make_fixed_of_toNumber? {param : Value} (h : param.toNumber? = .ok (some bound)) :
    side.fixedKeyword.make false param = .ret (.fixed (.bound side param bound)) := by
  have hmake (name : String) : makeFixedBound side name param = .ret (.fixed (.bound side param bound)) := by
    unfold makeFixedBound
    rw [Value.isEmpty_of_toNumber? h, h]
    rfl
  cases side <;> exact hmake _

end Keyword

/-! ### Verdicts of limits -/

namespace Leaf

variable {side : Side} {bound : Number} {v : Value} {invert : Bool}

theorem limit_returns_iff {style : LimitStyle} :
    ((Rule.leaf (.limit side style bound)).check v invert).Returns ↔
      v.isEmpty = true ∨ ∃ n?, v.toNumber? = .ok n? := by
  rw [Rule.returns_iff_verdict, limit_verdict]
  cases v.isEmpty with
  | true => simp
  | false => cases v.toNumber? <;> simp [Except.map]

/-- Limits that exclude their bound are one rule, however they came to exclude it. -/
theorem flagged_verdict : (Rule.leaf (.limit side .flagged bound)).verdict v invert =
    (Rule.leaf (.limit side .excluding bound)).verdict v invert := by
  rw [limit_verdict, limit_verdict]
  rfl

/-- Of a limit and the opposite one that excludes its bound one admits a number, and both admit all else. -/
theorem limit_opposite (hbound : bound.isNaN = false) (hv : v.isEmpty = false) {n? : Option Number}
    (hread : v.toNumber? = .ok n?) (invert : Bool) :
    ∃ admitted opposed, (Rule.leaf (.limit side .including bound)).verdict v invert = .ok admitted ∧
      (Rule.leaf (.limit side.opposite .excluding bound)).verdict v invert = .ok opposed ∧
      if n?.isSome then opposed = !admitted else admitted = !invert ∧ opposed = !invert := by
  rw [limit_verdict, limit_verdict, hv, hread]
  refine ⟨_, _, rfl, rfl, ?_⟩
  cases n? with
  | none => exact ⟨Bool.true_xor invert, Bool.true_xor invert⟩
  | some n =>
    have hn : n.isNaN = false := by
      rcases Value.usable_of_toNumber? hread with husable | ⟨s, z, -, rfl, -⟩
      · exact husable.isNaN
      · rfl
    show differ (side.opposite.admits true bound n) invert = !differ (side.admits false bound n) invert
    rw [side.admits_opposite hbound hn]
    cases side.admits false bound n <;> cases invert <;> rfl

/-- A value that is within a tighter bound is within a looser one. -/
theorem limit_verdict_mono {tighter : Number} (h : side.admits false bound tighter = true)
    (accepted : (Rule.leaf (.limit side .including tighter)).verdict v false = .ok true) :
    (Rule.leaf (.limit side .including bound)).verdict v false = .ok true := by
  rw [limit_verdict] at accepted ⊢
  cases hv : v.isEmpty with
  | true => rfl
  | false =>
    rw [hv] at accepted
    rcases hread : v.toNumber? with f | _ | n
    · rw [hread] at accepted
      cases accepted
    · rfl
    · rw [hread] at accepted
      have hn : side.admits false tighter n = true := by
        rw [← differ_false (side.admits false tighter n)]
        exact Except.ok.inj accepted
      show Except.ok (differ (side.admits false bound n) false) = _
      rw [differ_false, Side.admits_trans h hn]

end Leaf

end Rulebook
