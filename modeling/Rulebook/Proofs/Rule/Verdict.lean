import Rulebook.Rule.Keyword
import Rulebook.Proofs.Rule.Inversion

/-!
Verdicts. The verdict of a rule on a value is whether the value passes, or the fault that stops the evaluation;
what is reported of a failure is left out. A rule that bounds numbers or asks for a multiple gives its verdict by
the number that a value is or spells, a constant and a choice by what loosely equals the value.
-/

namespace Rulebook

variable {v w : Value} {invert : Bool}

/-- Whether a value passes a rule, plain or inverted, or what stops the evaluation. -/
def Rule.verdict (r : Rule) (v : Value) (invert : Bool) : Except Fault Bool :=
  (r.check v invert).result.map (·.valid)

theorem Rule.returns_iff_verdict {r : Rule} :
    (r.check v invert).Returns ↔ ∃ b, r.verdict v invert = .ok b := by
  unfold verdict Run.Returns
  cases (r.check v invert).result <;> simp [Except.map]

/-- A leaf decides a value that it does not skip by its test, or, inverted, by the opposite. -/
theorem Leaf.verdict_eq (l : Leaf) (v : Value) (invert : Bool) : (Rule.leaf l).verdict v invert =
    if l.skips v then .ok true else (l.test v).result.map (differ · invert) := by
  show (l.check v invert).result.map (·.valid) = _
  unfold Leaf.check
  split
  · rfl
  · rw [Run.result_bind]
    cases (l.test v).result with
    | error f => rfl
    | ok ok => exact congrArg Except.ok (l.finish_valid v ok invert)

/-- A limit admits what is no number. -/
theorem Leaf.limit_verdict (side : Side) (style : LimitStyle) (bound : Number) (v : Value) (invert : Bool) :
    (Rule.leaf (.limit side style bound)).verdict v invert = if v.isEmpty then .ok true else
      v.toNumber?.map fun n? => differ (n?.all (side.admits (style != .including) bound)) invert := by
  have htest : ((Leaf.limit side style bound).test v).result =
      v.toNumber?.map fun n? => n?.all (side.admits (style != .including) bound) := by
    unfold Leaf.test
    rw [Run.result_bind, Run.result_lift]
    rcases v.toNumber? with f | _ | n <;> rfl
  rw [Leaf.verdict_eq, htest]
  show (if v.isEmpty then _ else _) = _
  cases v.toNumber? <;> rfl

/-- A divisor refuses what is no number. -/
theorem Leaf.divisor_verdict (d : Number) (v : Value) (invert : Bool) :
    (Rule.leaf (.divisor d)).verdict v invert = if v.isEmpty then .ok true else do
      return differ (← match ← v.toNumber? with
        | some n => isMultiple d n
        | none => .ok false) invert := by
  have htest : ((Leaf.divisor d).test v).result = v.toNumber? >>= fun
      | some n => isMultiple d n
      | none => .ok false := by
    unfold Leaf.test
    rw [Run.result_bind, Run.result_lift]
    rcases v.toNumber? with f | _ | n <;> rfl
  rw [Leaf.verdict_eq, htest]
  show (if v.isEmpty then _ else _) = _
  rcases v.toNumber? with f | _ | n <;> rfl

theorem Leaf.constant_verdict (expected v : Value) (invert : Bool) :
    (Rule.leaf (.constant expected)).verdict v invert =
      if v.isEmpty then .ok true else (expected.looselyEqual v).map (differ · invert) :=
  Leaf.verdict_eq _ _ _

theorem Leaf.choice_verdict {allowed : List Value} (hv : v.isList = false) (invert : Bool) :
    (Rule.leaf (.choice allowed)).verdict v invert =
      if v.isEmpty then .ok true else (Leaf.anyEqual allowed v).map (differ · invert) := by
  rw [Leaf.verdict_eq]
  cases v with
  | list items => cases hv
  | scalar s => rfl
  | object members => rfl

/-- A bound that cannot be inverted decides as a limit that includes its bound. -/
theorem Fixed.bound_verdict (side : Side) (param : Value) (bound : Number) (v : Value) (invert : Bool) :
    (Rule.fixed (.bound side param bound)).verdict v invert =
      (Rule.leaf (.limit side .including bound)).verdict v false := by
  rw [Leaf.limit_verdict]
  show ((Fixed.bound side param bound).check v invert).result.map (·.valid) = _
  unfold Fixed.check
  dsimp only
  split
  · rfl
  · rw [Run.result_bind, Run.result_lift]
    rcases v.toNumber? with f | _ | n
    · rfl
    · rfl
    · show Except.map _ (Run.result (if side.admits false bound n then _ else _)) =
        Except.ok (differ (side.admits false bound n) false)
      cases side.admits false bound n <;> rfl

end Rulebook
