import Mathlib
import Rulebook.Rule.Basic
import Rulebook.Proofs.Run

/-!
Evaluation, part by part. What a connective over some evaluations returns is said in terms of what the
evaluations return: the parts that pass are counted, and a failure reports failing parts, passing parts
or both. `Check.combine` is the evaluation of a connective over parts of which some may not be given.
-/

namespace Rulebook

instance : Inhabited Outcome := ⟨.pass⟩

/-- A leaf passes a value when its test holds, or, inverted, when it does not. -/
theorem Leaf.finish_valid (l : Leaf) (v : Value) (ok invert : Bool) :
    (l.finish v ok invert).valid = differ ok invert := by
  unfold finish
  cases hd : differ ok invert <;> rfl

/-- A leaf that fails reports its detail, whichever way it fails. -/
theorem Leaf.finish_errors {l : Leaf} {v : Value} (ok invert : Bool)
    (failed : (l.finish v ok invert).valid = false) :
    (l.finish v ok invert).errors = [(l.name, l.detail v)] := by
  unfold finish at failed ⊢
  split
  · next hdiffer =>
    rw [if_pos hdiffer] at failed
    cases failed
  · rfl

namespace Connective

/-- What is reported of passing parts: their inverted failures, where these count. -/
def explanation (c : Connective) (v : Value) (invert : Bool) (parts : List (Check × Outcome)) :
    Run (List Failures) :=
  if c = oneOf ∨ invert then explain v parts else .ret []

/-- What is reported of failing parts, where these count. -/
def complaint (c : Connective) (invert : Bool) (os : List Outcome) : List Failures :=
  if c = oneOf ∨ !invert then failures os else []

/-- A connective decides by the number of passing parts and only then asks what to report. -/
theorem check_eq (c : Connective) (checks : List Check) (v : Value) (invert : Bool) :
    c.check checks v invert = outcomes v checks >>= fun os =>
      if differ (c.accepts (os.filter (·.valid)).length checks.length) invert then pure .pass
      else c.explanation v invert (checks.zip os) >>= fun passing =>
        pure (.fail (Failures.merge (c.complaint invert os ++ passing ++ c.mark invert))) := by
  unfold check explanation complaint
  congr 1
  funext os
  dsimp only
  split
  · rfl
  · split <;> rfl

/-- Some evaluations have outcomes when each has one. -/
theorem outcomes_ok_iff {v : Value} {checks : List Check} {os : List Outcome} :
    (outcomes v checks).result = .ok os ↔
      (∀ c ∈ checks, (c v false).Returns) ∧ os = checks.map fun c => (c v false).value := by
  induction checks generalizing os with
  | nil => simp [outcomes, eq_comm]
  | cons c rest ih =>
    rw [outcomes, Run.bind_ok_iff, List.forall_mem_cons, List.map_cons]
    constructor
    · rintro ⟨o, ho, h⟩
      obtain ⟨os', hos, h⟩ := Run.bind_ok_iff.mp h
      obtain ⟨hrest, rfl⟩ := ih.mp hos
      cases h
      rw [Run.value_of_ok ho]
      exact ⟨⟨⟨o, ho⟩, hrest⟩, rfl⟩
    · rintro ⟨⟨hc, hrest⟩, rfl⟩
      exact ⟨_, hc.result_eq, Run.bind_ok_iff.mpr ⟨_, ih.mpr ⟨hrest, rfl⟩, rfl⟩⟩

/-- Whether as many of some evaluations pass as a connective asks for. -/
def accepted (c : Connective) (v : Value) (checks : List Check) : Bool :=
  c.accepts (checks.countP fun t => (t v false).value.valid) checks.length

/-- A composition accepts when all parts pass. -/
theorem compose_accepted (v : Value) (checks : List Check) :
    compose.accepted v checks = checks.all fun t => (t v false).value.valid := by
  show (checks.countP _ == checks.length) = _
  rw [Bool.eq_iff_iff, beq_iff_eq, List.countP_eq_length, List.all_eq_true]

/-- What a connective returns, in terms of what its parts return. -/
theorem check_ok_iff {c : Connective} {checks : List Check} {v : Value} {invert : Bool}
    {o : Outcome} : (c.check checks v invert).result = .ok o ↔
      (∀ t ∈ checks, (t v false).Returns) ∧
        if differ (c.accepted v checks) invert then o = .pass
        else ∃ passing, (c.explanation v invert
            (checks.map fun t => (t, (t v false).value))).result = .ok passing ∧
          o = .fail (Failures.merge (c.complaint invert (checks.map fun t => (t v false).value) ++
            passing ++ c.mark invert)) := by
  have hpassed : ((checks.map fun t => (t v false).value).filter (·.valid)).length =
      checks.countP fun t => (t v false).value.valid := by
    rw [← List.countP_eq_length_filter, List.countP_map]
    rfl
  rw [check_eq, Run.bind_ok_iff]
  simp only [outcomes_ok_iff, and_assoc, exists_and_left, exists_eq_left]
  refine and_congr_right fun _ => ?_
  rw [← List.map_prod_left_eq_zip, hpassed, accepted]
  split
  · simp [eq_comm]
  · rw [Run.bind_ok_iff]
    refine exists_congr fun passing => and_congr_right fun _ => ?_
    simp [eq_comm]

theorem explain_returns_iff {v : Value} {parts : List (Check × Outcome)} :
    (explain v parts).Returns ↔ ∀ p ∈ parts, p.2.valid = true → (p.1 v true).Returns := by
  induction parts with
  | nil => simp [explain]
  | cons p rest ih =>
    obtain ⟨t, o⟩ := p
    rw [List.forall_mem_cons, ← ih, explain]
    cases hvalid : o.valid with
    | true =>
      simp only [if_pos, true_imp_iff, Run.returns_bind_iff, Run.returns_pure, and_true]
      rw [exists_and_right]
      rfl
    | false => simp

/-- A connective returns when its parts do and, where it fails, what it reports of them does. -/
theorem check_returns_iff {c : Connective} {checks : List Check} {v : Value} {invert : Bool} :
    (c.check checks v invert).Returns ↔ (∀ t ∈ checks, (t v false).Returns) ∧
      (differ (c.accepted v checks) invert = false →
        (c.explanation v invert (checks.map fun t => (t, (t v false).value))).Returns) := by
  simp only [Run.Returns, check_ok_iff, exists_and_left]
  refine and_congr_right fun _ => ?_
  split
  · next hpass => simp [hpass]
  · next hfail =>
    rw [exists_comm]
    simp [hfail]

/-- A connective returns on a value on which its parts return, plain and inverted. -/
theorem check_returns (c : Connective) {checks : List Check} {v : Value}
    (returns : ∀ t ∈ checks, ∀ i, (t v i).Returns) (invert : Bool) :
    (c.check checks v invert).Returns := by
  refine check_returns_iff.mpr ⟨fun t ht => returns t ht false, fun _ => ?_⟩
  unfold explanation
  split
  · exact explain_returns_iff.mpr (List.forall_mem_map.mpr fun t ht _ => returns t ht true)
  · exact Run.returns_ret _

/-- How many outcomes pass is read off the verdicts. -/
theorem passed_eq_count (os : List Outcome) :
    (os.filter (·.valid)).length = (os.map (·.valid)).count true := by
  rw [List.count_eq_length_filter, List.filter_map, List.length_map]
  congr 2
  funext o
  simp

end Connective

/-- A negation passes an empty value unseen. -/
theorem Check.negate_of_empty {inner : Check} {v : Value} (hv : v.isEmpty = true) (invert : Bool) :
    Check.negate inner v invert = .ret .pass := by
  rw [Check.negate, if_pos hv]

/-- What a negation returns on any other value, in terms of what its part returns. -/
theorem Check.negate_ok_iff {inner : Check} {v : Value} {invert : Bool} {o : Outcome}
    (hv : v.isEmpty = false) : (Check.negate inner v invert).result = .ok o ↔
      ∃ p, (inner v !invert).result = .ok p ∧
        o = if p.valid then .pass else .fail (Failures.merge [p.errors, [("not", .bool !invert)]]) := by
  rw [Check.negate, hv, if_neg Bool.false_ne_true, Run.bind_ok_iff]
  refine exists_congr fun p => and_congr_right fun _ => ?_
  cases p.valid <;> simp [eq_comm]

/-- The evaluation of several parts under a connective, of those parts that are given. -/
def Check.combine (c : Connective) (parts : List (Option Check)) : Check :=
  match parts.filterMap id with
  | [] => fun _ _ => .ret .pass
  | given => c.check given

namespace Check

variable {c : Connective} {parts : List (Option Check)}

/-- The parts that are given. -/
abbrev present (parts : List (Option Check)) : List Check := parts.filterMap id

theorem mem_present_iff {t : Check} : t ∈ present parts ↔ some t ∈ parts := by
  simp [present]

theorem present_map_some (checks : List Check) : present (checks.map some) = checks := by
  rw [present, List.filterMap_map]
  exact List.filterMap_some

theorem combine_of_none (hnone : present parts = []) :
    combine c parts = fun _ _ => .ret .pass := by
  have hgiven : parts.filterMap id = [] := hnone
  unfold combine
  rw [hgiven]

theorem combine_of_some (hsome : present parts ≠ []) :
    combine c parts = c.check (present parts) := by
  unfold combine
  split
  · next hnil => exact absurd hnil hsome
  · rfl

theorem combine_of_given (given : ∃ p, some p ∈ parts) :
    combine c parts = c.check (parts.filterMap id) := by
  obtain ⟨p, hp⟩ := given
  exact combine_of_some (List.ne_nil_of_mem (mem_present_iff.mpr hp))

theorem combine_returns (c : Connective) {v : Value}
    (returns : ∀ t, some t ∈ parts → ∀ i, (t v i).Returns) (invert : Bool) :
    (combine c parts v invert).Returns := by
  by_cases hnone : present parts = []
  · rw [combine_of_none hnone]
    exact Run.returns_ret _
  · rw [combine_of_some hnone]
    exact c.check_returns (fun t ht => returns t (mem_present_iff.mp ht)) invert

end Check

theorem Rule.checks_eq_map (rules : List Rule) : Rule.checks rules = rules.map Rule.check := by
  induction rules with
  | nil => rfl
  | cons r rest ih => rw [Rule.checks, ih, List.map_cons]

/-- Rules under a connective evaluate as their evaluations under it. -/
theorem Rule.check_combine (c : Connective) (rules : List (Option Rule)) :
    (Rule.combine c rules).check = Check.combine c (rules.map (·.map Rule.check)) := by
  have hgiven : (rules.map (·.map Rule.check)).filterMap id = (Rule.present rules).map Rule.check := by
    unfold Rule.present
    rw [List.filterMap_map, List.map_filterMap]
    rfl
  funext v invert
  unfold Rule.combine Check.combine
  rw [hgiven]
  cases Rule.present rules with
  | nil => rfl
  | cons r rest =>
    show c.check (Rule.checks (r :: rest)) v invert = _
    rw [Rule.checks_eq_map]
    rfl

theorem Rule.check_negate (r : Rule) :
    (Rule.negate (some r)).check = Check.negate r.check := rfl

end Rulebook
