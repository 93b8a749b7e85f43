import Rulebook.Proofs.Report.Independence
import Rulebook.Proofs.Rule.Explaining

/-!
Reports that say why. A report of an invalid value holds what failed, and its message names it. Plain,
something always failed. Inverted, the rules all passed, and the report is empty unless one of them has
something to tell.
-/

namespace Rulebook

/-- A connective that fails inverted passes plain. -/
theorem Connective.passes_of_inverted {c : Connective} {checks : List Check} {v : Value}
    {o : Outcome} (h : (c.check checks v true).result = .ok o) (failed : o.valid = false) :
    (c.check checks v false).result = .ok .pass := by
  have hvalid := Connective.check_valid h
  rw [failed, differ_true, eq_comm, Bool.not_eq_false'] at hvalid
  obtain ⟨returns, -⟩ := check_ok_iff.mp h
  refine check_ok_iff.mpr ⟨returns, ?_⟩
  rw [hvalid, if_pos (differ_false true)]

theorem Rule.composition_of_ne_nil {rules : List (String × Rule)} (h : rules ≠ []) :
    Rule.composition rules = .several .compose (rules.map (·.2)) := by
  have hpresent : Rule.present (rules.map fun p => some p.2) = rules.map (·.2) := by
    unfold Rule.present
    rw [List.filterMap_map]
    exact congrFun List.filterMap_eq_map' rules
  show Rule.combine .compose (rules.map fun p => some p.2) = _
  unfold Rule.combine
  rw [hpresent]
  cases rules with
  | nil => exact absurd rfl h
  | cons p rest => rfl

/-- Rules composed, when they fail a value, report something if they are not inverted or one of them
has something to tell. -/
theorem Rule.composition_says_iff {rules : List (String × Rule)}
    (given : ∀ p ∈ rules, p.2.AllGiven Check.Explains) {v : Value} {invert : Bool} {o : Outcome}
    (h : ((Rule.composition rules).check v invert).result = .ok o) (failed : o.valid = false) :
    o.errors ≠ [] ↔ invert = false ∨ ∃ p ∈ rules, p.2.Tells v := by
  have hne : rules ≠ [] := by
    rintro rfl
    cases h
    cases failed
  have hgiven : Rule.AllGiven Check.Explains (.several .compose (rules.map (·.2))) :=
    Rule.eachGiven_iff.mpr (List.forall_mem_map.mpr given)
  rw [Rule.composition_of_ne_nil hne] at h
  cases invert with
  | false =>
    have hexplained : o.errors ≠ [] ↔ o.valid = false := Rule.plain_explained _ hgiven v o h
    simp [hexplained, failed]
  | true =>
    have hplain : ((Rule.several .compose (rules.map (·.2))).check v false).result = .ok .pass :=
      Connective.passes_of_inverted h failed
    have htells := Rule.tellsInverted _ hgiven v .pass o hplain rfl h
    rw [htells, Rule.Tells, Rule.someTells_iff]
    constructor
    · rintro (hmarked | ⟨r, hr, hr'⟩)
      · exact absurd rfl hmarked
      · obtain ⟨p, hp, rfl⟩ := List.mem_map.mp hr
        exact .inr ⟨p, hp, hr'⟩
    · rintro (hnot | ⟨p, hp, hp'⟩)
      · cases hnot
      · exact .inr ⟨p.2, List.mem_map_of_mem hp, hp'⟩

/-- A report of an invalid value names what failed, except that of an inverted check none of whose
rules has something to tell. Evaluations that makers give from outside the program must name something
when they fail; the keywords give none. -/
theorem Registry.check_says_why {r : Registry Maker} (given : r.AllGiven Check.Explains) {v : Value}
    {document : List (Scalar × Value)} {invert strict : Bool} {report : Report}
    (h : (r.check v document invert strict).result = .ok report)
    (invalid : report.problem.map (·.code) = some "INVALID") :
    ∃ b errors, (r.build document).result = .ok b ∧
      report.get? "errors" = some (.record errors) ∧ report.problem = some (.invalid errors) ∧
      (errors ≠ [] ↔ invert = false ∨ ∃ p ∈ b.rules, p.2.Tells v) := by
  obtain ⟨b, hb, hreport⟩ := Run.bind_ok_iff.mp h
  rw [Registry.reportBuilt_ok_iff] at hreport
  split at hreport
  · subst hreport
    exact absurd (Option.some.inj invalid) (by decide : "UNKNOWN_RULE" ≠ "INVALID")
  · obtain ⟨o, ho, rfl⟩ := hreport
    have hfailed : o.valid = false := by
      cases hvalid : o.valid with
      | false => rfl
      | true =>
        rw [checkReport_problem, hvalid, if_pos rfl] at invalid
        cases invalid
    refine ⟨b, o.errors, hb, checkReport_errors b o, ?_, ?_⟩
    · rw [checkReport_problem, hfailed, if_neg Bool.false_ne_true]
    · exact Rule.composition_says_iff (given.build document b hb) ho hfailed

/-- Inverted, a least length that a text has is what failed. -/
theorem Registry.check_says_why_length :
    ∃ report, (Registry.builtin.check (.text "abcd") [(.text "minLength", .int 3)] true false).result =
        .ok report ∧ report.problem.map (·.code) = some "INVALID" ∧
      ∃ errors, report.get? "errors" = some (.record errors) ∧ errors ≠ [] := by
  have returns : (Registry.builtin.check (.text "abcd") [(.text "minLength", .int 3)] true
      false).Returns := ⟨_, rfl⟩
  have h := returns.result_eq
  have invalid : (Registry.builtin.check (.text "abcd") [(.text "minLength", .int 3)] true
      false).value.problem.map (·.code) = some "INVALID" := rfl
  refine ⟨_, h, invalid, ?_⟩
  obtain ⟨b, errors, hb, herrors, -, hsays⟩ := Registry.check_says_why (Registry.builtin_allGiven _) h invalid
  refine ⟨errors, herrors, hsays.mpr (.inr ?_)⟩
  cases hb
  exact ⟨_, List.mem_singleton_self _, rfl⟩

/-- Inverted, a least length says nothing of the empty text, which it passes unseen. -/
theorem Registry.check_says_nothing :
    ∃ report, (Registry.builtin.check (.text "") [(.text "minLength", .int 3)] true false).result =
        .ok report ∧ report.problem.map (·.code) = some "INVALID" ∧
      report.problem.map (·.message) = some "Value failed: " ∧
      report.get? "errors" = some (.record []) := by
  refine ⟨_, rfl, rfl, ?_, rfl⟩
  show some ("Value failed: " ++ ", ".intercalate (sortTexts [])) = _
  rw [sortTexts, List.mergeSort_nil]
  rfl

end Rulebook
