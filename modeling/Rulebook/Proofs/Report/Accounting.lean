import Rulebook.Proofs.Registry.Accounting
import Rulebook.Proofs.Report.Checking

/-!
Checks that account for their document. Every report of a check lists the names of the rules that were
made. A strict check of a document with an unknown name fails with the unknown names before any rule is
evaluated; in any other check they are the warnings, and being strict changes nothing.
-/

namespace Rulebook

namespace Registry

variable {r : Registry Maker} {document : List (Scalar × Value)} {b : Built}

/-- A check makes the rules of the document and reports on what was made. -/
theorem check_eq_of_built (hb : (r.build document).result = .ok b) (v : Value)
    (invert strict : Bool) : r.check v document invert strict =
      ⟨(r.build document).notices ++ (reportBuilt b v invert strict).notices,
        (reportBuilt b v invert strict).result⟩ := by
  have hrun : r.build document = ⟨(r.build document).notices, .ok b⟩ := by rw [← hb]
  unfold check
  rw [hrun, Run.bind_of_ok]

/-- A strict check of a document with unknown names does no more than make its rules. -/
theorem check_of_unknown (hb : (r.build document).result = .ok b) (hne : b.unknown ≠ [])
    (v : Value) (invert : Bool) : r.check v document invert true =
      ⟨(r.build document).notices, .ok (unknownReport b)⟩ := by
  have hreport : reportBuilt b v invert true = .ret (unknownReport b) := by
    unfold reportBuilt
    rw [List.isEmpty_eq_false_iff.mpr hne]
    rfl
  rw [check_eq_of_built hb, hreport]
  exact congrArg (Run.mk · _) (List.append_nil _)

theorem reportBuilt_of_known {v : Value} {invert strict : Bool}
    (h : b.unknown = [] ∨ strict = false) :
    reportBuilt b v invert strict = reportBuilt b v invert false := by
  have hcondition : (!b.unknown.isEmpty && strict) = (!b.unknown.isEmpty && false) := by
    rcases h with hknown | rfl
    · rw [hknown]
      rfl
    · rfl
  unfold reportBuilt
  rw [hcondition]

theorem check_ok_iff_of_built (hb : (r.build document).result = .ok b) {v : Value}
    {invert strict : Bool} {report : Report} :
    (r.check v document invert strict).result = .ok report ↔
      if !b.unknown.isEmpty && strict then report = unknownReport b
      else ∃ o, ((Rule.composition b.rules).check v invert).result = .ok o ∧
        report = checkReport b o := by
  rw [check_eq_of_built hb]
  exact reportBuilt_ok_iff

/-- A check accounts for the whole document: its names are those of the rules, which the report lists,
the unknown names, which it warns of or fails with, and those of flags. -/
theorem check_accounts {r : Registry Maker} {q : Requirements} {b : Built}
    (built : (r.build q.document).result = .ok b) :
    Accounts r q b ∧
    (∀ v invert strict report, (r.check v q.document invert strict).result = .ok report →
      report.get? "rules" = some (.texts (b.rules.map (·.1)))) ∧
    (b.unknown ≠ [] → ∃ report problem,
      (∀ v invert, r.check v q.document invert true = ⟨(r.build q.document).notices, .ok report⟩) ∧
      report.ok = false ∧ report.problem = some problem ∧ problem.code = "UNKNOWN_RULE" ∧
      problem.detail = [("unknown", .texts b.unknown)]) ∧
    (∀ v invert strict, b.unknown = [] ∨ strict = false →
      r.check v q.document invert strict = r.check v q.document invert false ∧
      ∀ report, (r.check v q.document invert strict).result = .ok report →
        report.warnings = b.unknown.map ("Unknown rule: " ++ ·)) := by
  refine ⟨Requirements.build_accounts built, ?_, ?_, ?_⟩
  · intro v invert strict report h
    rw [check_ok_iff_of_built built] at h
    split at h
    · rw [h]
      rfl
    · obtain ⟨o, -, rfl⟩ := h
      exact checkReport_rules b o
  · intro hne
    exact ⟨unknownReport b, .unknownRules b.unknown, check_of_unknown built hne, rfl, rfl, rfl, rfl⟩
  · intro v invert strict hcount
    have hsame : r.check v q.document invert strict = r.check v q.document invert false := by
      rw [check_eq_of_built built, check_eq_of_built built, reportBuilt_of_known hcount]
    refine ⟨hsame, fun report h => ?_⟩
    rw [hsame, check_ok_iff_of_built built, Bool.and_false, if_neg Bool.false_ne_true] at h
    obtain ⟨o, -, rfl⟩ := h
    exact checkReport_warnings b o

/-- A registry with a maker of its own, and a document whose flag stands before the limit it flags and
has an unknown name beside it. -/
theorem check_accounts_flagged :
    let r : Registry Maker := ⟨builtinMakers ++ [("even", .custom fun _ => .ret (.leaf .required))], true⟩
    let q : Requirements := ⟨[("exclusiveMinimum", .bool true), ("slug", .int 1), ("minimum", .int 5),
      ("even", .null)], by decide⟩
    ∃ b, (r.build q.document).result = .ok b ∧ b.rules.map (·.1) = ["minimum", "even"] ∧
      b.unknown = ["slug"] ∧ (∃ rule, ("minimum", rule) ∈ b.rules ∧ rule.Excludes (.int 5)) ∧
      (∃ report, r.check (.int 5) q.document false true = ⟨[], .ok report⟩ ∧
        report.problem.map (·.code) = some "UNKNOWN_RULE") ∧
      ∃ report, (r.check (.int 5) q.document false false).result = .ok report ∧
        report.get? "rules" = some (.texts ["minimum", "even"]) ∧
        report.warnings = ["Unknown rule: slug"] := by
  intro r q
  obtain ⟨b, built⟩ : (r.build q.document).Returns := ⟨_, rfl⟩
  have hrules : b.rules.map (·.1) = ["minimum", "even"] := by
    cases built
    rfl
  have hunknown : b.unknown = ["slug"] := by
    cases built
    rfl
  obtain ⟨accounts, listed, refused, warned⟩ := check_accounts (q := q) built
  refine ⟨b, built, hrules, hunknown, ?_, ?_, ?_⟩
  · have hmem : "minimum" ∈ b.rules.map (·.1) := hrules ▸ .head _
    obtain ⟨⟨-, rule⟩, hrule, rfl⟩ := List.mem_map.mp hmem
    obtain ⟨maker, param, on, found, entry, -, -, excludes⟩ := accounts.limits .least rule hrule
    have hparam : param = .int 5 := by simpa [q, Side.keyword, Keyword.name] using entry
    subst hparam
    cases found
    exact ⟨rule, hrule, (excludes rfl (.int 5) rfl rfl).mpr (.head _)⟩
  · obtain ⟨report, problem, runs, -, hproblem, hcode, -⟩ :=
      refused (hunknown ▸ List.cons_ne_nil _ _)
    exact ⟨report, runs _ _, by rw [hproblem, Option.map_some, hcode]⟩
  · obtain ⟨report, hreport⟩ : (r.check (.int 5) q.document false false).Returns := ⟨_, rfl⟩
    refine ⟨report, hreport, hrules ▸ listed _ _ _ report hreport, ?_⟩
    rw [(warned _ _ _ (.inr rfl)).2 report hreport, hunknown]
    rfl

end Registry

end Rulebook
