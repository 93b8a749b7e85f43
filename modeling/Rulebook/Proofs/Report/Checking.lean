import Rulebook.Report.Check
import Rulebook.Proofs.Registry.Building
import Rulebook.Proofs.Sorting

/-!
What a check reports. A strict check of a document with unknown names reports these; any other reports
the outcome of the rules. Of an outcome a report shows the verdict and what is said of each name.
-/

namespace Rulebook

/-- What a report says of a name in its errors. -/
def Report.failure? (r : Report) (name : String) : Option Value :=
  match r.get? "errors" with
  | some (.object errors) => Ordered.get? (.text name) errors
  | _ => none

/-- Texts in order do not depend on the order in which they were. -/
theorem sortTexts_perm {xs ys : List String} (h : xs.Perm ys) : sortTexts xs = sortTexts ys := by
  have sorted : ∀ zs : List String, (sortTexts zs).Pairwise (· ≤ ·) := by
    intro zs
    have hpairs : (sortTexts zs).Pairwise fun a b => decide (a ≤ b) = true :=
      List.pairwise_mergeSort (Sorting.key_trans fun s : String => s) (Sorting.key_total _) zs
    exact hpairs.imp of_decide_eq_true
  refine List.Perm.eq_of_pairwise (fun a b _ _ => le_antisymm) (sorted xs) (sorted ys) ?_
  exact (List.mergeSort_perm xs _).trans (h.trans (List.mergeSort_perm ys _).symm)

/-- The report of a check that is not strict. -/
def checkReport (b : Built) (o : Outcome) : Report :=
  .ofOutcome "check" o [("rules", .texts (b.rules.map (·.1)))]
    (b.unknown.map ("Unknown rule: " ++ ·))

theorem checkReport_ok (b : Built) (o : Outcome) : (checkReport b o).ok = o.valid := by
  unfold checkReport Report.ofOutcome
  cases h : o.valid <;> rfl

theorem checkReport_rules (b : Built) (o : Outcome) :
    (checkReport b o).get? "rules" = some (.texts (b.rules.map (·.1))) := by
  unfold checkReport Report.ofOutcome
  cases h : o.valid <;> rfl

theorem checkReport_errors (b : Built) (o : Outcome) :
    (checkReport b o).get? "errors" = some (.record o.errors) := by
  unfold checkReport Report.ofOutcome
  cases h : o.valid <;> rfl

theorem checkReport_failure? (b : Built) (o : Outcome) (name : String) :
    (checkReport b o).failure? name = Ordered.get? name o.errors := by
  rw [Report.failure?, checkReport_errors]
  exact Ordered.get?_map_text o.errors name

theorem checkReport_problem (b : Built) (o : Outcome) :
    (checkReport b o).problem = if o.valid then none else some (.invalid o.errors) := by
  unfold checkReport Report.ofOutcome
  cases h : o.valid <;> rfl

theorem checkReport_warnings (b : Built) (o : Outcome) :
    (checkReport b o).warnings = b.unknown.map ("Unknown rule: " ++ ·) := by
  unfold checkReport Report.ofOutcome
  cases h : o.valid <;> rfl

/-- Of an outcome only the verdict and what is reported of each name show in a report, with the names
in order. -/
theorem checkReport_congr {b b' : Built} {o o' : Outcome} (hvalid : o'.valid = o.valid)
    (herrors : o.errors.Perm o'.errors) (nodup : (o.errors.map (·.1)).Nodup) :
    (checkReport b' o').ok = (checkReport b o).ok ∧
    (checkReport b' o').problem.map (·.code) = (checkReport b o).problem.map (·.code) ∧
    (checkReport b' o').problem.map (·.message) = (checkReport b o).problem.map (·.message) ∧
    ∀ k, (checkReport b' o').failure? k = (checkReport b o).failure? k := by
  have hmessage : sortTexts (o'.errors.map (·.1)) = sortTexts (o.errors.map (·.1)) :=
    (sortTexts_perm (herrors.map _)).symm
  refine ⟨?_, ?_, ?_, ?_⟩
  · rw [checkReport_ok, checkReport_ok, hvalid]
  · rw [checkReport_problem, checkReport_problem, hvalid]
    split <;> rfl
  · rw [checkReport_problem, checkReport_problem, hvalid]
    split
    · rfl
    · simp only [Option.map_some, Problem.invalid, hmessage]
  · intro k
    rw [checkReport_failure?, checkReport_failure?]
    exact (Ordered.get?_perm (Ordered.told_of_lawful _) nodup herrors).symm

namespace Registry

/-- The report of a strict check of a document with unknown names. -/
def unknownReport (b : Built) : Report :=
  .failure "check" (.unknownRules b.unknown) [("rules", .texts (b.rules.map (·.1)))] []

/-- A built document is reported by its unknown names, in a strict check, or by the outcome of its
rules. -/
theorem reportBuilt_ok_iff {b : Built} {v : Value} {invert strict : Bool} {report : Report} :
    (reportBuilt b v invert strict).result = .ok report ↔
      if !b.unknown.isEmpty && strict then report = unknownReport b
      else ∃ o, ((Rule.composition b.rules).check v invert).result = .ok o ∧
        report = checkReport b o := by
  unfold reportBuilt
  cases !b.unknown.isEmpty && strict with
  | true => simp [unknownReport, eq_comm]
  | false =>
    simp only [Bool.false_eq_true, if_false]
    rw [Run.bind_ok_iff]
    constructor
    · rintro ⟨_, _, h⟩
      obtain ⟨o, ho, h⟩ := Run.bind_ok_iff.mp h
      cases h
      exact ⟨o, ho, rfl⟩
    · rintro ⟨o, ho, rfl⟩
      exact ⟨(), rfl, Run.bind_ok_iff.mpr ⟨o, ho, rfl⟩⟩

/-- A check that is not strict makes the rules and reports their outcome. -/
theorem check_lenient_ok_iff {r : Registry Maker} {v : Value} {document : List (Scalar × Value)}
    {invert : Bool} {report : Report} : (r.check v document invert false).result = .ok report ↔
      ∃ b o, (r.build document).result = .ok b ∧
        ((Rule.composition b.rules).check v invert).result = .ok o ∧ report = checkReport b o := by
  unfold check
  rw [Run.bind_ok_iff]
  refine exists_congr fun b => ?_
  rw [reportBuilt_ok_iff, Bool.and_false, if_neg Bool.false_ne_true, exists_and_left]

end Registry

end Rulebook
