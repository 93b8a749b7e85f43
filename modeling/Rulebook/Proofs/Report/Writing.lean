import Rulebook.Report.Text
import Rulebook.Proofs.Report.Checking

/-!
Writing reports. A check reports names of rules, and failures under such names, so its report has a text in
each presentation: as a document, on one line and as a page. So does the report that lists the rules.
-/

namespace Rulebook

namespace Report

/-- A report that has a text in each presentation. -/
def Printable (r : Report) : Prop := ∀ p : Presentation, ∃ text, r.text p = .ok text

theorem textItems_texts (names : List String) (i : Nat) : textItems i (names.map Value.text) = .ok names := by
  induction names generalizing i with
  | nil => rfl
  | cons name rest ih =>
    rw [List.map_cons, textItems, ih]
    rfl

theorem namesIn_texts (names : List String) : namesIn (.texts names) = .ok names := textItems_texts names 0

theorem entriesIn_texts (names : List String) : entriesIn (.texts names) = .ok names := by
  unfold entriesIn Value.texts
  dsimp only
  induction names with
  | nil => rfl
  | cons name rest ih =>
    rw [List.map_cons, List.mapM_cons, ih]
    rfl

theorem entriesIn_record (errors : Failures) : entriesIn (.record errors) = .ok (errors.map (·.1)) := by
  unfold entriesIn Value.record
  dsimp only
  induction errors with
  | nil => rfl
  | cons p rest ih =>
    rw [List.map_cons, List.mapM_cons, ih]
    rfl

theorem exists_failureTable (errors : Failures) : ∃ lines, failureTable (.record errors) = .ok lines := by
  have hnames := entriesIn_record errors
  unfold Value.record at hnames ⊢
  unfold failureTable
  dsimp only
  rw [hnames]
  exact ⟨_, rfl⟩

/-- A report can be written if it has a line and a page. -/
theorem printable_of {r : Report} (hline : ∃ text, r.line = .ok text)
    (hpage : ∀ verbose, ∃ lines, r.page verbose = .ok lines) : r.Printable := by
  rintro ⟨json, quiet, verbose⟩
  unfold text
  cases json with
  | true => exact ⟨_, rfl⟩
  | false =>
    cases quiet with
    | true => exact hline
    | false =>
      obtain ⟨lines, hlines⟩ := hpage verbose
      exact ⟨joinLines lines, by simp only [Bool.false_eq_true, if_false, hlines]; rfl⟩

/-- A failure can be written if what its data hold as errors is nothing or failures by name. -/
theorem printable_of_failure {r : Report} (hok : r.ok = false)
    (herrors : r.get? "errors" = none ∨ ∃ errors, r.get? "errors" = some (.record errors)) :
    r.Printable := by
  refine printable_of ⟨_, by rw [line, hok]; rfl⟩ fun verbose => ?_
  have hlines : ∃ lines, r.failureLines verbose = .ok lines := by
    unfold failureLines
    rcases herrors with h | ⟨errors, h⟩
    · rw [h]
      exact ⟨_, rfl⟩
    · rw [h]
      dsimp only [Option.getD_some]
      split
      · exact exists_failureTable errors
      · exact ⟨_, rfl⟩
  obtain ⟨lines, hlines⟩ := hlines
  exact ⟨_, by rw [page, hok, hlines]; rfl⟩

/-- The report of an outcome of rules can be written. -/
theorem printable_checkReport (b : Built) (o : Outcome) : (checkReport b o).Printable := by
  cases hvalid : o.valid with
  | false => exact printable_of_failure ((checkReport_ok b o).trans hvalid) (.inr ⟨_, checkReport_errors b o⟩)
  | true =>
    have hok : (checkReport b o).ok = true := (checkReport_ok b o).trans hvalid
    have hoperation : (checkReport b o).operation = "check" := by
      unfold checkReport Report.ofOutcome
      rw [hvalid]
      rfl
    have hrules : ∃ names, (checkReport b o).rules = .texts names := by
      unfold rules
      rw [checkReport_rules]
      exact ⟨_, rfl⟩
    have hlines : ∃ lines, (checkReport b o).successLines = .ok lines := by
      obtain ⟨names, hnames⟩ := hrules
      unfold successLines
      rw [hoperation, hnames]
      show ∃ lines, (if (Value.texts names).truthy then (do
          return field "rules" (", ".intercalate (← namesIn (.texts names))))
        else return field "rules" (", ".intercalate ["(none)"])) = Except.ok lines
      split
      · rw [namesIn_texts]
        exact ⟨_, rfl⟩
      · exact ⟨_, rfl⟩
    refine printable_of ⟨"OK: check", ?_⟩ fun verbose => ?_
    · unfold line
      rw [hok, hoperation]
      rfl
    · obtain ⟨lines, hlines⟩ := hlines
      exact ⟨_, by rw [page, hok, if_pos rfl, hlines]; rfl⟩

end Report

namespace Registry

/-- What a check reports can be written. -/
theorem printable_check {r : Registry Maker} {v : Value} {document : List (Scalar × Value)}
    {invert strict : Bool} {report : Report}
    (h : (r.check v document invert strict).result = .ok report) : report.Printable := by
  obtain ⟨b, -, hreport⟩ := Run.bind_ok_iff.mp h
  rw [reportBuilt_ok_iff] at hreport
  split at hreport
  · subst hreport
    exact Report.printable_of_failure rfl (.inl rfl)
  · obtain ⟨o, -, rfl⟩ := hreport
    exact Report.printable_checkReport b o

/-- The list of the rules can be written. -/
theorem printable_list (r : Registry Maker) : r.list.Printable := by
  have hrules : r.list.rules = .texts r.names := rfl
  refine Report.printable_of ⟨"\n".intercalate r.names, ?_⟩ fun verbose => ?_
  · unfold Report.line
    rw [hrules, Report.namesIn_texts]
    rfl
  · have hlines : ∃ lines, r.list.successLines = .ok lines := by
      refine ⟨Layout.table Report.pageWidth [⟨"Rule", true, r.names⟩] ++
        Report.field "count" ((r.list.get? "count").getD (.int 0)).plainText, ?_⟩
      show (do
        let names ← Report.entriesIn r.list.rules
        return Layout.table Report.pageWidth [⟨"Rule", true, names⟩]
          ++ Report.field "count" ((r.list.get? "count").getD (.int 0)).plainText) = _
      rw [hrules, Report.entriesIn_texts]
      rfl
    obtain ⟨lines, hlines⟩ := hlines
    exact ⟨_, by rw [Report.page, show r.list.ok = true from rfl, if_pos rfl, hlines]; rfl⟩

end Registry

end Rulebook
