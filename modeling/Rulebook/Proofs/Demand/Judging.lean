import Rulebook.Proofs.Demand.Reading
import Rulebook.Proofs.Rule.Merging
import Rulebook.Proofs.Value.Tabulated

/-!
What demands decide and report. An entry asks that fields be present, or absent when the evaluation is
inverted, and that fields meet documents, which are evaluated plain either way. Demands are met when all
that the present triggers ask for is met. Otherwise the report has the failing triggers in order, and
for each its failing fields with all that failed of the field, merged.
-/

namespace Rulebook

/-! ### What entries ask for -/

/-- What an entry of demands asks for: required fields, and requirement documents for fields. -/
structure Asked where
  required : List String
  documents : List (String × List (Scalar × Value))

/-- An entry is a list of texts, or an object that may have a list of texts under `required` and an
object of objects under `properties`, or null in their places. -/
inductive AsksFor : Value → Asked → Prop
  | list (names : List String) : AsksFor (.texts names) ⟨names, []⟩
  | object {members : List (Scalar × Value)} {required : Option (List String)}
      {documents : Option (List (String × List (Scalar × Value)))}
      (hrequired : (Ordered.get? (.text "required") members).getD .null =
        (required.map .texts).getD .null)
      (hproperties : (Ordered.get? (.text "properties") members).getD .null =
        (documents.map fun ds => .record (ds.map fun d => (d.1, .object d.2))).getD .null) :
      AsksFor (.object members) ⟨required.getD [], documents.getD []⟩

namespace AsksFor

variable {entry : Value} {a : Asked}

theorem requiredFields_eq (h : AsksFor entry a) :
    requiredFields (requiredOf entry) = .ok (a.required.map .text) := by
  cases h with
  | list names => simp [requiredOf, Value.texts]
  | @object members required documents hrequired hproperties =>
    rw [requiredOf, hrequired]
    cases required with
    | none => rfl
    | some names => simp [Value.texts]

theorem propertiesOf_eq (h : AsksFor entry a) :
    propertiesOf entry = a.documents.map fun d => (.text d.1, .object d.2) := by
  cases h with
  | list names => simp [propertiesOf, Value.texts]
  | @object members required documents hrequired hproperties =>
    rw [propertiesOf]
    cases hget : Ordered.get? (Scalar.text "properties") members <;> cases documents <;>
      simp_all [Value.record]

end AsksFor

/-! ### Documents of fields -/

namespace Registry

/-- The rules of a document can be made and evaluated on a value. -/
def ReturnsOn (r : Registry Maker) (document : List (Scalar × Value)) (w : Value) : Prop :=
  (r.build document).Yields fun b => ∀ p ∈ b.rules, (p.2.check w false).Returns

/-- What the rules of a document report that a value fails, in the order of the document. -/
def rejections (r : Registry Maker) (document : List (Scalar × Value)) (w : Value) : List Failures :=
  Connective.failures ((r.build document).value.rules.map fun p => (p.2.check w false).value)

end Registry

theorem Rule.failures_ok_iff {rules : List Rule} {w : Value} {out : List Failures} :
    (Rule.failures rules w).result = .ok out ↔ (∀ r ∈ rules, (r.check w false).Returns) ∧
      out = Connective.failures (rules.map fun r => (r.check w false).value) := by
  induction rules generalizing out with
  | nil => simp [Rule.failures, Connective.failures, eq_comm]
  | cons r rest ih =>
    rw [Rule.failures, Run.bind_ok_iff, List.forall_mem_cons, List.map_cons]
    constructor
    · rintro ⟨o, ho, h⟩
      rcases Run.bind_ok_iff.mp h with ⟨more, hmore, h⟩
      rcases ih.mp hmore with ⟨hrest, rfl⟩
      cases h
      refine ⟨⟨⟨o, ho⟩, hrest⟩, ?_⟩
      cases hvalid : o.valid <;> simp [Connective.failures, Run.value_of_ok ho, hvalid]
    · rintro ⟨⟨hr, hrest⟩, rfl⟩
      refine ⟨_, hr.result_eq, Run.bind_ok_iff.mpr ⟨_, ih.mpr ⟨hrest, rfl⟩, ?_⟩⟩
      cases hvalid : (r.check w false).value.valid <;> simp [Connective.failures, hvalid]

/-- The plan for a field adds what the rules of its document report. -/
theorem Plan.add_fieldPlan_ok_iff {r : Registry Maker} {field : Scalar}
    {document : List (Scalar × Value)} {v : Value} {acc out : FieldFailures} :
    (Plan.add (fieldPlan (some r.entries) field (.object document)) v acc).result = .ok out ↔
      r.ReturnsOn document (v.member field) ∧
        out = addFailures field (r.rejections document (v.member field)) acc := by
  have hplan : fieldPlan (some r.entries) field (.object document) =
      Plan.ofRun field (r.build document) := by
    simp [fieldPlan, Registry.build]
  rw [hplan, Plan.ofRun, Registry.ReturnsOn, Registry.rejections, Run.Yields, Run.value]
  cases hbuild : (r.build document).result with
  | error f => simp [Plan.add, Run.bind_ok_iff]
  | ok b =>
    simp only [Plan.add, Run.bind_ok_iff, Rule.failures_ok_iff, List.forall_mem_map, List.map_map]
    simp [Run.notes, Function.comp_def, eq_comm]

/-! ### Reports of entries -/

namespace Asked

section

variable (r : Registry Maker) (v : Value) (invert : Bool) (a : Asked)

/-- The required fields that are absent or, inverted, present. -/
def failing : List String := a.required.filter fun f => (v.member (.text f)).hasValue == invert

/-- What the document of a field reports of its member. -/
def rejectionsOf (d : String × List (Scalar × Value)) : List Failures :=
  r.rejections d.2 (v.member (.text d.1))

/-- The fields of which some rule is failed. -/
def rejected : List String := (a.documents.filter fun d => !(rejectionsOf r v d).isEmpty).map (·.1)

/-- All that fails of a field: first its presence, then the rules of its document. -/
def failures (field : String) : List Failures :=
  (if field ∈ a.failing v invert then [[("required", .bool true)]] else []) ++
    a.documents.flatMap fun d => if d.1 = field then rejectionsOf r v d else []

/-- The failing fields, each with all that fails of it. -/
def report : List (String × Failures) :=
  Ordered.tabulate (a.failing v invert ++ a.rejected r v) fun field =>
    Failures.merge (a.failures r v invert field)

/-- Nothing that is asked for fails. -/
def isMet : Bool := (a.failing v invert).isEmpty && (a.rejected r v).isEmpty

/-- All documents can be made and evaluated. -/
def ReturnsOn : Prop := ∀ d ∈ a.documents, r.ReturnsOn d.2 (v.member (.text d.1))

end

/-- The required fields are present, or absent if inverted, and the rules of the documents accept
their fields. -/
structure Met (r : Registry Maker) (v : Value) (invert : Bool) (a : Asked) : Prop where
  present : ∀ field ∈ a.required, (v.member (.text field)).hasValue ≠ invert
  accepted : ∀ d ∈ a.documents, ∀ b, (r.build d.2).result = .ok b → ∀ p ∈ b.rules,
    ∀ o, (p.2.check (v.member (.text d.1)) false).result = .ok o → o.valid = true

/-- A report with texts as keys. -/
def keyed (report : List (String × Failures)) : FieldFailures :=
  report.map fun (field, errors) => (.text field, errors)

/-- Merged failures are merged with others as the failures that they are made of. -/
theorem merge_cons_merge (maps more : List Failures) :
    Failures.merge (Failures.merge maps :: more) = Failures.merge (maps ++ more) := by
  calc Failures.merge (Failures.merge maps :: more)
      = Ordered.union (Ordered.union [] (Ordered.ofList maps.flatten)) more.flatten := by
        rw [Failures.merge_eq_ofList, Failures.merge_eq_ofList, List.flatten_cons, Ordered.ofList,
          Ordered.union_append]
    _ = Ordered.union (Ordered.union [] maps.flatten) more.flatten := by rw [Ordered.union_ofList]
    _ = Failures.merge (maps ++ more) := by
        rw [Failures.merge_eq_ofList, List.flatten_append, Ordered.ofList, Ordered.union_append]

theorem addFailures_keyed (field : String) (failed : List Failures)
    (report : List (String × Failures)) : addFailures (.text field) failed (keyed report) =
      keyed (if failed.isEmpty then report else Ordered.insert field
        (Failures.merge ((Ordered.get? field report).getD [] :: failed)) report) := by
  unfold addFailures
  split
  · rfl
  · simp only [keyed, Ordered.get?_map_text, Ordered.insert_map_text, Failures.mergeGiven_cons]

section

variable {r : Registry Maker} {v : Value} {invert : Bool}

theorem report_eq_nil_iff {a : Asked} : a.report r v invert = [] ↔ a.isMet r v invert = true := by
  simp [report, isMet]

theorem mem_rejected_iff {a : Asked} {field : String} : field ∈ a.rejected r v ↔
    ∃ d ∈ a.documents, d.1 = field ∧ rejectionsOf r v d ≠ [] := by
  simp only [rejected, List.mem_map, List.mem_filter, Bool.not_eq_true', List.isEmpty_eq_false_iff]
  constructor
  · rintro ⟨d, ⟨hd, hsome⟩, hfield⟩
    exact ⟨d, hd, hfield, hsome⟩
  · rintro ⟨d, hd, hfield, hsome⟩
    exact ⟨d, ⟨hd, hsome⟩, hfield⟩

/-- Just the failing fields have failures. -/
theorem failures_ne_nil_iff {a : Asked} {field : String} : a.failures r v invert field ≠ [] ↔
    field ∈ a.failing v invert ++ a.rejected r v := by
  have hdocuments : (a.documents.flatMap fun d => if d.1 = field then rejectionsOf r v d else []) ≠ [] ↔
      field ∈ a.rejected r v := by
    simp [mem_rejected_iff, List.flatMap_eq_nil_iff]
  rw [failures, ne_eq, List.append_eq_nil_iff, not_and_or, List.mem_append, ← hdocuments]
  by_cases hfailing : field ∈ a.failing v invert <;> simp [hfailing]

/-- A report has each failing field once. -/
theorem nodup_report (a : Asked) : ((a.report r v invert).map (·.1)).Nodup := by
  simpa [report] using Ordered.nodup_eraseDups _

/-- A report has just the failing fields, each with all that fails of it, merged. -/
theorem get?_report (a : Asked) (field : String) : Ordered.get? field (a.report r v invert) =
    if a.failures r v invert field = [] then none
      else some (Failures.merge (a.failures r v invert field)) := by
  rw [report, Ordered.get?_tabulate]
  by_cases hfield : a.failures r v invert field = []
  · rw [if_pos hfield, if_neg fun h => failures_ne_nil_iff.mpr h hfield]
  · rw [if_neg hfield, if_pos (failures_ne_nil_iff.mp hfield)]

/-- Nothing is reported of a document exactly when all its rules accept. -/
theorem rejectionsOf_eq_nil_iff {d : String × List (Scalar × Value)}
    (returns : r.ReturnsOn d.2 (v.member (.text d.1))) : rejectionsOf r v d = [] ↔
      ∀ b, (r.build d.2).result = .ok b → ∀ p ∈ b.rules,
        ∀ o, (p.2.check (v.member (.text d.1)) false).result = .ok o → o.valid = true := by
  rcases returns with ⟨b, hb, hrules⟩
  rw [rejectionsOf, Registry.rejections, Run.value_of_ok hb, Connective.failures,
    List.map_eq_nil_iff, List.filter_eq_nil_iff, List.forall_mem_map]
  constructor
  · intro h b' hb' p hp o ho
    cases hb.symm.trans hb'
    simpa [Run.value_of_ok ho] using h p hp
  · intro h p hp
    simpa using h b hb p hp _ (hrules p hp).result_eq

theorem isMet_iff {a : Asked} (returns : a.ReturnsOn r v) :
    a.isMet r v invert = true ↔ a.Met r v invert := by
  have hfailing : a.failing v invert = [] ↔
      ∀ field ∈ a.required, (v.member (.text field)).hasValue ≠ invert := by
    simp [failing, List.filter_eq_nil_iff]
  have hrejected : a.rejected r v = [] ↔ ∀ d ∈ a.documents, rejectionsOf r v d = [] := by
    simp [rejected, List.filter_eq_nil_iff]
  rw [isMet, Bool.and_eq_true_iff, List.isEmpty_iff, List.isEmpty_iff, hfailing, hrejected]
  constructor
  · rintro ⟨hpresent, hnone⟩
    exact ⟨hpresent, fun d hd => (rejectionsOf_eq_nil_iff (returns d hd)).mp (hnone d hd)⟩
  · rintro ⟨hpresent, haccepted⟩
    exact ⟨hpresent, fun d hd => (rejectionsOf_eq_nil_iff (returns d hd)).mpr (haccepted d hd)⟩

/-! What is gathered after a part of an entry is the report of that part. -/

theorem report_of_required (names : List String) : report r v invert ⟨names, []⟩ =
    Ordered.tabulate (failing v invert ⟨names, []⟩) fun _ => [("required", .bool true)] := by
  have hkeys : failing v invert ⟨names, []⟩ ++ rejected r v ⟨names, []⟩ =
      failing v invert ⟨names, []⟩ := by simp [rejected]
  rw [report, hkeys]
  refine Ordered.tabulate_congr fun field hfield => ?_
  simp [failures, hfield, Failures.merge, Ordered.union, Ordered.insert]

theorem report_require (done : List String) (field : String) :
    (if differ (v.member (.text field)).isEmpty invert = true then
        Ordered.insert field [("required", .bool true)] (report r v invert ⟨done, []⟩)
      else report r v invert ⟨done, []⟩) = report r v invert ⟨done ++ [field], []⟩ := by
  have hfails : differ (v.member (.text field)).isEmpty invert =
      ((v.member (.text field)).hasValue == invert) := by
    cases invert <;> simp [differ, Value.hasValue]
  rw [hfails, report_of_required, report_of_required]
  split
  · next h =>
    have hupdate := Function.update_eq_self field fun _ : String => [("required", Value.bool true)]
    rw [Ordered.insert_tabulate, hupdate]
    simp [failing, h]
  · next h => simp [failing, h]

theorem requiredFailures_asked (names done : List String) :
    requiredFailures v invert (names.map .text) (keyed (report r v invert ⟨done, []⟩)) =
      .ret (keyed (report r v invert ⟨done ++ names, []⟩)) := by
  induction names generalizing done with
  | nil => simp [requiredFailures]
  | cons field rest ih =>
    have hstep : (if differ (v.member (.text field)).isEmpty invert = true then
        Ordered.insert (.text field) [("required", .bool true)] (keyed (report r v invert ⟨done, []⟩))
          else keyed (report r v invert ⟨done, []⟩)) =
        keyed (report r v invert ⟨done ++ [field], []⟩) := by
      rw [← report_require]
      split
      · simp only [keyed, Ordered.insert_map_text]
      · rfl
    rw [List.map_cons, requiredFailures, hstep, ih, List.append_assoc, List.singleton_append]

theorem failures_concat (required : List String) (done : List (String × List (Scalar × Value)))
    (d : String × List (Scalar × Value)) (field : String) :
    failures r v invert ⟨required, done ++ [d]⟩ field = failures r v invert ⟨required, done⟩ field ++
      if d.1 = field then rejectionsOf r v d else [] := by
  simp [failures, failing]

theorem report_document (required : List String) (done : List (String × List (Scalar × Value)))
    (d : String × List (Scalar × Value)) :
    (if (rejectionsOf r v d).isEmpty then report r v invert ⟨required, done⟩
      else Ordered.insert d.1 (Failures.merge ((Ordered.get? d.1
        (report r v invert ⟨required, done⟩)).getD [] :: rejectionsOf r v d))
          (report r v invert ⟨required, done⟩)) = report r v invert ⟨required, done ++ [d]⟩ := by
  -- the field has so far what failed of it before
  have hold : (Ordered.get? d.1 (report r v invert ⟨required, done⟩)).getD [] =
      Failures.merge (failures r v invert ⟨required, done⟩ d.1) := by
    rw [get?_report]
    split
    · next hnone =>
      rw [hnone]
      rfl
    · rfl
  split
  · next hnone =>
    have hkeys : rejected r v ⟨required, done ++ [d]⟩ = rejected r v ⟨required, done⟩ := by
      simp [rejected, hnone]
    have hempty : rejectionsOf r v d = [] := List.isEmpty_iff.mp hnone
    simp [report, hkeys, failures_concat, hempty, failing]
  · next hsome =>
    have hkeys : rejected r v ⟨required, done ++ [d]⟩ = rejected r v ⟨required, done⟩ ++ [d.1] := by
      simp [rejected, hsome]
    rw [hold, merge_cons_merge, report, Ordered.insert_tabulate, report, hkeys, ← List.append_assoc]
    refine Ordered.tabulate_congr fun field _ => ?_
    by_cases hfield : field = d.1
    · subst hfield
      simp [failures_concat]
    · simp [hfield, failures_concat, Ne.symm hfield]

theorem addAll_asked_ok_iff (required : List String)
    (documents done : List (String × List (Scalar × Value))) {out : FieldFailures} :
    (Plan.addAll (documents.map fun d => fieldPlan (some r.entries) (.text d.1) (.object d.2)) v
        (keyed (report r v invert ⟨required, done⟩))).result = .ok out ↔
      (∀ d ∈ documents, r.ReturnsOn d.2 (v.member (.text d.1))) ∧
        out = keyed (report r v invert ⟨required, done ++ documents⟩) := by
  induction documents generalizing done with
  | nil => simp [Plan.addAll, eq_comm]
  | cons d rest ih =>
    have hstep : addFailures (.text d.1) (r.rejections d.2 (v.member (.text d.1)))
        (keyed (report r v invert ⟨required, done⟩)) =
          keyed (report r v invert ⟨required, done ++ [d]⟩) := by
      rw [addFailures_keyed, ← report_document]
      rfl
    rw [List.map_cons, Plan.addAll, Run.bind_ok_iff, List.forall_mem_cons]
    simp only [Plan.add_fieldPlan_ok_iff, hstep]
    constructor
    · rintro ⟨acc, ⟨hd, rfl⟩, h⟩
      simpa [hd] using (ih (done ++ [d])).mp h
    · rintro ⟨⟨hd, hrest⟩, rfl⟩
      exact ⟨_, ⟨hd, rfl⟩, (ih (done ++ [d])).mpr ⟨hrest, by simp⟩⟩

/-- A report as a value. -/
def reportValue (report : List (String × Failures)) : Value :=
  .record (report.map fun (field, errors) => (field, .record errors))

/-- The demand of an entry fails when its trigger is present and something that it asks for fails. -/
theorem check_asked_ok_iff {a : Asked} {entry : Value} (h : AsksFor entry a) (trigger : String)
    {out : List (Scalar × Value)} :
    (Demand.check (demandOf (some r.entries) (.text trigger) entry) v invert).result = .ok out ↔
      ((v.member (.text trigger)).hasValue = true → a.ReturnsOn r v) ∧
        out = if (v.member (.text trigger)).hasValue && !a.isMet r v invert then
          [(.text trigger, reportValue (a.report r v invert))] else [] := by
  rw [demandOf_eq, h.requiredFields_eq, h.propertiesOf_eq, List.map_map, Demand.check, Value.hasValue]
  cases (v.member (.text trigger)).isEmpty with
  | true => simp [eq_comm]
  | false =>
    have hnone : keyed (report r v invert ⟨[], []⟩) = [] := by
      simp [report, failing, rejected, keyed]
    have hrequired := @requiredFailures_asked r v invert a.required []
    have hplans := @addAll_asked_ok_iff r v invert a.required a.documents []
    have hvalue : FieldFailures.toValue (keyed (a.report r v invert)) =
        reportValue (a.report r v invert) := by
      simp [FieldFailures.toValue, keyed, reportValue, Value.record, Function.comp_def]
    have hempty : (keyed (a.report r v invert)).isEmpty = a.isMet r v invert := by
      rw [Bool.eq_iff_iff, ← report_eq_nil_iff]
      simp [keyed]
    rw [hnone] at hrequired
    simp only [List.nil_append] at hrequired hplans
    rw [if_neg Bool.false_ne_true, Run.lift_ok_bind, hrequired, Run.bind_ok_iff]
    simp only [Run.result_ret, Except.ok.injEq, exists_eq_left', Run.bind_ok_iff, Function.comp_def,
      hplans, Run.result_pure, ReturnsOn]
    constructor
    · rintro ⟨_, ⟨hreturns, rfl⟩, rfl⟩
      refine ⟨fun _ => hreturns, ?_⟩
      cases hmet : a.isMet r v invert <;> simp [hempty, hvalue, hmet]
    · rintro ⟨hreturns, rfl⟩
      refine ⟨_, ⟨hreturns rfl, rfl⟩, ?_⟩
      cases hmet : a.isMet r v invert <;> simp [hempty, hvalue, hmet]

/-- Entries and what they ask for, by trigger. -/
def Spells (spec : List (Scalar × Value)) (asked : List (String × Asked)) : Prop :=
  List.Forall₂ (fun m t => m.1 = .text t.1 ∧ AsksFor m.2 t.2) spec asked

/-- The triggers that are present and whose entries ask for something that fails. -/
def unmet (r : Registry Maker) (v : Value) (invert : Bool) (asked : List (String × Asked)) :
    List (String × Asked) :=
  asked.filter fun t => (v.member (.text t.1)).hasValue && !t.2.isMet r v invert

/-- All documents of the present triggers can be made and evaluated. -/
def AllReturn (r : Registry Maker) (v : Value) (asked : List (String × Asked)) : Prop :=
  ∀ t ∈ asked, (v.member (.text t.1)).hasValue = true → t.2.ReturnsOn r v

section

variable {asked : List (String × Asked)}

theorem AllReturn.mem_unmet_iff (returns : AllReturn r v asked) {t : String × Asked} (ht : t ∈ asked) :
    t ∈ unmet r v invert asked ↔
      (v.member (.text t.1)).hasValue = true ∧ ¬ t.2.Met r v invert := by
  rw [unmet, List.mem_filter, Bool.and_eq_true_iff, Bool.not_eq_true', ← Bool.not_eq_true]
  constructor
  · rintro ⟨-, hpresent, hmet⟩
    exact ⟨hpresent, fun h => hmet ((isMet_iff (returns t ht hpresent)).mpr h)⟩
  · rintro ⟨hpresent, hmet⟩
    exact ⟨ht, hpresent, fun h => hmet ((isMet_iff (returns t ht hpresent)).mp h)⟩

theorem AllReturn.unmet_eq_nil_iff (returns : AllReturn r v asked) : unmet r v invert asked = [] ↔
    ∀ t ∈ asked, (v.member (.text t.1)).hasValue = true → t.2.Met r v invert := by
  rw [List.eq_nil_iff_forall_not_mem]
  constructor
  · intro h t ht hpresent
    by_contra hmet
    exact h t ((returns.mem_unmet_iff ht).mpr ⟨hpresent, hmet⟩)
  · intro h t hmem
    have ht := List.mem_of_mem_filter hmem
    rcases (returns.mem_unmet_iff ht).mp hmem with ⟨hpresent, hmet⟩
    exact hmet (h t ht hpresent)

end

theorem checks_asked_ok_iff {spec : List (Scalar × Value)} {asked : List (String × Asked)}
    (h : Spells spec asked) {out : List (Scalar × Value)} :
    (Demand.checks (spec.map fun m => demandOf (some r.entries) m.1 m.2) v invert).result = .ok out ↔
      AllReturn r v asked ∧ out = (unmet r v invert asked).map fun t =>
        (.text t.1, reportValue (t.2.report r v invert)) := by
  induction h generalizing out with
  | nil =>
    constructor
    · rintro ⟨⟩
      exact ⟨nofun, rfl⟩
    · rintro ⟨-, rfl⟩
      rfl
  | @cons m t spec asked hm hrest ih =>
    rcases m with ⟨trigger, entry⟩
    rcases hm with ⟨rfl, hasks⟩
    rw [List.map_cons, Demand.checks, Run.bind_ok_iff]
    simp only [check_asked_ok_iff hasks, Run.bind_ok_iff, ih, Run.result_pure, Except.ok.injEq]
    unfold AllReturn
    rw [List.forall_mem_cons]
    constructor
    · rintro ⟨_, ⟨ht, rfl⟩, _, ⟨hall, rfl⟩, rfl⟩
      refine ⟨⟨ht, hall⟩, ?_⟩
      unfold unmet
      rw [List.filter_cons]
      split <;> rfl
    · rintro ⟨⟨ht, hall⟩, rfl⟩
      refine ⟨_, ⟨ht, rfl⟩, _, ⟨hall, rfl⟩, ?_⟩
      unfold unmet
      rw [List.filter_cons]
      split <;> rfl

end

end Asked

/-! ### Demands -/

namespace Registry

variable {r : Registry Maker} {v : Value} {invert : Bool} {spec : List (Scalar × Value)}
  {asked : List (String × Asked)}

/-- The evaluation returns when all documents of the present triggers do, and reports what is not met. -/
theorem check_demands_ok_iff (spells : Asked.Spells spec asked) (hv : v.isObject = true) {o : Outcome} :
    ((r.demands (.object spec)).check v invert).result = .ok o ↔ Asked.AllReturn r v asked ∧
      o = demandsOutcome ((Asked.unmet r v invert asked).map fun t =>
        (.text t.1, Asked.reportValue (t.2.report r v invert))) := by
  rw [check_demands r spec hv, Run.bind_ok_iff]
  simp only [Asked.checks_asked_ok_iff spells, Run.result_pure, Except.ok.injEq]
  constructor
  · rintro ⟨_, ⟨hall, rfl⟩, rfl⟩
    exact ⟨hall, rfl⟩
  · rintro ⟨hall, rfl⟩
    exact ⟨_, ⟨hall, rfl⟩, rfl⟩

/-- How demands judge an object: they are met when what the present triggers ask for is met, and
otherwise report, in order, just the triggers whose entries are not met, each with its failing fields. -/
structure Judged (r : Registry Maker) (v : Value) (invert : Bool) (asked : List (String × Asked))
    (o : Outcome) : Prop where
  valid_iff : o.valid = true ↔
    ∀ t ∈ asked, (v.member (.text t.1)).hasValue = true → t.2.Met r v invert
  errors_of_valid : o.valid = true → o.errors = []
  errors_of_invalid : o.valid = false → ∃ failed : List (String × Asked),
    o.errors = [("dependencies",
      .record (failed.map fun t => (t.1, Asked.reportValue (t.2.report r v invert))))] ∧
    failed.Sublist asked ∧
    ∀ t ∈ asked, t ∈ failed ↔ (v.member (.text t.1)).hasValue = true ∧ ¬ t.2.Met r v invert
  distinct : ∀ t ∈ asked, ((t.2.report r v invert).map (·.1)).Nodup
  fields : ∀ t ∈ asked, ∀ field, Ordered.get? field (t.2.report r v invert) =
    if t.2.failures r v invert field = [] then none
      else some (Failures.merge (t.2.failures r v invert field))

theorem judged_of_returns (returns : Asked.AllReturn r v asked) :
    Judged r v invert asked (demandsOutcome ((Asked.unmet r v invert asked).map fun t =>
      (.text t.1, Asked.reportValue (t.2.report r v invert)))) := by
  rcases hlist : Asked.unmet r v invert asked with _ | ⟨t, rest⟩
  · exact ⟨iff_of_true rfl (returns.unmet_eq_nil_iff.mp hlist), fun _ => rfl, nofun,
      fun t _ => Asked.nodup_report t.2, fun t _ => Asked.get?_report t.2⟩
  · refine ⟨iff_of_false Bool.false_ne_true ?_, nofun, fun _ => ⟨t :: rest, ?_, ?_, ?_⟩,
      fun t _ => Asked.nodup_report t.2, fun t _ => Asked.get?_report t.2⟩
    · rw [← returns.unmet_eq_nil_iff, hlist]
      exact List.cons_ne_nil _ _
    · simp [demandsOutcome, Outcome.fail, Value.record, Function.comp_def]
    · exact hlist ▸ List.filter_sublist
    · exact hlist ▸ fun _ => returns.mem_unmet_iff

/-- On an object demands return when the rules of all present triggers do, and then judge it by what
these ask for: the presence of fields, turned over when inverted, and the documents of fields, plain. -/
theorem demands_judge (spells : Asked.Spells spec asked) (hv : v.isObject = true) (invert : Bool) :
    (((r.demands (.object spec)).check v invert).Returns ↔ Asked.AllReturn r v asked) ∧
      ∀ o, ((r.demands (.object spec)).check v invert).result = .ok o → Judged r v invert asked o := by
  constructor
  · constructor
    · rintro ⟨o, ho⟩
      exact ((check_demands_ok_iff spells hv).mp ho).1
    · intro returns
      exact ⟨_, (check_demands_ok_iff spells hv).mpr ⟨returns, rfl⟩⟩
  · intro o ho
    rcases (check_demands_ok_iff spells hv).mp ho with ⟨returns, rfl⟩
    exact judged_of_returns returns

/-- Of two present triggers one asks for a field that is there, and the other for a name, which is not
there, and for a longer address. -/
theorem demands_judge_parcel :
    let document : List (Scalar × Value) := [(.text "minLength", .int 3)]
    let spec : List (Scalar × Value) := [(.text "card", .texts ["address"]),
      (.text "parcel", .record [("required", .texts ["name"]),
        ("properties", .record [("address", .object document)])])]
    let asked : List (String × Asked) :=
      [("card", ⟨["address"], []⟩), ("parcel", ⟨["name"], [("address", document)]⟩)]
    let v : Value := .record [("card", .int 1), ("parcel", .bool true), ("address", .text "ab")]
    Asked.Spells spec asked ∧ v.isObject = true ∧
      ∃ o, ((builtin.demands (.object spec)).check v false).result = .ok o ∧
        Judged builtin v false asked o ∧ o.valid = false := by
  intro document spec asked v
  have hparcel : AsksFor (.record [("required", .texts ["name"]),
      ("properties", .record [("address", .object document)])]) ⟨["name"], [("address", document)]⟩ :=
    @AsksFor.object _ (some ["name"]) (some [("address", document)]) rfl rfl
  have spells : Asked.Spells spec asked :=
    .cons ⟨rfl, .list ["address"]⟩ (.cons ⟨rfl, hparcel⟩ .nil)
  obtain ⟨-, judged⟩ := @demands_judge builtin v spec asked spells rfl false
  exact ⟨spells, rfl, _, rfl, judged _ rfl, by decide +kernel⟩

end Registry

end Rulebook
