import Rulebook.Proofs.Registry.Building
import Rulebook.Proofs.Rule.Returning

/-!
What stops an entry of a requirement document. On JSON an entry stops a check, when its rule is made
or when the rule meets the value, exactly in the cases that `EntryStops` lists: a pattern whose
expression faults, a format named by a list or an object, a divisor for a text that spells too large
an integer, and demands that cannot be walked through or whose fields have entries that stop.
-/

namespace Rulebook

/-- What an entry of demands requires: the items of a list, or the member `required` of an object. -/
def requiredOf : Value → Value
  | .list items => .list items
  | .object members => (Ordered.get? (.text "required") members).getD .null
  | .scalar _ => .null

/-- What cannot be walked through as required fields: a truth value or number that counts as true, and
a list with an item that is no key. -/
inductive Unwalkable : Value → Prop
  | truth : Unwalkable (.bool true)
  | number {n : Number} (nonzero : n.isZero = false) : Unwalkable (.number n)
  | item {items : List Value} {item : Value} (mem : item ∈ items)
      (composite : item.isComposite = true) : Unwalkable (.list items)

/-- The entry of a keyword and a parameter stops a check of a value. -/
inductive EntryStops : Value → Keyword → Value → Prop
  | pattern {v : Value} {s : String} {f : Fault} (given : s ≠ "")
      (fault : Regex.compile .none s = .error (.fault f)) : EntryStops v .pattern (.text s)
  | format {s : String} {name : Value} (given : s ≠ "") (on : name.truthy = true)
      (composite : name.isComposite = true) : EntryStops (.text s) .format name
  | divisor {s : String} {n : Int} {d : Number} (nonzero : d.isZero = false)
      (spelled : Number.ofText? s = some (.int n)) (large : Binary64.ofInt? n = none) :
      EntryStops (.text s) .multipleOf (.number d)
  | required {v : Value} {spec : List (Scalar × Value)} {trigger : Scalar} {entry : Value}
      (present : (v.member trigger).isEmpty = false) (mem : (trigger, entry) ∈ spec)
      (unwalkable : Unwalkable (requiredOf entry)) : EntryStops v .dependencies (.object spec)
  | field {v : Value} {spec entry fields requirements : List (Scalar × Value)}
      {trigger field : Scalar} {k : Keyword} {param : Value}
      (present : (v.member trigger).isEmpty = false) (mem : (trigger, .object entry) ∈ spec)
      (properties : Ordered.get? (.text "properties") entry = some (.object fields))
      (memField : (field, .object requirements) ∈ fields)
      (memRequirement : (.text k.name, param) ∈ requirements)
      (stops : EntryStops (v.member field) k param) : EntryStops v .dependencies (.object spec)

/-- The keywords that nothing stops have no such entries. -/
theorem EntryStops.not_total {v : Value} {k : Keyword} {param : Value} (h : EntryStops v k param) :
    k.isTotal = false := by
  cases h <;> rfl

/-! ### Keywords -/

namespace Keyword

variable {v param : Value} {invert : Bool}

theorem yields_of_total {x : Run Rule} (h : x.Yields Rule.Total) (hv : v.IsJson) (invert : Bool) :
    x.Yields fun r => (r.check v invert).Returns := by
  obtain ⟨r, hr, htotal⟩ := h
  exact ⟨r, hr, htotal v hv invert⟩

theorem compilePattern_yields_iff (hv : v.IsJson) {flags : Regex.Flags} {s : String} :
    ((compilePattern flags s).Yields fun r => (r.check v invert).Returns) ↔
      ∀ f, Regex.compile flags s ≠ .error (.fault f) := by
  unfold compilePattern
  split
  · next p hp =>
    refine iff_of_true (Run.yields_ret_iff.mpr (Leaf.total_pattern _ _ v hv invert)) fun f hf => ?_
    rw [hp] at hf
    cases hf
  · next hp =>
    refine iff_of_true (by simpa using Rule.total_null v hv invert) fun f hf => ?_
    rw [hp] at hf
    cases hf
  · next f hp => exact iff_of_false Run.not_yields_stop fun h => h f hp

theorem pattern_yields_iff (hv : v.IsJson) :
    ((makePattern false param).Yields fun r => (r.check v invert).Returns) ↔
      ¬ EntryStops v .pattern param := by
  unfold makePattern
  cases htruthy : param.truthy with
  | false =>
    simp only [Bool.not_false, if_true, Run.yields_ret_iff]
    refine iff_of_true (Run.returns_ret _) fun hstops => ?_
    cases hstops with
    | pattern hs _ => simp [Value.truthy, hs] at htruthy
  | true =>
    simp only [Bool.not_true, Bool.false_eq_true, if_false]
    split
    · next s =>
      have hs : s ≠ "" := by simpa [Value.truthy] using htruthy
      rw [compilePattern_yields_iff hv]
      constructor
      · intro h hstops
        cases hstops with
        | pattern _ hf => exact h _ hf
      · intro h f hf
        exact h (.pattern hs hf)
    · next htext =>
      refine iff_of_true (by simpa using Rule.total_null v hv invert) fun hstops => ?_
      cases hstops with
      | pattern _ _ => exact htext _ rfl

theorem format_yields_iff : ((makeFormat param).Yields fun r => (r.check v invert).Returns) ↔
    ¬ EntryStops v .format param := by
  unfold makeFormat
  rw [Run.yields_ret_iff]
  cases htruthy : param.truthy with
  | false =>
    refine iff_of_true (Run.returns_ret _) ?_
    intro hstops
    cases hstops with
    | format _ hon _ =>
      rw [htruthy] at hon
      cases hon
  | true =>
    show ((Leaf.format param).check v invert).Returns ↔ _
    rw [Leaf.format_returns_iff]
    constructor
    · intro h hstops
      cases hstops with
      | format hs _ hcomposite =>
        rw [h _ rfl hs] at hcomposite
        cases hcomposite
    · rintro h s rfl hs
      cases hcomposite : param.isComposite with
      | false => rfl
      | true => exact absurd (.format hs htruthy hcomposite) h

theorem divisor_yields_iff (hv : v.IsJson) (hp : param.IsJson) :
    ((makeDivisor param).Yields fun r => (r.check v invert).Returns) ↔
      ¬ EntryStops v .multipleOf param := by
  unfold makeDivisor
  rw [hp.number?]
  simp only [Run.yields_bind_iff, Run.yields_lift_iff, Except.ok.injEq, exists_eq_left']
  cases hnumber : param.asNumber? with
  | none =>
    refine iff_of_true ?_ ?_
    · simpa using Rule.total_null v hv invert
    · intro hstops
      cases hstops
      cases hnumber
  | some d =>
    obtain rfl := Value.eq_of_asNumber? hnumber
    cases hzero : d.isZero with
    | true =>
      refine iff_of_true ?_ ?_
      · simpa [hzero] using Rule.total_null v hv invert
      · intro hstops
        cases hstops with
        | divisor hnonzero _ _ =>
          rw [hzero] at hnonzero
          cases hnonzero
    | false =>
      have hd : d.IsJson := hp.asScalar
      have hreturns : ((Rule.leaf (.divisor d)).check v invert).Returns ↔ _ :=
        Leaf.divisor_returns_iff hd hv
      simp only [hzero, Bool.not_false, if_true, Run.yields_pure_iff, hreturns]
      constructor
      · intro h hstops
        cases hstops with
        | divisor _ hspelled hlarge =>
          have hfloat := h _ _ rfl hspelled
          rw [hlarge] at hfloat
          cases hfloat
      · rintro h s n rfl hspelled
        cases hlarge : Binary64.ofInt? n with
        | some x => rfl
        | none => exact absurd (.divisor hzero hspelled hlarge) h

end Keyword

/-! ### Demands -/

theorem unwalkable_list_iff {items : List Value} :
    Unwalkable (.list items) ↔ ¬ ∀ f ∈ items, f.isComposite = false := by
  constructor
  · intro h hitems
    cases h with
    | item mem composite =>
      rw [hitems _ mem] at composite
      cases composite
  · intro h
    push Not at h
    obtain ⟨f, hf, hcomposite⟩ := h
    exact .item hf (Bool.not_eq_false _ ▸ hcomposite)

/-- Required fields can be read as keys unless they cannot be walked through. -/
theorem requiredFields_ok_iff {w : Value} :
    (∃ fields, requiredFields w = .ok fields ∧ ∀ f ∈ fields, f.isComposite = false) ↔
      ¬ Unwalkable w := by
  unfold requiredFields
  cases htruthy : w.truthy with
  | false =>
    refine iff_of_true ⟨[], rfl, by simp⟩ ?_
    intro h
    cases h with
    | truth => cases htruthy
    | number nonzero => simp [Value.truthy, nonzero] at htruthy
    | item mem _ =>
      have hitems := List.isEmpty_iff.mp (by simpa [Value.truthy] using htruthy)
      rw [hitems] at mem
      cases mem
  | true =>
    simp only [Bool.not_true, Bool.false_eq_true, if_false]
    cases w with
    | list items => simp [unwalkable_list_iff]
    | object members =>
      refine iff_of_true ⟨_, rfl, List.forall_mem_map.mpr fun _ _ => rfl⟩ ?_
      rintro ⟨⟩
    | scalar s =>
      cases s with
      | missing => cases htruthy
      | null => cases htruthy
      | bool b =>
        cases b with
        | false => cases htruthy
        | true => exact iff_of_false (by simp) (not_not.mpr .truth)
      | number n =>
        have hn : n.isZero = false := by simpa [Value.truthy] using htruthy
        exact iff_of_false (by simp) (not_not.mpr (.number hn))
      | text s =>
        refine iff_of_true ⟨_, rfl, List.forall_mem_map.mpr fun _ _ => rfl⟩ ?_
        rintro ⟨⟩

/-- A document yields rules with a property when each of its entries does. -/
theorem buildMembers_yields_iff {makers : List (String × Maker)}
    {document ms : List (Scalar × Value)} {P : Rule → Prop} :
    ((buildMembers makers document ms).Yields fun b => ∀ p ∈ b.rules, P p.2) ↔
      ∀ m ∈ ms, (entryRun makers document m).Yields fun b => ∀ p ∈ b.rules, P p.2 := by
  constructor
  · rintro ⟨b, hb, hP⟩ m hm
    obtain ⟨returns, rfl⟩ := buildMembers_ok_iff.mp hb
    refine ⟨_, (returns m hm).result_eq, fun p hp => hP p ?_⟩
    exact List.mem_flatMap.mpr ⟨m, hm, hp⟩
  · intro h
    have returns : ∀ m ∈ ms, (entryRun makers document m).Returns := by
      intro m hm
      obtain ⟨b, hb, -⟩ := h m hm
      exact ⟨b, hb⟩
    refine ⟨_, buildMembers_ok_iff.mpr ⟨returns, rfl⟩, fun p hp => ?_⟩
    obtain ⟨m, hm, hp⟩ := List.mem_flatMap.mp hp
    obtain ⟨b, hb, hP⟩ := h m hm
    rw [Run.value_of_ok hb] at hp
    exact hP p hp

theorem Plan.ofRun_returnsOn_iff {field : Scalar} {x : Run Built} {v : Value} :
    (Plan.ofRun field x).ReturnsOn v ↔
      x.Yields fun b => ∀ p ∈ b.rules, (p.2.check (v.member field) false).Returns := by
  unfold Plan.ofRun Run.Yields
  cases x.result with
  | ok b =>
    show (∀ r ∈ b.rules.map (·.2), (r.check (v.member field) false).Returns) ↔ _
    rw [List.forall_mem_map]
    simp
  | error f => simp [Plan.ReturnsOn]

theorem propertyPlans_eq (scope : Option (List (String × Maker))) (members : List (Scalar × Value)) :
    propertyPlans scope members =
      fieldPlans scope ((Ordered.get? (.text "properties") members).getD .null) := by
  induction members with
  | nil => rfl
  | cons m rest ih =>
    rw [propertyPlans, Ordered.get?]
    split
    · rfl
    · exact ih

theorem fieldPlansOf_eq_map (scope : Option (List (String × Maker))) (fields : List (Scalar × Value)) :
    fieldPlansOf scope fields = fields.map fun m => fieldPlan scope m.1 m.2 := by
  induction fields with
  | nil => rfl
  | cons m rest ih => rw [fieldPlansOf, ih, List.map_cons]

theorem demandsOf_eq_map (scope : Option (List (String × Maker))) (spec : List (Scalar × Value)) :
    demandsOf scope spec = spec.map fun m => demandOf scope m.1 m.2 := by
  induction spec with
  | nil => rfl
  | cons m rest ih => rw [demandsOf, ih, List.map_cons]

/-- No field of an entry of demands has requirements that stop. -/
def FieldsReturn (v : Value) (entry : List (Scalar × Value)) : Prop :=
  ∀ fields, Ordered.get? (.text "properties") entry = some (.object fields) →
    ∀ field requirements, (field, .object requirements) ∈ fields →
      (buildMembers builtinMakers requirements requirements).Yields fun b =>
        ∀ p ∈ b.rules, (p.2.check (v.member field) false).Returns

theorem propertyPlans_returnOn_iff {v : Value} {entry : List (Scalar × Value)} :
    (∀ p ∈ propertyPlans (some builtinMakers) entry, p.ReturnsOn v) ↔ FieldsReturn v entry := by
  rw [propertyPlans_eq, FieldsReturn]
  cases hproperties : Ordered.get? (.text "properties") entry with
  | none => simp [fieldPlans]
  | some w =>
    cases w with
    | scalar s => simp [fieldPlans]
    | list items => simp [fieldPlans]
    | object fields =>
      rw [Option.getD_some, fieldPlans, fieldPlansOf_eq_map, List.forall_mem_map]
      constructor
      · rintro h _ ⟨⟩ field requirements hmem
        exact Plan.ofRun_returnsOn_iff.mp (h _ hmem)
      · rintro h ⟨field, requirements⟩ hmem
        cases requirements with
        | object requirements => exact Plan.ofRun_returnsOn_iff.mpr (h fields rfl _ _ hmem)
        | list items => simp [fieldPlan, Plan.ReturnsOn]
        | scalar s => simp [fieldPlan, Plan.ReturnsOn]

theorem demandOf_returnsOn_iff {v : Value} {trigger : Scalar} {entry : Value} :
    (demandOf (some builtinMakers) trigger entry).ReturnsOn v ↔
      ((v.member trigger).isEmpty = false → ¬ Unwalkable (requiredOf entry) ∧
        ∀ members, entry = .object members → FieldsReturn v members) := by
  cases entry with
  | list items => simp [demandOf, Demand.ReturnsOn, requiredOf, unwalkable_list_iff]
  | object members =>
    rw [demandOf, Demand.ReturnsOn, requiredFields_ok_iff, propertyPlans_returnOn_iff]
    simp [requiredOf]
  | scalar s =>
    have hnull : ¬ Unwalkable .null := by rintro ⟨⟩
    simp [demandOf, Demand.ReturnsOn, requiredOf, hnull]

/-! ### Entries and documents -/

/-- An entry with a parameter returns on every JSON value exactly when no keyword of its name stops. -/
def EntryDecided (param : Value) : Prop :=
  ∀ (name : String) (document : List (Scalar × Value)) (v : Value), v.IsJson → ∀ invert : Bool,
    ((entryRun builtinMakers document (.text name, param)).Yields fun b =>
        ∀ p ∈ b.rules, (p.2.check v invert).Returns) ↔
      ∀ k : Keyword, k.name = name → ¬ EntryStops v k param

/-- A document returns when no entry of it stops. -/
theorem buildMembers_returns_iff {document ms : List (Scalar × Value)} (keyed : KeyedByTexts ms)
    (decided : ∀ m ∈ ms, EntryDecided m.2) {v : Value} (hv : v.IsJson) {invert : Bool} :
    ((buildMembers builtinMakers document ms).Yields fun b =>
        ∀ p ∈ b.rules, (p.2.check v invert).Returns) ↔
      ∀ (k : Keyword) (param : Value), (.text k.name, param) ∈ ms → ¬ EntryStops v k param := by
  rw [buildMembers_yields_iff (P := fun r => (r.check v invert).Returns)]
  constructor
  · intro h k param hmem
    exact (decided _ hmem k.name document v hv invert).mp (h _ hmem) k rfl
  · intro h m hm
    obtain ⟨key, param⟩ := m
    obtain ⟨name, hname⟩ := keyed.texts _ hm
    obtain rfl : key = .text name := hname
    refine (decided _ hm name document v hv invert).mpr ?_
    rintro k rfl
    exact h k param hm

/-- The size of a member is below that of the object. -/
theorem sizeOf_lt_of_mem {members : List (Scalar × Value)} {k : Scalar} {v : Value}
    (h : (k, v) ∈ members) : sizeOf v < sizeOf (Value.object members) := by
  have hlt := List.sizeOf_lt_of_mem h
  simp only [Prod.mk.sizeOf_spec, Value.object.sizeOf_spec] at hlt ⊢
  omega

/-- The fields of an entry of demands return when no requirement of theirs stops. -/
theorem fieldsReturn_iff {entry : List (Scalar × Value)} (hentry : (Value.object entry).IsJson)
    (decided : ∀ param : Value, sizeOf param < sizeOf (Value.object entry) → param.IsJson →
      EntryDecided param)
    {v : Value} (hv : v.IsJson) :
    FieldsReturn v entry ↔ ∀ fields, Ordered.get? (.text "properties") entry = some (.object fields) →
      ∀ field requirements, (field, .object requirements) ∈ fields →
        ∀ (k : Keyword) (param : Value), (.text k.name, param) ∈ requirements →
          ¬ EntryStops (v.member field) k param := by
  obtain ⟨keyedEntry, eachEntry⟩ := hentry.of_object
  refine forall₂_congr fun fields hproperties => forall₃_congr fun field requirements hfield => ?_
  -- the requirements are JSON and smaller than the entry, so what they are made of is decided
  have hfields := keyedEntry.get?_eq_some_iff.mp hproperties
  obtain ⟨-, eachField⟩ := (eachEntry _ hfields).of_object
  obtain ⟨keyedRequirements, eachRequirement⟩ := (eachField _ hfield).of_object
  refine buildMembers_returns_iff keyedRequirements (fun m hm => ?_) (hv.member field)
  have hsize : sizeOf m.2 < sizeOf (Value.object entry) :=
    ((sizeOf_lt_of_mem hm).trans (sizeOf_lt_of_mem hfield)).trans (sizeOf_lt_of_mem hfields)
  exact decided m.2 hsize (eachRequirement m hm)

/-- Demands return when each of their entries does. -/
theorem demandsRule_object_returns_iff {spec : List (Scalar × Value)} {v : Value} {invert : Bool} :
    ((demandsRule (some builtinMakers) (.object spec)).check v invert).Returns ↔
      ∀ m ∈ spec, (demandOf (some builtinMakers) m.1 m.2).ReturnsOn v := by
  cases spec with
  | nil => simp [demandsRule, Rule.check]
  | cons m rest =>
    rw [demandsRule, Rule.demands_returns_iff, demandsOf_eq_map, List.forall_mem_map]
    cases v with
    | object members => simp [Value.isObject]
    | _ =>
      refine iff_of_true (by rintro ⟨⟩) fun d _ => ?_
      rw [demandOf_returnsOn_iff]
      rintro ⟨⟩

theorem demandsRule_returns_iff {spec : Value} (hspec : spec.IsJson)
    (decided : ∀ param : Value, sizeOf param < sizeOf spec → param.IsJson → EntryDecided param)
    {v : Value} (hv : v.IsJson) {invert : Bool} :
    ((demandsRule (some builtinMakers) spec).check v invert).Returns ↔
      ¬ EntryStops v .dependencies spec := by
  cases spec with
  | scalar s =>
    refine iff_of_true (Run.returns_ret _) ?_
    rintro ⟨⟩
  | list items =>
    refine iff_of_true (Run.returns_ret _) ?_
    rintro ⟨⟩
  | object spec =>
    obtain ⟨-, each⟩ := hspec.of_object
    have hentry : ∀ trigger entry, (trigger, .object entry) ∈ spec →
        (FieldsReturn v entry ↔ _) := fun trigger entry hmem =>
      fieldsReturn_iff (each _ hmem)
        (fun param hsize => decided param (hsize.trans (sizeOf_lt_of_mem hmem))) hv
    rw [demandsRule_object_returns_iff]
    simp only [demandOf_returnsOn_iff]
    constructor
    · intro h hstops
      cases hstops with
      | required present mem unwalkable => exact (h _ mem present).1 unwalkable
      | field present mem properties memField memRequirement stops =>
        have hfields := (h _ mem present).2 _ rfl
        exact (hentry _ _ mem).mp hfields _ properties _ _ memField _ _ memRequirement stops
    · intro h m hm present
      refine ⟨fun unwalkable => h (.required present hm unwalkable), ?_⟩
      rintro entry heq
      have hmem : (m.1, .object entry) ∈ spec := heq ▸ hm
      refine (hentry _ _ hmem).mpr ?_
      intro fields properties field requirements memField k param memRequirement stops
      exact h (.field present hmem properties memField memRequirement stops)

/-- A keyword other than demands is given a flag or nothing, and a pattern nothing. -/
theorem Keyword.makeWith_secondFor {k : Keyword} (hk : k ≠ .dependencies)
    (document : List (Scalar × Value)) (param : Value) :
    ∃ excluding, k.makeWith (secondFor k.name document) param = k.make excluding param ∧
      (k = .pattern → excluding = false) := by
  refine ⟨match secondFor k.name document with | .flag on => on | _ => false, ?_, ?_⟩
  · cases k with
    | dependencies => exact absurd rfl hk
    | _ => rfl
  · rintro rfl
    rfl

theorem Keyword.makeWith_yields_iff {k : Keyword} (hk : k ≠ .dependencies)
    (document : List (Scalar × Value)) {v param : Value} (hv : v.IsJson) (hp : param.IsJson)
    {invert : Bool} :
    ((k.makeWith (secondFor k.name document) param).Yields fun r => (r.check v invert).Returns) ↔
      ¬ EntryStops v k param := by
  obtain ⟨excluding, hmake, hpattern⟩ := makeWith_secondFor hk document param
  rw [hmake]
  cases htotal : k.isTotal with
  | true =>
    refine iff_of_true (yields_of_total (make_total htotal hp excluding) hv invert) ?_
    intro hstops
    rw [hstops.not_total] at htotal
    cases htotal
  | false =>
    cases k with
    | pattern =>
      rw [hpattern rfl]
      exact pattern_yields_iff hv
    | format => exact format_yields_iff
    | multipleOf => exact divisor_yields_iff hv hp
    | dependencies => exact absurd rfl hk
    | _ => cases htotal

theorem Maker.keyword_yields_iff {k : Keyword} {v param : Value} (hv : v.IsJson) (hp : param.IsJson)
    (decided : ∀ nested : Value, sizeOf nested < sizeOf param → nested.IsJson → EntryDecided nested)
    (document : List (Scalar × Value)) {invert : Bool} :
    (((Maker.keyword k).make builtinMakers (secondFor k.name document) param).Yields fun r =>
      (r.check v invert).Returns) ↔ ¬ EntryStops v k param := by
  by_cases hk : k = .dependencies
  · subst hk
    have hdemands : ((demandsRule (some builtinMakers) param).check v invert).Returns ↔ _ :=
      demandsRule_returns_iff hp decided hv
    rw [← hdemands]
    exact Run.yields_ret_iff
  · rw [Maker.make_keyword hk]
    exact Keyword.makeWith_yields_iff hk document hv hp

theorem entry_yields_iff {k : Keyword} {v param : Value} (hv : v.IsJson) (hp : param.IsJson)
    (decided : ∀ nested : Value, sizeOf nested < sizeOf param → nested.IsJson → EntryDecided nested)
    (document : List (Scalar × Value)) {invert : Bool} :
    ((entryRun builtinMakers document (.text k.name, param)).Yields fun b =>
        ∀ p ∈ b.rules, (p.2.check v invert).Returns) ↔ ¬ EntryStops v k param := by
  cases hflag : isFlag k.name param with
  | true =>
    rw [entryRun_of_flag hflag]
    refine iff_of_true (by simp) ?_
    intro hstops
    cases hstops <;> cases hflag
  | false =>
    have hmake : (((Maker.keyword k).make builtinMakers (secondFor k.name document) param).Yields
        fun r => (r.check v invert).Returns) ↔ _ := Maker.keyword_yields_iff hv hp decided document
    rw [entryRun_of_maker hflag (builtinMakers_get?_name k), Run.yields_bind_iff, ← hmake]
    simp

theorem entryDecided {param : Value} (hp : param.IsJson) : EntryDecided param := by
  -- by induction on the size, since the entries of fields lie deep inside the parameter
  induction hn : sizeOf param using Nat.strong_induction_on generalizing param with
  | _ n ih =>
    have decided : ∀ nested : Value, sizeOf nested < sizeOf param → nested.IsJson →
        EntryDecided nested := fun nested hsize hnested => ih _ (hn ▸ hsize) hnested rfl
    intro name document v hv invert
    by_cases hname : ∃ k : Keyword, k.name = name
    · obtain ⟨k, rfl⟩ := hname
      rw [entry_yields_iff hv hp decided document]
      constructor
      · intro h k' hk'
        exact Keyword.name_injective hk' ▸ h
      · intro h
        exact h k rfl
    · refine iff_of_true ?_ fun k hk => absurd ⟨k, hk⟩ hname
      have hnone : Ordered.get? name builtinMakers = none := by
        cases hget : Ordered.get? name builtinMakers with
        | none => rfl
        | some maker =>
          obtain ⟨k, -, hk⟩ := builtinMakers_get? hget
          exact absurd ⟨k, hk⟩ hname
      cases hflag : isFlag name param with
      | true =>
        rw [entryRun_of_flag hflag]
        simp
      | false =>
        rw [entryRun_of_none hflag hnone]
        simp

end Rulebook
