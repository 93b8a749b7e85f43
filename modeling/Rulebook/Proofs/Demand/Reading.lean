import Rulebook.Proofs.Registry.Stopping
import Rulebook.Proofs.Rule.Spelling

/-!
What demands read. An entry of demands names fields: its trigger, the fields that it requires and those
under `properties`. However the entries are written, the evaluation looks at no other member of the
object: objects with the same members under these names have the same outcome, or stop with the same
fault.
-/

namespace Rulebook

/-! ### Entries -/

/-- The fields with requirements of an entry of demands. -/
def propertiesOf : Value → List (Scalar × Value)
  | .object members =>
    match Ordered.get? (.text "properties") members with
    | some (.object fields) => fields
    | _ => []
  | _ => []

@[simp] theorem requiredFields_list (items : List Value) : requiredFields (.list items) = .ok items := by
  cases items <;> rfl

/-- An entry is read in two parts: the required fields, and a plan for each field with requirements. -/
theorem demandOf_eq (scope : Option (List (String × Maker))) (trigger : Scalar) (entry : Value) :
    demandOf scope trigger entry = .mk trigger (requiredFields (requiredOf entry))
      ((propertiesOf entry).map fun m => fieldPlan scope m.1 m.2) := by
  cases entry with
  | scalar s => rfl
  | list items => simp [demandOf, requiredOf, propertiesOf]
  | object members =>
    have hplans : propertyPlans scope members =
        (propertiesOf (.object members)).map fun m => fieldPlan scope m.1 m.2 := by
      rw [propertyPlans_eq, propertiesOf]
      cases hproperties : Ordered.get? (Scalar.text "properties") members with
      | none => simp [fieldPlans]
      | some w => cases w <;> simp [fieldPlans, fieldPlansOf_eq_map]
    simp [demandOf, requiredOf, hplans]

/-- A field that demands name: a trigger, a required field that is a key, or a field with requirements. -/
inductive NamesField : Value → Scalar → Prop
  | trigger {spec : List (Scalar × Value)} {trigger : Scalar} {entry : Value}
      (mem : (trigger, entry) ∈ spec) : NamesField (.object spec) trigger
  | required {spec : List (Scalar × Value)} {trigger field : Scalar} {entry : Value}
      {fields : List Value} (mem : (trigger, entry) ∈ spec)
      (read : requiredFields (requiredOf entry) = .ok fields) (memField : .scalar field ∈ fields) :
      NamesField (.object spec) field
  | property {spec : List (Scalar × Value)} {trigger field : Scalar} {entry requirements : Value}
      (mem : (trigger, entry) ∈ spec) (memField : (field, requirements) ∈ propertiesOf entry) :
      NamesField (.object spec) field

/-! ### Evaluations -/

@[simp] theorem Run.lift_ok_bind {α β : Type} (a : α) (f : α → Run β) :
    ((liftM (Except.ok a : Except Fault α) : Run α) >>= f) = f a := rfl

/-- The field that a plan is for. -/
def Plan.field : Plan → Scalar
  | .rules field _ _ => field
  | .broken field _ _ => field

@[simp] theorem Plan.field_fieldPlan (scope : Option (List (String × Maker))) (field : Scalar)
    (requirements : Value) : (fieldPlan scope field requirements).field = field := by
  rcases requirements with s | items | members
  · rfl
  · rfl
  · rcases scope with _ | makers
    · rfl
    · simp only [fieldPlan, Plan.ofRun]
      split <;> rfl

section

variable {v w : Value}

/-- A plan looks at its field only. -/
theorem Plan.add_congr {p : Plan} (h : v.member p.field = w.member p.field) (acc : FieldFailures) :
    Plan.add p v acc = Plan.add p w acc := by
  cases p with
  | rules field notices rules =>
    have hfield : v.member field = w.member field := h
    simp [Plan.add, hfield]
  | broken field notices fault => simp [Plan.add]

theorem Plan.addAll_congr {plans : List Plan} (h : ∀ p ∈ plans, v.member p.field = w.member p.field)
    (acc : FieldFailures) : Plan.addAll plans v acc = Plan.addAll plans w acc := by
  induction plans generalizing acc with
  | nil => rfl
  | cons p rest ih =>
    rcases List.forall_mem_cons.mp h with ⟨hp, hrest⟩
    simp [Plan.addAll, Plan.add_congr hp, ih hrest]

/-- The members of two objects that an entry of demands looks at are the same. -/
structure SameFor (v w : Value) (trigger : Scalar) (entry : Value) : Prop where
  trigger : v.member trigger = w.member trigger
  required : ∀ fields, requiredFields (requiredOf entry) = .ok fields →
    ∀ field, .scalar field ∈ fields → v.member field = w.member field
  properties : ∀ m ∈ propertiesOf entry, v.member m.1 = w.member m.1

theorem SameFor.check_eq {scope : Option (List (String × Maker))} {trigger : Scalar} {entry : Value}
    (h : SameFor v w trigger entry) (invert : Bool) :
    Demand.check (demandOf scope trigger entry) v invert =
      Demand.check (demandOf scope trigger entry) w invert := by
  have hplans : ∀ p ∈ (propertiesOf entry).map fun m => fieldPlan scope m.1 m.2,
      v.member p.field = w.member p.field := by
    intro p hp
    rcases List.mem_map.mp hp with ⟨m, hm, rfl⟩
    simpa using h.properties m hm
  rw [demandOf_eq, Demand.check, Demand.check, h.trigger]
  cases hread : requiredFields (requiredOf entry) with
  | error f => rfl
  | ok fields =>
    have hrequired : ∀ acc, requiredFailures v invert fields acc = requiredFailures w invert fields acc :=
      requiredFailures_congr (fun s hs => congrArg _ (h.required fields hread s hs)) invert
    simp only [Run.lift_ok_bind, hrequired, Plan.addAll_congr hplans]

theorem Demand.checks_congr {ds : List Demand} {invert : Bool}
    (h : ∀ d ∈ ds, Demand.check d v invert = Demand.check d w invert) :
    Demand.checks ds v invert = Demand.checks ds w invert := by
  induction ds with
  | nil => rfl
  | cons d rest ih =>
    rcases List.forall_mem_cons.mp h with ⟨hd, hrest⟩
    simp [Demand.checks, hd, ih hrest]

end

namespace Registry

/-- The rule of demands evaluates what its entries demand, one after another. -/
theorem check_demands (r : Registry Maker) (spec : List (Scalar × Value)) {v : Value}
    (hv : v.isObject = true) (invert : Bool) : (r.demands (.object spec)).check v invert = (do
      return demandsOutcome (← Demand.checks
        (spec.map fun m => demandOf (some r.entries) m.1 m.2) v invert)) := by
  cases spec with
  | nil =>
    simp only [demands, demandsRule, Rule.check, List.map_nil, Demand.checks]
    rfl
  | cons m rest => simp [demands, demandsRule, Rule.check, hv, demandsOf_eq_map]

/-- Demands are judged alike on objects with the same members under the names of their fields: the
evaluation sends the same notices, and it has the same outcome or stops with the same fault. -/
theorem check_demands_of_same_fields (r : Registry Maker) {spec v w : Value}
    (hv : v.isObject = true) (hw : w.isObject = true)
    (same : ∀ field, NamesField spec field → v.member field = w.member field) (invert : Bool) :
    (r.demands spec).check v invert = (r.demands spec).check w invert := by
  cases spec with
  | scalar s => rfl
  | list items => rfl
  | object spec =>
    have hentry : ∀ m ∈ spec, SameFor v w m.1 m.2 := by
      rintro ⟨trigger, entry⟩ hm
      refine ⟨same _ (.trigger hm), fun fields hread field hfield => ?_, fun p hp => ?_⟩
      · exact same _ (.required hm hread hfield)
      · exact same _ (.property hm hp)
    have hdemands : ∀ d ∈ spec.map fun m => demandOf (some r.entries) m.1 m.2,
        Demand.check d v invert = Demand.check d w invert := by
      intro d hd
      rcases List.mem_map.mp hd with ⟨m, hm, rfl⟩
      exact (hentry m hm).check_eq invert
    rw [check_demands r spec hv, check_demands r spec hw, Demand.checks_congr hdemands]

/-- Demands for an address, which is too short, are not looked at beside a note or without one. -/
theorem check_demands_of_same_address :
    let spec : Value := .record [("card", .record [("required", .texts ["address"]),
      ("properties", .record [("address", .record [("minLength", .int 3)])])])]
    let v : Value := .record [("card", .int 1), ("address", .text "x"), ("note", .int 1)]
    let w : Value := .record [("address", .text "x"), ("card", .int 1)]
    (∀ field, NamesField spec field → v.member field = w.member field) ∧
      v.member (.text "note") ≠ w.member (.text "note") ∧
      (builtin.demands spec).check v false = (builtin.demands spec).check w false ∧
      ∃ o, ((builtin.demands spec).check w false).result = .ok o ∧ o.valid = false := by
  intro spec v w
  have same : ∀ field, NamesField spec field → v.member field = w.member field := by
    intro field h
    change NamesField (.object _) field at h
    cases h with
    | trigger mem =>
      cases List.mem_singleton.mp mem
      rfl
    | required mem read memField =>
      cases List.mem_singleton.mp mem
      cases read
      cases List.mem_singleton.mp memField
      rfl
    | property mem memField =>
      cases List.mem_singleton.mp mem
      cases List.mem_singleton.mp memField
      rfl
  refine ⟨same, fun hnote => ?_, ?_, _, rfl, rfl⟩
  · change Value.int 1 = Value.null at hnote
    cases hnote
  · exact check_demands_of_same_fields builtin rfl rfl same false

end Registry

end Rulebook
