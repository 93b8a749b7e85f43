import Rulebook.Report.Check
import Rulebook.Proofs.Registry.Registration
import Rulebook.Proofs.Registry.Stopping

/-!
Extension is conservative. An extended registry finds under every other name what it found before, so
a document that mentions none of the new names is built as before. Demands are built in the registry
in which they stand, at any depth, and the documents for their fields count as mentioned in.
-/

namespace Rulebook

/-! ### Documents in a document -/

/-- A requirement document for a field in the demands of a document. -/
inductive FieldDocument (document requirements : List (Scalar × Value)) : Prop
  | mk {key trigger field : Scalar} {spec entry fields : List (Scalar × Value)}
      (named : key.plainText = "dependencies") (mem : (key, .object spec) ∈ document)
      (memSpec : (trigger, .object entry) ∈ spec)
      (properties : Ordered.get? (.text "properties") entry = some (.object fields))
      (memField : (field, .object requirements) ∈ fields)

/-- A document names a rule, itself or in a document for a field at any depth. -/
def Mentions (document : List (Scalar × Value)) (name : String) : Prop :=
  ∃ reached, Relation.ReflTransGen FieldDocument document reached ∧
    ∃ m ∈ reached, m.1.plainText = name

theorem Mentions.here {document : List (Scalar × Value)} {m : Scalar × Value} (h : m ∈ document) :
    Mentions document m.1.plainText := ⟨document, .refl, m, h, rfl⟩

theorem Mentions.of_field {document requirements : List (Scalar × Value)} {name : String}
    (h : Mentions requirements name) (field : FieldDocument document requirements) :
    Mentions document name := by
  obtain ⟨reached, reaches, hname⟩ := h
  exact ⟨reached, .head field reaches, hname⟩

theorem mentions_iff {document : List (Scalar × Value)} {name : String} : Mentions document name ↔
    (∃ m ∈ document, m.1.plainText = name) ∨
      ∃ requirements, FieldDocument document requirements ∧ Mentions requirements name := by
  constructor
  · rintro ⟨reached, reaches, hname⟩
    obtain rfl | ⟨requirements, field, reaches⟩ := reaches.cases_head
    · exact .inl hname
    · exact .inr ⟨requirements, field, reached, reaches, hname⟩
  · rintro (⟨m, hm, rfl⟩ | ⟨requirements, field, h⟩)
    · exact .here hm
    · exact h.of_field field

theorem FieldDocument.sizeOf_lt {document requirements : List (Scalar × Value)}
    (h : FieldDocument document requirements) :
    sizeOf (Value.object requirements) < sizeOf (Value.object document) := by
  cases h with
  | mk _ mem memSpec properties memField =>
    obtain ⟨_, memProperties, -⟩ := Ordered.mem_of_get? properties
    exact (((sizeOf_lt_of_mem memField).trans (sizeOf_lt_of_mem memProperties)).trans
      (sizeOf_lt_of_mem memSpec)).trans (sizeOf_lt_of_mem mem)

/-! ### Makers that agree -/

section

variable {makers makers' : List (String × Maker)}

/-- Demands are the same when the documents for their fields are built the same. -/
theorem demandsRule_congr {spec : List (Scalar × Value)}
    (h : ∀ trigger entry fields field requirements, (trigger, .object entry) ∈ spec →
      Ordered.get? (.text "properties") entry = some (.object fields) →
      (field, .object requirements) ∈ fields →
      buildMembers makers' requirements requirements = buildMembers makers requirements requirements) :
    demandsRule (some makers') (.object spec) = demandsRule (some makers) (.object spec) := by
  have hplans : ∀ trigger entry, (trigger, .object entry) ∈ spec →
      propertyPlans (some makers') entry = propertyPlans (some makers) entry := by
    intro trigger entry hentry
    rw [propertyPlans_eq, propertyPlans_eq]
    cases hproperties : Ordered.get? (.text "properties") entry with
    | none => rfl
    | some w =>
      cases w with
      | scalar s => rfl
      | list items => rfl
      | object fields =>
        rw [Option.getD_some, fieldPlans, fieldPlans, fieldPlansOf_eq_map, fieldPlansOf_eq_map]
        refine List.map_congr_left fun m hm => ?_
        obtain ⟨field, requirements⟩ := m
        cases requirements with
        | scalar s => rfl
        | list items => rfl
        | object requirements =>
          have hbuild := h trigger entry fields field requirements hentry hproperties hm
          rw [fieldPlan, fieldPlan]
          exact congrArg (Plan.ofRun field) hbuild
  have hdemands : demandsOf (some makers') spec = demandsOf (some makers) spec := by
    rw [demandsOf_eq_map, demandsOf_eq_map]
    refine List.map_congr_left fun m hm => ?_
    obtain ⟨trigger, entry⟩ := m
    cases entry with
    | scalar s => rfl
    | list items => rfl
    | object entry => rw [demandOf, demandOf, hplans trigger entry hm]
  cases spec with
  | nil => rfl
  | cons m rest => rw [demandsRule, demandsRule, hdemands]

/-- Only an entry named for demands is made in the registry in which it stands. -/
theorem secondFor_eq_registry {name : String} {document : List (Scalar × Value)}
    (h : secondFor name document = .registry) : name = "dependencies" := by
  unfold secondFor at h
  split at h
  · cases h
  · split at h
    · next hname => exact beq_iff_eq.mp hname
    · cases h

/-- An entry is made the same by makers that agree on its name and, if it is one of demands, make the
same demands. -/
theorem entryRun_congr {document : List (Scalar × Value)} {m : Scalar × Value}
    (hget : Ordered.get? m.1.plainText makers' = Ordered.get? m.1.plainText makers)
    (hdemands : m.1.plainText = "dependencies" →
      demandsRule (some makers') m.2 = demandsRule (some makers) m.2) :
    entryRun makers' document m = entryRun makers document m := by
  have hscope : demandsRule (scopeFor makers' (secondFor m.1.plainText document)) m.2 =
      demandsRule (scopeFor makers (secondFor m.1.plainText document)) m.2 := by
    cases hsecond : secondFor m.1.plainText document with
    | nothing => rfl
    | flag on => rfl
    | registry => exact hdemands (secondFor_eq_registry hsecond)
  unfold entryRun buildEntry
  simp only [hget, hscope]

theorem buildMembers_congr {document ms : List (Scalar × Value)}
    (h : ∀ m ∈ ms, entryRun makers' document m = entryRun makers document m) :
    buildMembers makers' document ms = buildMembers makers document ms := by
  induction ms with
  | nil => rfl
  | cons m rest ih =>
    have hm : entryRun makers' document m = entryRun makers document m := h m (List.mem_cons_self ..)
    rw [buildMembers, buildMembers, ih fun m' hm' => h m' (List.mem_cons_of_mem _ hm')]
    unfold entryRun at hm
    rw [hm]

/-- A document is built the same by makers that agree on every name that it mentions. -/
theorem buildMembers_of_agree (document : List (Scalar × Value))
    (agree : ∀ name, Mentions document name →
      Ordered.get? name makers' = Ordered.get? name makers) :
    buildMembers makers' document document = buildMembers makers document document := by
  -- by induction on the size, since the documents for fields lie deep inside the parameters
  induction hn : sizeOf (Value.object document) using Nat.strong_induction_on generalizing document with
  | _ n ih =>
    subst hn
    have hfield : ∀ requirements, FieldDocument document requirements →
        buildMembers makers' requirements requirements = buildMembers makers requirements requirements :=
      fun requirements field =>
        ih _ field.sizeOf_lt requirements (fun name h => agree name (h.of_field field)) rfl
    refine buildMembers_congr fun m hm => entryRun_congr (agree _ (.here hm)) fun named => ?_
    obtain ⟨key, param⟩ := m
    cases param with
    | scalar s => rfl
    | list items => rfl
    | object spec =>
      refine demandsRule_congr ?_
      intro trigger entry fields field requirements memSpec properties memField
      exact hfield requirements (.mk named hm memSpec properties memField)

end

/-! ### Extended registries -/

namespace Registry

/-- The registries made from the registry of keywords by extensions. -/
inductive Extended : Registry Maker → Prop
  | builtin : Extended builtin
  | extend {r r' : Registry Maker} {extra : List (String × Offer Maker)} (base : Extended r)
      (returns : r.extend extra = .ok r') : Extended r'

theorem wellFormed_builtin : builtin.WellFormed := by
  refine ⟨?_, ?_, ?_⟩
  · decide +kernel
  · decide +kernel
  · decide +kernel

theorem Extended.wellFormed {r : Registry Maker} (h : Extended r) : r.WellFormed := by
  induction h with
  | builtin => exact wellFormed_builtin
  | extend _ returns ih => exact ih.extend returns

/-- An extension finds under every other name what was found before. -/
theorem WellFormed.get?_of_extend {r r' : Registry Maker} (h : r.WellFormed)
    {extra : List (String × Offer Maker)} (returns : r.extend extra = .ok r') {name : String}
    (other : ∀ p ∈ extra, bareName p.1 ≠ name) :
    Ordered.get? name r'.entries = Ordered.get? name r.entries := by
  obtain ⟨entries, rfl, accepts, rfl⟩ := h.extend_ok_iff.mp returns
  refine Ordered.get?_append_of_not_mem ?_
  rintro hname
  obtain ⟨p, hp, rfl⟩ := List.mem_map.mp hname
  obtain ⟨q, hq, rfl⟩ := List.mem_map.mp hp
  exact other (q.1, .callable q.2) (List.mem_map_of_mem hq) rfl

/-- A check against a document that mentions no new name is not changed by an extension: it sends the
same notices and gives the same report or stops with the same fault. -/
theorem check_of_unmentioned {r r' : Registry Maker} (hr : r.Extended)
    {extra : List (String × Offer Maker)} (returns : r.extend extra = .ok r')
    {document : List (Scalar × Value)}
    (unmentioned : ∀ p ∈ extra, ¬ Mentions document (bareName p.1))
    (v : Value) (invert strict : Bool) :
    r'.check v document invert strict = r.check v document invert strict := by
  have agree : ∀ name, Mentions document name →
      Ordered.get? name r'.entries = Ordered.get? name r.entries := by
    intro name hname
    refine hr.wellFormed.get?_of_extend returns fun p hp hbare => unmentioned p hp ?_
    rwa [hbare]
  have hbuild : r'.build document = r.build document := buildMembers_of_agree document agree
  unfold check
  rw [hbuild]

/-- Demands that ask for a length are not changed by a new name for another bound of it. -/
theorem check_of_unmentioned_short :
    let extra : List (String × Offer Maker) := [(" short ", .callable (.keyword .maxLength))]
    let document : List (Scalar × Value) := [(.text "dependencies", .record [("a", .record
      [("properties", .record [("b", .record [("minLength", .int 3)])])])])]
    let v : Value := .record [("a", .int 1), ("b", .text "xy")]
    ∃ r', builtin.extend extra = .ok r' ∧ r'.contains "short" = true ∧
      r'.check v document false false = builtin.check v document false false := by
  intro extra document v
  have unmentioned : ∀ p ∈ extra, ¬ Mentions document (bareName p.1) := by
    intro p hp
    obtain rfl := List.mem_singleton.mp hp
    rw [mentions_iff]
    rintro (⟨m, hm, hname⟩ | ⟨requirements, field, h⟩)
    · obtain rfl := List.mem_singleton.mp hm
      exact absurd hname (by decide)
    · -- the one document for a field asks for a length and has no demands
      obtain ⟨-, mem, memSpec, properties, memField⟩ := field
      cases List.mem_singleton.mp mem
      cases List.mem_singleton.mp memSpec
      cases properties
      cases List.mem_singleton.mp memField
      obtain ⟨m, hm, hname⟩ | ⟨requirements, field, -⟩ := mentions_iff.mp h
      · obtain rfl := List.mem_singleton.mp hm
        exact absurd hname (by decide)
      · obtain ⟨named, mem, -, -, -⟩ := field
        cases List.mem_singleton.mp mem
  refine ⟨_, rfl, rfl, ?_⟩
  exact check_of_unmentioned .builtin rfl unmentioned v false false

end Registry

end Rulebook
