import Rulebook.Proofs.Rule.Merging

/-!
What a failure reports. A connective that fails reports what its failing parts report, what its passing
parts report inverted, or both, and its marker; a negation reports what its part does and its marker.
No name is lost in the merge and none is added, and since the marker is merged last it has its own
detail, even when a part reports under the same name.
-/

namespace Rulebook

/-- An evaluation fails a value, plain or inverted, and reports under a name. -/
def Check.Blames (t : Check) (v : Value) (invert : Bool) (name : String) : Prop :=
  (t v invert).Yields fun o => o.valid = false ∧ name ∈ o.errors.map (·.1)

namespace Connective

variable {c : Connective} {checks : List Check} {v : Value} {invert : Bool} {name : String}

/-- The names that failing parts report count under `oneOf`, and otherwise if not inverted. -/
theorem mem_names_complaint (returns : ∀ t ∈ checks, (t v false).Returns) :
    (∃ m ∈ c.complaint invert (checks.map fun t => (t v false).value), name ∈ m.map (·.1)) ↔
      (c = oneOf ∨ invert = false) ∧ ∃ t ∈ checks, t.Blames v false name := by
  have hcounts : (c = oneOf ∨ (!invert) = true) ↔ (c = oneOf ∨ invert = false) := by simp
  unfold complaint
  by_cases counts : c = oneOf ∨ invert = false
  · rw [if_pos (hcounts.mpr counts)]
    simp only [counts, true_and]
    constructor
    · rintro ⟨m, hm, hname⟩
      obtain ⟨o, ho, rfl⟩ := List.mem_map.mp hm
      obtain ⟨ho, hfailed⟩ := List.mem_filter.mp ho
      obtain ⟨t, ht, rfl⟩ := List.mem_map.mp ho
      exact ⟨t, ht, (returns t ht).yields_iff.mpr ⟨by simpa using hfailed, hname⟩⟩
    · rintro ⟨t, ht, hblames⟩
      obtain ⟨hfailed, hname⟩ := (returns t ht).yields_iff.mp hblames
      have ho : (t v false).value ∈
          (checks.map fun t => (t v false).value).filter (!·.valid) :=
        List.mem_filter.mpr ⟨List.mem_map_of_mem ht, by simpa using hfailed⟩
      exact ⟨_, List.mem_map_of_mem ho, hname⟩
  · rw [if_neg (mt hcounts.mp counts)]
    simp [counts]

/-- The names that passing ones of some evaluations report when they are inverted. -/
theorem mem_names_explain {parts : List (Check × Outcome)} {passing : List Failures}
    (h : (explain v parts).result = .ok passing) :
    (∃ m ∈ passing, name ∈ m.map (·.1)) ↔
      ∃ p ∈ parts, p.2.valid = true ∧ p.1.Blames v true name := by
  induction parts generalizing passing with
  | nil =>
    cases h
    simp
  | cons p rest ih =>
    rw [List.exists_mem_cons_iff]
    cases hvalid : p.2.valid with
    | false =>
      rw [explain, if_neg (by simp [hvalid])] at h
      rw [ih h]
      simp
    | true =>
      rw [explain, if_pos hvalid] at h
      obtain ⟨o, ho, h⟩ := Run.bind_ok_iff.mp h
      obtain ⟨more, hmore, h⟩ := Run.bind_ok_iff.mp h
      cases h
      have hblames : p.1.Blames v true name ↔ o.valid = false ∧ name ∈ o.errors.map (·.1) := by
        rw [Check.Blames, Run.Yields, ho]
        simp
      rw [← ih hmore, hblames]
      cases o.valid with
      | false =>
        rw [if_neg Bool.false_ne_true, List.exists_mem_cons_iff]
        simp
      | true => simp

/-- The names that passing parts report inverted count under `oneOf`, and otherwise if inverted. -/
theorem mem_names_explanation {passing : List Failures}
    (returns : ∀ t ∈ checks, (t v false).Returns)
    (h : (c.explanation v invert (checks.map fun t => (t, (t v false).value))).result = .ok passing) :
    (∃ m ∈ passing, name ∈ m.map (·.1)) ↔
      (c = oneOf ∨ invert = true) ∧
        ∃ t ∈ checks, (t v false).Yields (·.valid = true) ∧ t.Blames v true name := by
  unfold explanation at h
  by_cases counts : c = oneOf ∨ invert = true
  · rw [if_pos counts] at h
    rw [mem_names_explain h]
    constructor
    · rintro ⟨p, hp, hpasses, hblames⟩
      obtain ⟨t, ht, rfl⟩ := List.mem_map.mp hp
      exact ⟨counts, t, ht, (returns t ht).yields_iff.mpr hpasses, hblames⟩
    · rintro ⟨-, t, ht, hpasses, hblames⟩
      have hp := List.mem_map_of_mem (f := fun t : Check => (t, (t v false).value)) ht
      exact ⟨_, hp, (returns t ht).yields_iff.mp hpasses, hblames⟩
  · rw [if_neg counts] at h
    cases h
    simp [counts]

/-- The name of the marker is all that the marker adds. -/
theorem mem_names_mark (invert : Bool) :
    (∃ m ∈ c.mark invert, name ∈ m.map (·.1)) ↔ c.marker? = some name := by
  unfold mark
  cases c.marker? <;> simp [eq_comm]

/-- A connective that fails merges its complaint, its explanation and its marker, in this order. -/
theorem check_failed {o : Outcome} (h : (c.check checks v invert).result = .ok o)
    (failed : o.valid = false) : (∀ t ∈ checks, (t v false).Returns) ∧ ∃ passing,
      (c.explanation v invert (checks.map fun t => (t, (t v false).value))).result = .ok passing ∧
      o.errors = Failures.merge (c.complaint invert (checks.map fun t => (t v false).value) ++
        passing ++ c.mark invert) := by
  obtain ⟨returns, h⟩ := check_ok_iff.mp h
  split at h
  · subst h
    cases failed
  · obtain ⟨passing, hpassing, rfl⟩ := h
    exact ⟨returns, passing, hpassing, rfl⟩

/-- The names under which a connective that fails reports. -/
theorem mem_names_failed {o : Outcome} (h : (c.check checks v invert).result = .ok o)
    (failed : o.valid = false) : name ∈ o.errors.map (·.1) ↔
      ((c = oneOf ∨ invert = false) ∧ ∃ t ∈ checks, t.Blames v false name) ∨
      ((c = oneOf ∨ invert = true) ∧
        ∃ t ∈ checks, (t v false).Yields (·.valid = true) ∧ t.Blames v true name) ∨
      c.marker? = some name := by
  obtain ⟨returns, passing, hpassing, herrors⟩ := check_failed h failed
  rw [herrors, Failures.mem_names_merge, ← mem_names_complaint returns,
    ← mem_names_explanation returns hpassing, ← mem_names_mark invert]
  simp only [List.mem_append, or_and_right, exists_or, or_assoc]

/-- The marker is merged last, so that it has its own detail. -/
theorem get?_marker_failed {o : Outcome} (h : (c.check checks v invert).result = .ok o)
    (failed : o.valid = false) (hmarker : c.marker? = some name) :
    Ordered.get? name o.errors = some (.bool !invert) := by
  obtain ⟨-, passing, -, herrors⟩ := check_failed h failed
  have hmark : c.mark invert = [[(name, .bool !invert)]] := by rw [mark, hmarker]
  rw [herrors, hmark]
  exact Failures.get?_merge_concat _ name _

end Connective

namespace Check

/-- A negation that fails adds its marker to what its part reports. -/
theorem negate_failed {inner : Check} {v : Value} {invert : Bool} {o : Outcome}
    (h : (negate inner v invert).result = .ok o) (failed : o.valid = false) :
    ∃ p, (inner v !invert).result = .ok p ∧ p.valid = false ∧
      o.errors = Failures.merge [p.errors, [("not", .bool !invert)]] := by
  cases hv : v.isEmpty with
  | true =>
    rw [negate_of_empty hv] at h
    cases h
    cases failed
  | false =>
    obtain ⟨p, hp, rfl⟩ := (negate_ok_iff hv).mp h
    cases hvalid : p.valid with
    | true =>
      rw [if_pos hvalid] at failed
      cases failed
    | false => exact ⟨p, hp, hvalid, rfl⟩

/-- A combination or negation that fails reports under the names under which its parts do, as far as
these count, and under its marker, with whether it is inverted as the detail of the marker. -/
theorem failing_reports (v : Value) (invert : Bool) (o : Outcome) (failed : o.valid = false) :
    (∀ (c : Connective) (parts : List (Option Check)),
      (combine c parts v invert).result = .ok o →
        (∀ name, name ∈ o.errors.map (·.1) ↔
          ((c = .oneOf ∨ invert = false) ∧ ∃ t, some t ∈ parts ∧ t.Blames v false name) ∨
          ((c = .oneOf ∨ invert = true) ∧ ∃ t, some t ∈ parts ∧
            (t v false).Yields (·.valid = true) ∧ t.Blames v true name) ∨
          c.marker? = some name) ∧
        ∀ marker, c.marker? = some marker → Ordered.get? marker o.errors = some (.bool !invert)) ∧
    ∀ inner : Check, (negate inner v invert).result = .ok o →
      (∃ p, (inner v !invert).result = .ok p ∧ p.valid = false ∧
        ∀ name, name ∈ o.errors.map (·.1) ↔ name ∈ p.errors.map (·.1) ∨ name = "not") ∧
      Ordered.get? "not" o.errors = some (.bool !invert) := by
  constructor
  · intro c parts h
    have hsome : present parts ≠ [] := by
      intro hnone
      rw [combine_of_none hnone] at h
      cases h
      cases failed
    rw [combine_of_some hsome] at h
    refine ⟨fun name => ?_, fun marker => Connective.get?_marker_failed h failed⟩
    simpa only [mem_present_iff] using Connective.mem_names_failed h failed
  · intro inner h
    obtain ⟨p, hp, hpfailed, herrors⟩ := negate_failed h failed
    refine ⟨⟨p, hp, hpfailed, fun name => ?_⟩, ?_⟩
    · rw [herrors, Failures.mem_names_merge]
      simp
    · rw [herrors]
      exact Failures.get?_merge_concat [p.errors] "not" _

/-- A choice between two choices that both pass, and a negation of a negation, report in their own
markers what they are, not what their parts are. -/
theorem failing_reports_nested :
    let r := Rule.leaf (.size .least .length (.int 3))
    let inner := combine .oneOf [some r.check]
    (inner (.text "abcd") true).Yields
      (fun o => Ordered.get? "oneOf" o.errors = some (.bool false)) ∧
    (∃ o, (combine .oneOf [none, some inner, some inner] (.text "abcd") false).result = .ok o ∧
      o.valid = false ∧ "minLength" ∈ o.errors.map (·.1) ∧
      Ordered.get? "oneOf" o.errors = some (.bool true)) ∧
    (negate inner (.text "abcd") false).Yields
      (fun o => Ordered.get? "not" o.errors = some (.bool true)) ∧
    ∃ o, (negate (negate inner) (.text "abcd") true).result = .ok o ∧ o.valid = false ∧
      Ordered.get? "not" o.errors = some (.bool false) := by
  intro r inner
  refine ⟨⟨_, rfl, rfl⟩, ⟨_, rfl, rfl, ?_, ?_⟩, ⟨_, rfl, rfl⟩, ⟨_, rfl, rfl, ?_⟩⟩
  · have hinner : inner.Blames (.text "abcd") true "minLength" := by
      refine ⟨_, rfl, ?_⟩
      decide
    have hpasses : (inner (.text "abcd") false).Yields (·.valid = true) := ⟨_, rfl, rfl⟩
    have hreport := (failing_reports (.text "abcd") false _ rfl).1 .oneOf
      [none, some inner, some inner] rfl
    exact (hreport.1 "minLength").mpr (.inr (.inl ⟨.inl rfl, inner, by simp, hpasses, hinner⟩))
  · exact ((failing_reports (.text "abcd") false _ rfl).1 .oneOf
      [none, some inner, some inner] rfl).2 "oneOf" rfl
  · exact ((failing_reports (.text "abcd") true _ rfl).2 (negate inner) rfl).2

end Check

end Rulebook
