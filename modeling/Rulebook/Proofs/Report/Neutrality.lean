import Rulebook.Proofs.Report.Explaining
import Rulebook.Proofs.Report.Returning
import Rulebook.Proofs.Report.Strictness
import Rulebook.Proofs.Rule.Duality

/-!
Rules that are switched off. An entry whose parameter switches its rule off makes a rule that is always met.
In a composition such a rule changes nothing as long as others stand beside it: it returns, it passes, and it
is never what fails. Alone it is still a rule, and an inverted check of it fails, while one of no rules does
not.
-/

namespace Rulebook

/-! ### Compositions -/

/-- A composition of parts returns when they do and, if all pass and it is inverted, do so inverted too. -/
theorem Connective.compose_returns_iff {checks : List Check} {v : Value} {invert : Bool} :
    (compose.check checks v invert).Returns ↔ (∀ t ∈ checks, (t v false).Returns) ∧
      (invert = true → (∀ t ∈ checks, t.passes v = true) → ∀ t ∈ checks, (t v true).Returns) := by
  rw [check_returns_iff, compose_accepted]
  refine and_congr_right fun _ => ?_
  cases invert with
  | false => exact iff_of_true (fun _ => Run.returns_ret []) (by simp)
  | true =>
    rw [differ_true, Bool.not_eq_false', List.all_eq_true]
    have hexplained : (compose.explanation v true
        (checks.map fun t => (t, (t v false).value))).Returns ↔
          ∀ t ∈ checks, t.passes v = true → (t v true).Returns := by
      show (explain v _).Returns ↔ _
      rw [explain_returns_iff, List.forall_mem_map]
      rfl
    rw [hexplained]
    exact ⟨fun h _ hall t ht => h hall t ht (hall t ht), fun h hall t ht _ => h rfl hall t ht⟩

namespace Rule

variable {rules : List (String × Rule)} {v : Value} {invert : Bool}

theorem composition_check (h : rules ≠ []) :
    (composition rules).check = Connective.compose.check (rules.map fun p => p.2.check) := by
  rw [composition_of_ne_nil h]
  funext v invert
  show Connective.compose.check (Rule.checks (rules.map (·.2))) v invert = _
  rw [checks_eq_map, List.map_map]
  rfl

theorem composition_returns : ((composition rules).check v invert).Returns ↔
    (∀ p ∈ rules, (p.2.check v false).Returns) ∧ (invert = true →
      (∀ p ∈ rules, Check.passes v p.2.check = true) → ∀ p ∈ rules, (p.2.check v true).Returns) := by
  cases rules with
  | nil => exact iff_of_true (Run.returns_ret _) (by simp)
  | cons p rest =>
    rw [composition_check (List.cons_ne_nil p rest), Connective.compose_returns_iff]
    simp only [List.forall_mem_map]

/-- A composition of some rules passes when all of them pass, or, inverted, when not all do. -/
theorem composition_valid {o : Outcome} (h : ((composition rules).check v invert).result = .ok o) :
    o.valid = (rules.isEmpty || differ (rules.all fun p => Check.passes v p.2.check) invert) := by
  cases rules with
  | nil =>
    cases h
    rfl
  | cons p rest =>
    rw [composition_check (List.cons_ne_nil p rest)] at h
    rw [Connective.check_valid h, Connective.compose_accepted, List.all_map]
    rfl

/-- Rules that are nothing need no thought where all rules are asked for what these have. -/
theorem forall_filter {keep : String × Rule → Bool} (hnull : ∀ p ∈ rules, keep p = false → p.2 = .null)
    {P : String × Rule → Prop} (holds : ∀ p : String × Rule, p.2 = .null → P p) :
    (∀ p ∈ rules.filter keep, P p) ↔ ∀ p ∈ rules, P p := by
  constructor
  · intro h p hp
    cases hkeep : keep p with
    | true => exact h p (List.mem_filter.mpr ⟨hp, hkeep⟩)
    | false => exact holds p (hnull p hp hkeep)
  · exact fun h p hp => h p (List.mem_filter.mp hp).1

/-- Rules that are nothing pass, so all the others pass when all do. -/
theorem all_passes_filter {keep : String × Rule → Bool} (hnull : ∀ p ∈ rules, keep p = false → p.2 = .null)
    (v : Value) : (rules.filter keep).all (fun p => Check.passes v p.2.check) =
      rules.all fun p => Check.passes v p.2.check := by
  rw [Bool.eq_iff_iff, List.all_eq_true, List.all_eq_true]
  exact forall_filter hnull fun p hp => hp ▸ rfl

/-- Without rules that are nothing a composition returns as it does with them. -/
theorem composition_returns_filter {keep : String × Rule → Bool}
    (hnull : ∀ p ∈ rules, keep p = false → p.2 = .null) (v : Value) (invert : Bool) :
    ((composition (rules.filter keep)).check v invert).Returns ↔
      ((composition rules).check v invert).Returns := by
  have hreturns (i : Bool) : (∀ p ∈ rules.filter keep, (p.2.check v i).Returns) ↔
      ∀ p ∈ rules, (p.2.check v i).Returns :=
    forall_filter hnull fun p hp => hp ▸ Run.returns_ret _
  have hpasses : (∀ p ∈ rules.filter keep, Check.passes v p.2.check = true) ↔
      ∀ p ∈ rules, Check.passes v p.2.check = true :=
    forall_filter hnull fun p hp => hp ▸ rfl
  rw [composition_returns, composition_returns, hreturns, hreturns, hpasses]

end Rule

/-- An entry that makes a rule is no flag, and its name is known. -/
theorem EntryBuilt.of_rule {makers : List (String × Maker)} {document : List (Scalar × Value)} {name : String}
    {param : Value} {b : Built} (h : EntryBuilt makers document name param b) {p : String × Rule}
    (hp : p ∈ b.rules) : isFlag name param = false ∧ b.unknown = [] := by
  cases h with
  | flag flag => cases hp
  | unknown entry absent => cases hp
  | rule entry found made => exact ⟨entry, rfl⟩

namespace Requirements

/-- The requirements without the entry of a name. -/
def without (q : Requirements) (name : String) : Requirements where
  members := q.members.filter (·.1 != name)
  nodup := (List.Sublist.map _ List.filter_sublist).nodup q.nodup

variable {r : Registry Maker} {q : Requirements} {b : Built} {name : String}

/-- An entry that makes a rule is the flag of no other, so what others are given beside them does not change. -/
theorem secondFor_without {param : Value} (h : (name, param) ∈ q.members) (entry : isFlag name param = false)
    (other : String) : secondFor other (q.without name).document = secondFor other q.document := by
  refine secondFor_congr fun flag hflag => ?_
  unfold without
  rw [List.mem_filter]
  refine and_iff_left_of_imp fun hmem => bne_iff_ne.mpr ?_
  rintro rfl
  rw [param_unique h hmem, flag_of_flagBeside? hflag true] at entry
  cases entry

/-- Without an entry that makes a rule the others make what they made. -/
theorem build_without (built : (r.build q.document).result = .ok b) {rule : Rule}
    (made : (name, rule) ∈ b.rules) : (r.build (q.without name).document).result =
      .ok ⟨b.rules.filter (·.1 != name), b.unknown⟩ := by
  obtain ⟨returns, hb⟩ := buildMembers_ok_iff.mp built
  unfold document at returns hb
  rw [List.forall_mem_map] at returns
  rw [List.flatMap_map, List.flatMap_map] at hb
  have entries : ∀ m ∈ q.members, EntryBuilt r.entries q.document m.1 m.2
      (entryRun r.entries q.document (.text m.1, m.2)).value :=
    fun m hm => entryRun_built _ _ _ _ _ (returns m hm).result_eq
  subst hb
  obtain ⟨⟨name', param⟩, hmem, hrule⟩ := List.mem_flatMap.mp made
  obtain rfl : name = name' := ((entries _ hmem).of_mem hrule).1
  obtain ⟨entry, known⟩ := (entries _ hmem).of_rule hrule
  have hsame : ∀ m : String × Value, entryRun r.entries (q.without name).document (.text m.1, m.2) =
      entryRun r.entries q.document (.text m.1, m.2) :=
    fun m => entryRun_of_second (secondFor_without hmem entry m.1)
  refine buildMembers_ok_iff.mpr ?_
  unfold document without at hsame ⊢
  simp only [List.forall_mem_map, List.flatMap_map, hsame]
  refine ⟨fun m hm => returns m (List.mem_filter.mp hm).1, ?_⟩
  rw [flatMap_filter, flatMap_filter, List.filter_flatMap]
  congr 1
  · refine List.flatMap_congr fun m hm => ?_
    have hnames (p : String × Rule)
        (hp : p ∈ (entryRun r.entries q.document (.text m.1, m.2)).value.rules) : p.1 = m.1 :=
      ((entries m hm).of_mem hp).1
    split
    · next hkeep => exact List.filter_eq_self.mpr fun p hp => by rw [hnames p hp, hkeep]
    · next hdrop => exact List.filter_eq_nil_iff.mpr fun p hp => by rw [hnames p hp]; exact hdrop
  · refine List.flatMap_congr fun m hm => ?_
    split
    · rfl
    · next hdrop =>
      obtain ⟨other, param'⟩ := m
      obtain rfl : other = name := by simpa using hdrop
      obtain rfl := param_unique hmem hm
      exact known

end Requirements

/-- A name that stands among others, each once, is alone when there is no other. -/
theorem names_eq_singleton_iff {names : List String} {name : String} (nodup : names.Nodup) (h : name ∈ names) :
    names = [name] ↔ ∀ other ∈ names, other = name := by
  constructor
  · rintro rfl other hother
    exact List.mem_singleton.mp hother
  · intro hall
    have hreplicate := List.eq_replicate_of_mem hall
    rw [hreplicate, List.nodup_replicate] at nodup
    have hlength := List.length_pos_of_mem h
    rw [hreplicate, Nat.le_antisymm nodup hlength]
    rfl

namespace Registry

variable {r : Registry Maker} {q : Requirements} {b : Built} {name : String}

theorem check_returns_iff_of_built (built : (r.build q.document).result = .ok b) (v : Value)
    (invert strict : Bool) :
    (r.check v q.document invert strict).Returns ↔ (reportBuilt b v invert strict).Returns := by
  rw [check_eq_of_built built]
  rfl

/-- The verdict of a check: no name is unknown, or it does not matter, and all rules pass, or, inverted, not all
of some rules. -/
theorem check_verdict {document : List (Scalar × Value)} (built : (r.build document).result = .ok b)
    {v : Value} {invert strict : Bool} {report : Report}
    (h : (r.check v document invert strict).result = .ok report) :
    report.ok = ((b.unknown.isEmpty || !strict) &&
      (b.rules.isEmpty || differ (b.rules.all fun p => Check.passes v p.2.check) invert)) := by
  rw [check_ok_iff_of_built built] at h
  have hheard : (b.unknown.isEmpty || !strict) = !(!b.unknown.isEmpty && strict) := by
    rw [Bool.not_and, Bool.not_not]
  rw [hheard]
  split at h
  · next hrefused =>
    rw [h, hrefused]
    rfl
  · next hrefused =>
    obtain ⟨o, ho, rfl⟩ := h
    rw [checkReport_ok, Rule.composition_valid ho, Bool.eq_false_of_not_eq_true hrefused]
    rfl

/-- A check without an entry whose rule is switched off returns when it does with it, and succeeds when it does,
but for an inverted check that evaluates this rule alone: that fails, and without the entry it succeeds. -/
theorem check_without_null (built : (r.build q.document).result = .ok b) (null : (name, Rule.null) ∈ b.rules)
    (v : Value) (invert strict : Bool) :
    ((r.check v (q.without name).document invert strict).Returns ↔
      (r.check v q.document invert strict).Returns) ∧
    ∀ report report', (r.check v q.document invert strict).result = .ok report →
      (r.check v (q.without name).document invert strict).result = .ok report' →
      if invert = true ∧ b.rules.map (·.1) = [name] ∧ (strict = true → b.unknown = []) then
        report.ok = false ∧ report'.ok = true
      else report'.ok = report.ok := by
  have built' := Requirements.build_without built null
  have nodup := Requirements.nodup_rules built
  have hnull : ∀ p ∈ b.rules, (p.1 != name) = false → p.2 = .null := by
    intro p hp hname
    obtain rfl : p = (name, .null) := List.inj_on_of_nodup_map nodup hp null (by simpa using hname)
    rfl
  have hnone : b.rules.filter (·.1 != name) = [] ↔ b.rules.map (·.1) = [name] := by
    rw [names_eq_singleton_iff nodup (List.mem_map_of_mem null), List.filter_eq_nil_iff, List.forall_mem_map]
    simp
  have hheard : (b.unknown.isEmpty || !strict) = true ↔ (strict = true → b.unknown = []) := by
    cases strict <;> simp
  constructor
  · rw [check_returns_iff_of_built built, check_returns_iff_of_built built', reportBuilt_returns_iff,
      reportBuilt_returns_iff, Rule.composition_returns_filter hnull]
  · intro report report' h h'
    have hok := check_verdict built h
    have hok' := check_verdict built' h'
    have hall := Rule.all_passes_filter hnull v
    rw [List.isEmpty_eq_false_iff.mpr (List.ne_nil_of_mem null), Bool.false_or, ← hall] at hok
    simp only [← hnone, ← hheard]
    cases hleft : b.rules.filter (·.1 != name) with
    | cons p rest =>
      rw [hleft] at hok hok'
      rw [if_neg (fun h => List.cons_ne_nil p rest h.2.1), hok, hok']
      rfl
    | nil =>
      -- No rule is left: the check without the entry succeeds if it is heard at all.
      rw [hleft, List.all_nil] at hok
      rw [hleft, List.isEmpty_nil, Bool.true_or] at hok'
      rw [hok, hok']
      cases invert <;> cases (b.unknown.isEmpty || !strict) <;> simp [differ_true, differ_false]

/-- A least length stands beside a rule that is switched off, so an inverted check of a text that is too short
succeeds with both as with one. -/
theorem check_without_null_length :
    let q : Requirements := ⟨[("required", .bool false), ("minLength", .int 3)], by decide⟩
    ∃ b, (builtin.build q.document).result = .ok b ∧ ("required", Rule.null) ∈ b.rules ∧
      ∃ report report', (builtin.check (.text "ab") q.document true true).result = .ok report ∧
        (builtin.check (.text "ab") (q.without "required").document true true).result = .ok report' ∧
        report'.ok = report.ok := by
  intro q
  obtain ⟨b, built⟩ : (builtin.build q.document).Returns := ⟨_, rfl⟩
  have null : ("required", Rule.null) ∈ b.rules := by
    cases built
    exact .head _
  have hnames : b.rules.map (·.1) ≠ ["required"] := by
    cases built
    decide
  obtain ⟨hreturns, hok⟩ := check_without_null built null (.text "ab") true true
  obtain ⟨report, h⟩ : (builtin.check (.text "ab") q.document true true).Returns := ⟨_, rfl⟩
  obtain ⟨report', h'⟩ := hreturns.mpr ⟨report, h⟩
  have hsame := hok report report' h h'
  rw [if_neg (fun h => hnames h.2.1)] at hsame
  exact ⟨b, built, null, report, report', h, h', hsame⟩

/-- Alone, a rule that is switched off makes an inverted check fail, which succeeds without it. -/
theorem check_null_alone :
    let q : Requirements := ⟨[("required", .bool false)], by decide⟩
    (∃ b, (builtin.build q.document).result = .ok b ∧ ("required", Rule.null) ∈ b.rules) ∧
    ∃ report report', (builtin.check (.text "ab") q.document true false).result = .ok report ∧
      (builtin.check (.text "ab") (q.without "required").document true false).result = .ok report' ∧
      report.ok = false ∧ report'.ok = true := by
  intro q
  exact ⟨⟨_, rfl, .head _⟩, _, _, rfl, rfl, rfl, rfl⟩

end Registry

end Rulebook
