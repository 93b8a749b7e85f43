import Rulebook.Report.Check
import Rulebook.Proofs.Registry.Stopping

/-!
When a check returns. On JSON, a check against the built-in rules returns unless a pattern cannot be
made, which stops it whatever the value, or some entry stops on the value. A strict check with a name
that no maker has evaluates no rule, so then only a pattern stops it. Inversion changes nothing.
-/

namespace Rulebook

/-- The expression of a pattern faults, rather than being malformed. -/
def PatternFaults (param : Value) : Prop :=
  ∃ s f, param = .text s ∧ s ≠ "" ∧ Regex.compile .none s = .error (.fault f)

/-- On an empty value only a pattern stops. -/
theorem EntryStops.of_null {k : Keyword} {param : Value} (h : EntryStops .null k param) :
    k = .pattern ∧ PatternFaults param := by
  cases h with
  | pattern hs hf => exact ⟨rfl, _, _, rfl, hs, hf⟩
  | required present _ _ => cases present
  | field present _ _ _ _ _ => cases present

/-! ### Making the rules -/

theorem makePattern_of_fault {param : Value} (h : PatternFaults param) :
    ¬ (Keyword.makePattern false param).Returns := by
  obtain ⟨s, f, rfl, hs, hf⟩ := h
  have htruthy : (Value.text s).truthy = true := by simpa [Value.truthy] using hs
  unfold Keyword.makePattern
  rw [htruthy]
  simp only [Bool.not_true, Bool.false_eq_true, if_false]
  unfold Keyword.compilePattern
  rw [hf]
  exact Run.not_returns_stop f

/-- Only a pattern stops the making of the rule of an entry. -/
theorem entryRun_returns_iff {param : Value} (hp : param.IsJson) (name : String)
    (document : List (Scalar × Value)) :
    (entryRun builtinMakers document (.text name, param)).Returns ↔
      (name = "pattern" → ¬ PatternFaults param) := by
  constructor
  · rintro ⟨b, hb⟩ rfl hfault
    have hmake : entryRun builtinMakers document (.text "pattern", param) =
        Keyword.makePattern false param >>= fun r => pure ⟨[("pattern", r)], []⟩ := rfl
    rw [hmake] at hb
    obtain ⟨r, hr, -⟩ := Run.bind_ok_iff.mp hb
    exact makePattern_of_fault hfault ⟨r, hr⟩
  · intro h
    -- on an empty value nothing else stops, not even when the rule is evaluated
    have hstops : ∀ k : Keyword, k.name = name → ¬ EntryStops .null k param := by
      rintro k rfl hstops
      obtain ⟨rfl, hfault⟩ := hstops.of_null
      exact h rfl hfault
    obtain ⟨b, hb, -⟩ :=
      (entryDecided hp name document .null (.scalar trivial) false).mpr hstops
    exact ⟨b, hb⟩

/-- A flag has the name of a keyword. -/
theorem builtin_contains_of_flag {name : String} {param : Value} (h : isFlag name param = true) :
    Registry.builtin.contains name = true := by
  rcases Bool.or_eq_true_iff.mp (Bool.and_eq_true_iff.mp h).1 with hname | hname
  · exact builtin_contains_iff.mpr ⟨.exclusiveMinimum, (beq_iff_eq.mp hname).symm⟩
  · exact builtin_contains_iff.mpr ⟨.exclusiveMaximum, (beq_iff_eq.mp hname).symm⟩

namespace Requirements

/-- The parameters are JSON. -/
def IsJson (q : Requirements) : Prop := ∀ m ∈ q.members, m.2.IsJson

variable {q : Requirements} {b : Built}

theorem build_returns_iff (hq : q.IsJson) : (Registry.builtin.build q.document).Returns ↔
    ∀ param, ("pattern", param) ∈ q.members → ¬ PatternFaults param := by
  have hentries : (Registry.builtin.build q.document).Returns ↔
      ∀ m ∈ q.members, (q.entry m).Returns := by
    constructor
    · rintro ⟨b, hb⟩
      exact (build_ok_iff.mp hb).1
    · intro returns
      exact ⟨_, build_ok_iff.mpr ⟨returns, rfl⟩⟩
  rw [hentries]
  constructor
  · intro h param hmem
    exact (entryRun_returns_iff (hq _ hmem) "pattern" q.document).mp (h _ hmem) rfl
  · rintro h ⟨name, param⟩ hmem
    refine (entryRun_returns_iff (hq _ hmem) name q.document).mpr ?_
    rintro rfl
    exact h param hmem

theorem unknown_ne_nil_iff (hb : (Registry.builtin.build q.document).result = .ok b) :
    b.unknown ≠ [] ↔ ∃ m ∈ q.members, ∀ k : Keyword, k.name ≠ m.1 := by
  have hunknown : ∀ m : String × Value,
      (!isFlag m.1 m.2 && !Registry.builtin.contains m.1) = true ↔ ∀ k : Keyword, k.name ≠ m.1 := by
    intro m
    have hlacks : (!Registry.builtin.contains m.1) = true ↔ ∀ k : Keyword, k.name ≠ m.1 := by
      rw [Bool.not_eq_true', ← Bool.not_eq_true, builtin_contains_iff, not_exists]
    cases hflag : isFlag m.1 m.2 with
    | false => rw [Bool.not_false, Bool.true_and, hlacks]
    | true =>
      -- no flag is unknown
      rw [← hlacks, builtin_contains_of_flag hflag]
      rfl
  rw [(build_names hb).2, ne_eq, List.map_eq_nil_iff, List.filter_eq_nil_iff]
  push Not
  exact exists_congr fun m => and_congr_right fun _ => hunknown m

/-- The rules of a document return on a value when no entry stops on it. -/
theorem rules_return_iff (hq : q.IsJson) (hb : (Registry.builtin.build q.document).result = .ok b)
    {v : Value} (hv : v.IsJson) (invert : Bool) :
    (∀ p ∈ b.rules, (p.2.check v invert).Returns) ↔
      ∀ (k : Keyword) (param : Value), (k.name, param) ∈ q.members → ¬ EntryStops v k param := by
  have hyields : ((Registry.builtin.build q.document).Yields fun b =>
      ∀ p ∈ b.rules, (p.2.check v invert).Returns) ↔ ∀ p ∈ b.rules, (p.2.check v invert).Returns := by
    simp [Run.Yields, hb]
  have decided : ∀ m ∈ q.document, EntryDecided m.2 := by
    intro m hm
    obtain ⟨p, hp, rfl⟩ := List.mem_map.mp hm
    exact entryDecided (hq p hp)
  rw [← hyields]
  show ((buildMembers builtinMakers q.document q.document).Yields _) ↔ _
  rw [buildMembers_returns_iff q.keyed_document decided hv]
  simp only [mem_document_iff]

end Requirements

/-- On rules that return either way, a composition returns when all of them do. -/
theorem NamedApart.composition_returns_iff {rules : List (String × Rule)} (h : NamedApart rules)
    {v : Value} (either : (∀ p ∈ rules, (p.2.check v false).Returns) →
      ∀ p ∈ rules, (p.2.check v true).Returns) (invert : Bool) :
    ((Rule.composition rules).check v invert).Returns ↔
      ∀ p ∈ rules, (p.2.check v false).Returns := by
  cases invert with
  | false =>
    constructor
    · rintro ⟨o, ho⟩
      exact (h.plain_ok_iff.mp ho).1
    · intro returns
      exact ⟨_, h.plain_ok_iff.mpr ⟨returns, rfl⟩⟩
  | true =>
    constructor
    · rintro ⟨o, ho⟩
      exact (h.inverted_ok_iff.mp ho).1
    · intro returns
      cases hpass : !rules.isEmpty && (Outcome.Named.of v false rules).all (·.2.valid) with
      | true =>
        refine ⟨.fail (Outcome.Named.of v true rules).errors, h.inverted_ok_iff.mpr ⟨returns, ?_⟩⟩
        rw [hpass, if_pos rfl]
        exact ⟨either returns, rfl⟩
      | false =>
        refine ⟨.pass, h.inverted_ok_iff.mpr ⟨returns, ?_⟩⟩
        rw [hpass, if_neg Bool.false_ne_true]

/-- A strict report of unknown names evaluates nothing; any other evaluates the rules. -/
theorem Registry.reportBuilt_returns_iff {b : Built} {v : Value} {invert strict : Bool} :
    (Registry.reportBuilt b v invert strict).Returns ↔
      (strict = true ∧ b.unknown ≠ []) ∨ ((Rule.composition b.rules).check v invert).Returns := by
  unfold Registry.reportBuilt
  cases hstrict : !b.unknown.isEmpty && strict with
  | true =>
    refine iff_of_true (Run.returns_ret _) (.inl ?_)
    simpa [and_comm] using hstrict
  | false =>
    have hnot : ¬ (strict = true ∧ b.unknown ≠ []) := by
      rintro ⟨rfl, hunknown⟩
      simp [hunknown] at hstrict
    rw [or_iff_right hnot]
    simp [Run.returns_iff_yields, Registry.composed]

/-- A check on JSON returns unless a pattern cannot be made or an entry stops on the value. -/
theorem Registry.check_returns_exactly (v : Value) (q : Requirements) (hv : v.IsJson) (hq : q.IsJson)
    (invert strict : Bool) :
    (Registry.builtin.check v q.document invert strict).Returns ↔
      (∀ param, ("pattern", param) ∈ q.members → ¬ PatternFaults param) ∧
      ((strict = true ∧ ∃ m ∈ q.members, ∀ k : Keyword, k.name ≠ m.1) ∨
        ∀ (k : Keyword) (param : Value), (k.name, param) ∈ q.members → ¬ EntryStops v k param) := by
  unfold Registry.check
  rw [Run.returns_bind_iff, ← Requirements.build_returns_iff hq]
  have hbuilt : ∀ b, (Registry.builtin.build q.document).result = .ok b →
      ((Registry.reportBuilt b v invert strict).Returns ↔
        (strict = true ∧ ∃ m ∈ q.members, ∀ k : Keyword, k.name ≠ m.1) ∨
        ∀ (k : Keyword) (param : Value), (k.name, param) ∈ q.members → ¬ EntryStops v k param) := by
    intro b hb
    have hrules := fun i => Requirements.rules_return_iff hq hb hv i
    have either : (∀ p ∈ b.rules, (p.2.check v false).Returns) →
        ∀ p ∈ b.rules, (p.2.check v true).Returns := fun h => (hrules true).mpr ((hrules false).mp h)
    rw [reportBuilt_returns_iff, Requirements.unknown_ne_nil_iff hb,
      (Requirements.rules_apart hb).composition_returns_iff either, hrules false]
  constructor
  · rintro ⟨b, hb, h⟩
    exact ⟨⟨b, hb⟩, (hbuilt b hb).mp h⟩
  · rintro ⟨⟨b, hb⟩, h⟩
    exact ⟨b, hb, (hbuilt b hb).mpr h⟩

/-- A count of repetitions that no matcher takes is a fault of its pattern. -/
theorem patternFaults_of_repetition : PatternFaults (.text "a\x7b4294967295\x7d") := by
  have hfault : (match Regex.compile .none "a\x7b4294967295\x7d" with
      | .error (.fault _) => true
      | _ => false) = true := by decide +kernel
  split at hfault
  · next f hf => exact ⟨_, f, rfl, by decide, hf⟩
  · cases hfault

/-- A pattern with such a count stops a check, and so does a format named by a list. -/
theorem Registry.check_stops_of_pattern :
    let q : Requirements := ⟨[("pattern", .text "a\x7b4294967295\x7d")], by decide⟩
    let q' : Requirements := ⟨[("format", .list [.text "email"])], by decide⟩
    (Value.text "abc").IsJson ∧ q.IsJson ∧ q'.IsJson ∧
      ¬ (Registry.builtin.check (.text "abc") q.document false false).Returns ∧
      ¬ (Registry.builtin.check (.text "abc") q'.document false false).Returns := by
  intro q q'
  have hq : q.IsJson := List.forall_mem_singleton.mpr (.scalar trivial)
  have hq' : q'.IsJson :=
    List.forall_mem_singleton.mpr (.list (List.forall_mem_singleton.mpr (.scalar trivial)))
  refine ⟨.scalar trivial, hq, hq', ?_, ?_⟩
  · rintro ⟨report, h⟩
    obtain ⟨b, hb, -⟩ := Run.bind_ok_iff.mp h
    have hbuilt := (Requirements.build_returns_iff hq).mp ⟨b, hb⟩
    exact hbuilt _ (List.mem_singleton_self _) patternFaults_of_repetition
  · rintro ⟨report, h⟩
    cases h

/-- The same format does not stop the check of a number. -/
theorem Registry.check_returns_of_format :
    let q : Requirements := ⟨[("format", .list [.text "email"])], by decide⟩
    (Registry.builtin.check (.int 5) q.document true false).Returns := by
  intro q
  have hq : q.IsJson :=
    List.forall_mem_singleton.mpr (.list (List.forall_mem_singleton.mpr (.scalar trivial)))
  have hv : Value.IsJson (.int 5) := .scalar rfl
  refine (Registry.check_returns_exactly (.int 5) q hv hq true false).mpr ⟨?_, .inr ?_⟩
  · intro param hmem
    exact absurd (Prod.mk.inj (List.mem_singleton.mp hmem)).1 (by decide)
  · intro k param hmem hstops
    obtain ⟨hname, rfl⟩ := Prod.mk.inj (List.mem_singleton.mp hmem)
    obtain rfl : k = .format := Keyword.name_injective hname
    cases hstops

end Rulebook
