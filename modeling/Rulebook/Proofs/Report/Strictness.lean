import Rulebook.Proofs.Report.Accounting

/-!
What a strict check passes over. In a document that a strict check accepts no name is unknown, so each
key is the name of a rule or a flag, a truth value under the name of an excluding limit. A flag is heeded
when its limit stands beside it, for then the limit is made with it. A flag without its limit makes no
rule, changes none and is not warned of: it is the one thing that a strict check ignores.
-/

namespace Rulebook

theorem Side.flagName_injective {side side' : Side} (h : side.flagName = side'.flagName) :
    side = side' := by
  revert h
  cases side <;> cases side' <;> decide

/-- The flags are those of the two sides. -/
theorem flag_iff_side {name : String} :
    (name = "exclusiveMinimum" ∨ name = "exclusiveMaximum") ↔ ∃ side : Side, name = side.flagName := by
  constructor
  · rintro (rfl | rfl)
    · exact ⟨.least, rfl⟩
    · exact ⟨.greatest, rfl⟩
  · rintro ⟨side, rfl⟩
    cases side
    · exact .inl rfl
    · exact .inr rfl

namespace Requirements

variable {r : Registry Maker} {q : Requirements} {b : Built}

/-- A flag is heeded: its limit is in the document, and the rule of the limit was made with the flag, so
that a number that bounds a built-in limit is excluded when the flag is on. -/
def Heeds (r : Registry Maker) (q : Requirements) (b : Built) (side : Side) (on : Bool) : Prop :=
  ∃ bound maker rule, (side.keyword.name, bound) ∈ q.members ∧
    (side.keyword.name, rule) ∈ b.rules ∧ r.lookup? side.keyword.name = some maker ∧
    (maker.make r.entries (.flag on) bound).result = .ok rule ∧
    (maker = .keyword side.keyword → ∀ n : Number, n.isNaN = false → bound = .number n →
      (rule.Excludes bound ↔ on = true))

/-- A name has one parameter. -/
theorem param_unique {name : String} {param param' : Value} (h : (name, param) ∈ q.members)
    (h' : (name, param') ∈ q.members) : param = param' := by
  rw [← get?_members_iff] at h h'
  exact Option.some.inj (h.symm.trans h')

/-- Where no name is unknown, a key that names no rule is a flag. -/
theorem rule_or_flag (accounts : Accounts r q b) (known : b.unknown = []) {name : String}
    {param : Value} (h : (name, param) ∈ q.members) :
    name ∈ b.rules.map (·.1) ∨ ∃ side on, name = Side.flagName side ∧ param = .bool on := by
  by_cases hflag : (name = "exclusiveMinimum" ∨ name = "exclusiveMaximum") ∧ ∃ on, param = .bool on
  · obtain ⟨hname, on, hparam⟩ := hflag
    obtain ⟨side, hside⟩ := flag_iff_side.mp hname
    exact .inr ⟨side, on, hside, hparam⟩
  · rcases (accounts.covered name).mpr ⟨param, h, hflag⟩ with hrule | hunknown
    · exact .inl hrule
    · rw [known] at hunknown
      cases hunknown

/-- A flag is the name of no rule. -/
theorem flag_not_rule (accounts : Accounts r q b) {side : Side} {on : Bool}
    (h : (side.flagName, Value.bool on) ∈ q.members) : side.flagName ∉ b.rules.map (·.1) := by
  intro hrule
  obtain ⟨param, hmem, hno⟩ := (accounts.covered side.flagName).mp (.inl hrule)
  exact hno ⟨flag_iff_side.mpr ⟨side, rfl⟩, on, param_unique hmem h⟩

/-- A flag whose limit is the name of a rule is heeded. -/
theorem heeds_of_rule (accounts : Accounts r q b) {side : Side} {on : Bool}
    (h : (side.flagName, Value.bool on) ∈ q.members)
    (hlimit : side.keyword.name ∈ b.rules.map (·.1)) : Heeds r q b side on := by
  obtain ⟨⟨_, rule⟩, hrule, rfl⟩ := List.mem_map.mp hlimit
  obtain ⟨maker, bound, on', found, hbound, hon, made, excludes⟩ := accounts.limits side rule hrule
  -- the flag that the limit was made with is the one in the document
  have hflag : (side.flagName, Value.bool true) ∈ q.members ↔ on = true := by
    constructor
    · intro htrue
      cases param_unique h htrue
      rfl
    · rintro rfl
      exact h
  obtain rfl : on' = on := Bool.eq_iff_iff.mpr (hon.trans hflag)
  refine ⟨bound, maker, rule, hbound, hrule, found, made, fun hmaker n hn hnumber => ?_⟩
  rw [excludes hmaker n hn hnumber, hon]

/-- The flags that are heeded are those whose limit stands beside them. -/
theorem heeds_iff (accounts : Accounts r q b) (known : b.unknown = []) {side : Side} {on : Bool}
    (h : (side.flagName, Value.bool on) ∈ q.members) :
    Heeds r q b side on ↔ side.keyword.name ∈ q.members.map (·.1) := by
  constructor
  · rintro ⟨bound, _, _, hbound, -⟩
    exact List.mem_map_of_mem hbound
  · intro hbeside
    obtain ⟨⟨_, bound⟩, hbound, hname⟩ := List.mem_map.mp hbeside
    obtain rfl := hname
    rcases rule_or_flag accounts known hbound with hrule | ⟨side', on', hflag, -⟩
    · exact heeds_of_rule accounts h hrule
    · exact absurd hflag (by cases side <;> cases side' <;> decide)

end Requirements

namespace Registry

variable {r : Registry Maker} {q : Requirements}

/-- A strict check that succeeds has made all rules and has met no unknown name. -/
theorem check_strict_ok {v : Value} {invert : Bool} {report : Report}
    (h : (r.check v q.document invert true).result = .ok report) (ok : report.ok = true) :
    ∃ b, (r.build q.document).result = .ok b ∧ b.unknown = [] ∧
      report.get? "rules" = some (.texts (b.rules.map (·.1))) := by
  obtain ⟨b, built, -⟩ := Run.bind_ok_iff.mp h
  rw [check_ok_iff_of_built built] at h
  split at h
  · rw [h] at ok
    cases ok
  · next hcondition =>
    obtain ⟨o, -, rfl⟩ := h
    refine ⟨b, built, ?_, checkReport_rules b o⟩
    simpa using hcondition

/-- A strict check that succeeds reports as rules all keys but the flags. It heeds a flag exactly when
its limit stands beside it, and so ignores nothing exactly when no flag stands without its limit. -/
theorem check_strict_ignores_iff {v : Value} {invert : Bool} {report : Report}
    (h : (r.check v q.document invert true).result = .ok report) (ok : report.ok = true) :
    ∃ b names, (r.build q.document).result = .ok b ∧ report.get? "rules" = some (.texts names) ∧
      (∀ m ∈ q.members, m.1 ∈ names ∨ ∃ side on, m.1 = Side.flagName side ∧ m.2 = .bool on) ∧
      (∀ side on, (Side.flagName side, Value.bool on) ∈ q.members → side.flagName ∉ names ∧
        (q.Heeds r b side on ↔ side.keyword.name ∈ q.members.map (·.1))) ∧
      ((∀ m ∈ q.members, m.1 ∈ names ∨
          ∃ side on, m.1 = Side.flagName side ∧ m.2 = .bool on ∧ q.Heeds r b side on) ↔
        ∀ side on, (Side.flagName side, Value.bool on) ∈ q.members →
          side.keyword.name ∈ q.members.map (·.1)) := by
  obtain ⟨b, built, known, hnames⟩ := check_strict_ok h ok
  have accounts := Requirements.build_accounts built
  refine ⟨b, _, built, hnames, ?_, ?_, ?_, ?_⟩
  · intro m hm
    exact Requirements.rule_or_flag accounts known hm
  · intro side on hflag
    exact ⟨Requirements.flag_not_rule accounts hflag, Requirements.heeds_iff accounts known hflag⟩
  · -- nothing is ignored, so a flag, which names no rule, is heeded
    intro hall side on hflag
    rcases hall _ hflag with hrule | ⟨side', on', hname, hparam, heeds⟩
    · exact absurd hrule (Requirements.flag_not_rule accounts hflag)
    · obtain rfl := Side.flagName_injective hname
      cases hparam
      exact (Requirements.heeds_iff accounts known hflag).mp heeds
  · rintro hbeside ⟨name, param⟩ hm
    rcases Requirements.rule_or_flag accounts known hm with hrule | ⟨side, on, rfl, rfl⟩
    · exact .inl hrule
    · have heeds := (Requirements.heeds_iff accounts known hm).mpr (hbeside side on hm)
      exact .inr ⟨side, on, rfl, rfl, heeds⟩

/-- A limit beside its flag: the flag is heeded. -/
theorem check_strict_heeds_flag :
    let q : Requirements := ⟨[("exclusiveMinimum", .bool true), ("minimum", .int 5)], by decide⟩
    ∃ report, (builtin.check (.int 6) q.document false true).result = .ok report ∧ report.ok = true ∧
      ∃ b, (builtin.build q.document).result = .ok b ∧ q.Heeds builtin b .least true := by
  intro q
  obtain ⟨report, h⟩ : (builtin.check (.int 6) q.document false true).Returns := ⟨_, rfl⟩
  have ok : report.ok = true := by
    cases h
    rfl
  obtain ⟨b, names, built, -, -, flags, -⟩ := check_strict_ignores_iff h ok
  refine ⟨report, h, ok, b, built, (flags .least true (.head _)).2.mpr ?_⟩
  decide

/-- A flag alone: a strict check succeeds, lists no rule, warns of nothing, and the limit that the flag
would change is not there. -/
theorem check_strict_ignores_flag :
    let q : Requirements := ⟨[("exclusiveMinimum", .bool true)], by decide⟩
    ∃ report, (builtin.check (.int 5) q.document false true).result = .ok report ∧ report.ok = true ∧
      report.get? "rules" = some (.texts []) ∧ report.warnings = [] ∧
      ¬ ∀ m ∈ q.members, (∃ names, report.get? "rules" = some (.texts names) ∧ m.1 ∈ names) ∨
        ∃ side on, m.1 = Side.flagName side ∧ m.2 = .bool on ∧
          side.keyword.name ∈ q.members.map (·.1) := by
  intro q
  refine ⟨_, rfl, rfl, rfl, rfl, fun hall => ?_⟩
  rcases hall _ (.head _) with ⟨names, hnames, hmem⟩ | ⟨side, on, -, -, hbeside⟩
  · cases names with
    | nil => cases hmem
    | cons name rest => cases hnames
  · cases side <;> exact absurd hbeside (by decide)

end Registry

end Rulebook
