import Rulebook.Proofs.Number.Order
import Rulebook.Proofs.Registry.Building
import Rulebook.Proofs.Rule.Inversion
import Rulebook.Proofs.Value.Reading

/-!
Every entry of a requirement document is accounted for. The names of the rules and the unknown names
are the names of the entries but the flags, told apart, each list in the order of the document; and the
rule of a limit excludes its bound when the flag beside it is on.
-/

namespace Rulebook

/-! ### Limits -/

/-- A definite number is within a bound of its own value unless the bound is excluded. -/
theorem Side.admits_self (side : Side) (excluding : Bool) {n : Number} (hn : n.isNaN = false) :
    side.admits excluding n n = !excluding := by
  obtain ⟨x, hx⟩ := Number.exists_place hn
  cases side <;> cases excluding <;>
    simp [admits, Number.le, Number.lt, Number.compareBy, hx, Extended.blt, Extended.ble_self]

/-- The keyword of a limit that can be flagged, and the name of its flag. -/
def Side.keyword : Side → Keyword
  | .least => .minimum
  | .greatest => .maximum

def Side.flagName : Side → String
  | .least => "exclusiveMinimum"
  | .greatest => "exclusiveMaximum"

/-- A rule excludes a bound when the bound itself fails it. -/
def Rule.Excludes (r : Rule) (bound : Value) : Prop :=
  (r.check bound false).Yields fun o => o.valid = false

theorem Value.number?_number {n : Number} (hn : n.isNaN = false) {o : Option Number}
    (h : (Value.number n).number? = .ok o) : o = some n := by
  obtain ⟨definite, hdefinite, h⟩ := Except.bind_ok_iff.mp h
  rw [Number.isDefinite_ok hdefinite, hn] at h
  cases h
  rfl

theorem Leaf.check_ok {l : Leaf} {v : Value} {ok : Bool} (htest : (l.test v).result = .ok ok)
    (seen : l.skips v = false) (invert : Bool) :
    (l.check v invert).result = .ok (l.finish v ok invert) := by
  unfold Leaf.check
  rw [seen, if_neg Bool.false_ne_true]
  exact Run.bind_ok_iff.mpr ⟨ok, htest, rfl⟩

namespace Keyword

/-- A rule with a definite number for a bound is its leaf, and the bound was readable. -/
theorem bounded_number (rule : String) (leaf : Number → Leaf) {n : Number} (hn : n.isNaN = false) :
    Run.Ensures (fun r => r = .leaf (leaf n) ∧ (Value.number n).number? = .ok (some n))
      (bounded rule leaf (.number n)) := by
  intro r h
  obtain ⟨usable, husable, h⟩ := Run.bind_ok_iff.mp h
  obtain ⟨number, hnumber, husable⟩ := Run.bind_ok_iff.mp husable
  obtain rfl := Value.number?_number hn hnumber
  cases husable
  cases h
  exact ⟨rfl, hnumber⟩

/-- A limit excludes its bound when it is flagged. -/
theorem makeLimit_excludes_iff (side : Side) (on : Bool) {n : Number} (hn : n.isNaN = false) :
    Run.Ensures (fun r => r.Excludes (.number n) ↔ on = true) (makeLimit side on (.number n)) := by
  intro r h
  obtain ⟨rfl, hnumber⟩ := bounded_number _ _ hn r h
  -- the bound is within itself unless it is excluded, which the style tells
  have hstyle : ((if on then LimitStyle.flagged else .including) != .including) = on := by
    cases on <;> rfl
  have htest : (Leaf.test (.limit side (if on then .flagged else .including) n) (.number n)).result =
      .ok (!on) := by
    refine Run.bind_ok_iff.mpr ⟨some n, hnumber, ?_⟩
    show Except.ok (side.admits _ n n) = _
    rw [hstyle, side.admits_self on hn]
  have hcheck := Leaf.check_ok htest rfl false
  simp [Rule.Excludes, Run.Yields, Rule.check, hcheck, Leaf.finish_valid, differ_false]

end Keyword

/-! ### Flags -/

theorem Maker.make_limit (side : Side) (makers : List (String × Maker)) (on : Bool) (param : Value) :
    (Maker.keyword side.keyword).make makers (.flag on) param = Keyword.makeLimit side on param := by
  cases side <;> rfl

theorem isFlag_iff {name : String} {param : Value} : isFlag name param = true ↔
    (name = "exclusiveMinimum" ∨ name = "exclusiveMaximum") ∧ ∃ on, param = .bool on := by
  unfold isFlag
  rw [Bool.and_eq_true_iff, Bool.or_eq_true_iff, beq_iff_eq, beq_iff_eq]
  refine and_congr_right fun _ => ?_
  split
  · simp
  · next hparam =>
    simp only [Bool.false_eq_true, false_iff, not_exists]
    exact hparam

/-! ### Documents -/

/-- What is made of a document accounts for its entries. -/
structure Accounts (r : Registry Maker) (q : Requirements) (b : Built) : Prop where
  /-- The names of the rules stand in the order of the document, each once. -/
  rules_inOrder : (b.rules.map (·.1)).Sublist (q.members.map (·.1))
  /-- So do the unknown names. -/
  unknown_inOrder : b.unknown.Sublist (q.members.map (·.1))
  /-- No name of a rule is unknown. -/
  disjoint : (b.rules.map (·.1)).Disjoint b.unknown
  /-- Together they are the names of all entries but the flags, truth values under certain names. -/
  covered : ∀ name, name ∈ b.rules.map (·.1) ∨ name ∈ b.unknown ↔ ∃ param, (name, param) ∈ q.members ∧
    ¬ ((name = "exclusiveMinimum" ∨ name = "exclusiveMaximum") ∧ ∃ on, param = .bool on)
  /-- A rule for a limit is made by the maker of its name with a flag that is on when a true value stands
  under the name of the flag; that of the built-in maker excludes a number for its bound when it is. -/
  limits : ∀ (side : Side) (rule : Rule), (side.keyword.name, rule) ∈ b.rules →
    ∃ maker param on, r.lookup? side.keyword.name = some maker ∧
      (side.keyword.name, param) ∈ q.members ∧
      (on = true ↔ (side.flagName, .bool true) ∈ q.members) ∧
      (maker.make r.entries (.flag on) param).result = .ok rule ∧
      (maker = .keyword side.keyword → ∀ n : Number, n.isNaN = false → param = .number n →
        (rule.Excludes param ↔ (side.flagName, .bool true) ∈ q.members))

namespace Requirements

theorem secondFor_limit (q : Requirements) (side : Side) :
    ∃ on, secondFor side.keyword.name q.document = .flag on ∧
      (on = true ↔ (side.flagName, .bool true) ∈ q.members) := by
  have hflag : flagBeside? side.keyword.name = some side.flagName := by
    cases side <;> rfl
  unfold secondFor
  rw [hflag]
  refine ⟨_, rfl, ?_⟩
  rw [get?_document, ← get?_members_iff]
  split
  · next hget => simp [hget]
  · next hget => simpa using hget

theorem build_accounts {r : Registry Maker} {q : Requirements} {b : Built}
    (h : (r.build q.document).result = .ok b) : Accounts r q b := by
  obtain ⟨hrules, hunknown⟩ := build_names h
  constructor
  · rw [hrules]
    exact List.filter_sublist.map _
  · rw [hunknown]
    exact List.filter_sublist.map _
  · rw [hrules, hunknown]
    intro name hbuilt hlacked
    obtain ⟨m, hm, rfl⟩ := List.mem_map.mp hbuilt
    obtain ⟨m', hm', hname⟩ := List.mem_map.mp hlacked
    have hcontains := (Bool.and_eq_true_iff.mp (List.mem_filter.mp hm).2).2
    have hlacks := (Bool.and_eq_true_iff.mp (List.mem_filter.mp hm').2).2
    rw [hname, hcontains] at hlacks
    cases hlacks
  · intro name
    rw [hrules, hunknown]
    constructor
    · rintro (hname | hname)
      all_goals
        obtain ⟨m, hm, rfl⟩ := List.mem_map.mp hname
        obtain ⟨hmem, hkeep⟩ := List.mem_filter.mp hm
        refine ⟨m.2, hmem, fun hflag => ?_⟩
        rw [isFlag_iff.mpr hflag] at hkeep
        cases hkeep
    · rintro ⟨param, hmem, hflag⟩
      have entry : isFlag name param = false := Bool.not_eq_true _ ▸ mt isFlag_iff.mp hflag
      cases hcontains : r.contains name with
      | true =>
        refine .inl (List.mem_map.mpr ⟨_, List.mem_filter.mpr ⟨hmem, ?_⟩, rfl⟩)
        rw [entry, hcontains]
        rfl
      | false =>
        refine .inr (List.mem_map.mpr ⟨_, List.mem_filter.mpr ⟨hmem, ?_⟩, rfl⟩)
        rw [entry, hcontains]
        rfl
  · intro side rule hmem
    obtain ⟨made, entries, rfl⟩ := build_entries h
    obtain ⟨⟨name, param⟩, hm, hmade⟩ := List.mem_flatMap.mp hmem
    obtain ⟨rfl, maker, found, hrule⟩ := (entries _ hm).of_mem hmade
    obtain ⟨on, hsecond, hon⟩ := q.secondFor_limit side
    have hmake : (maker.make r.entries (.flag on) param).result = .ok rule := hsecond ▸ hrule
    refine ⟨maker, param, on, found, hm, hon, hmake, ?_⟩
    rintro rfl n hn rfl
    rw [Maker.make_limit] at hmake
    rw [← hon]
    exact Keyword.makeLimit_excludes_iff side on hn rule hmake

end Requirements

end Rulebook
