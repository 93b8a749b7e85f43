import Rulebook.Proofs.Rule.Given
import Rulebook.Proofs.Rule.Inversion
import Rulebook.Proofs.Rule.Merging
import Rulebook.Proofs.Rule.Spelling

/-!
What failures tell. A rule that fails plain names something. Inverted, a rule that passed need not: a
composition has no name of its own, and a leaf on a value that it skips, a rule that cannot be inverted
and demands that require nothing have nothing to tell. `Rule.Tells` says which rules do. Of evaluations
from outside the program it has to be assumed that they name something when they fail.
-/

namespace Rulebook

/-! ### Merged failures -/

theorem Ordered.union_ne_nil_iff {κ α : Type} [BEq κ] {m new : List (κ × α)} :
    union m new ≠ [] ↔ m ≠ [] ∨ new ≠ [] := by
  induction new generalizing m with
  | nil => simp [union]
  | cons p rest ih =>
    show union (insert p.1 p.2 m) rest ≠ [] ↔ _
    rw [ih]
    simp [insert_ne_nil]

/-- Merging loses no failure. -/
theorem Failures.merge_ne_nil_iff {maps : List Failures} :
    Failures.merge maps ≠ [] ↔ ∃ m ∈ maps, m ≠ [] := by
  rw [merge_eq_ofList]
  show Ordered.union [] maps.flatten ≠ [] ↔ _
  rw [Ordered.union_ne_nil_iff, or_iff_right (fun h => h rfl), ne_eq, List.flatten_eq_nil_iff]
  push Not
  rfl

/-! ### Valid outcomes and plain outcomes -/

/-- A valid outcome reports nothing. -/
def Outcome.Quiet (o : Outcome) : Prop := o.valid = true → o.errors = []

theorem Outcome.Quiet.pass : Outcome.pass.Quiet := fun _ => rfl

theorem Outcome.Quiet.fail (errors : Failures) : (Outcome.fail errors).Quiet := nofun

/-- An outcome reports something when it is not valid. -/
def Outcome.Explained (o : Outcome) : Prop := o.errors ≠ [] ↔ o.valid = false

theorem Outcome.Explained.pass : Outcome.pass.Explained := by simp [Explained, Outcome.pass]

theorem Outcome.Explained.fail {errors : Failures} (h : errors ≠ []) :
    (Outcome.fail errors).Explained := by simp [Explained, Outcome.fail, h]

theorem Outcome.Explained.quiet {o : Outcome} (h : o.Explained) : o.Quiet := by
  intro hvalid
  by_contra herrors
  rw [h.mp herrors] at hvalid
  cases hvalid

theorem Outcome.Under.explained {name : String} {o : Outcome} (h : o.Under name) : o.Explained := by
  cases h with
  | pass => exact .pass
  | fail detail => exact .fail (List.cons_ne_nil _ _)

/-- An evaluation reports something when it fails, plain and inverted. -/
def Check.Explains (c : Check) : Prop := ∀ v invert, Run.Ensures Outcome.Explained (c v invert)

/-- A connective with a marker explains itself; a composition does when its parts do. -/
theorem Connective.check_explained {c : Connective} {checks : List Check} {v : Value}
    {invert : Bool} (marked : c ≠ .compose) :
    Run.Ensures Outcome.Explained (c.check checks v invert) := by
  rw [Connective.check_eq]
  refine .andThen fun os => ?_
  split
  · exact .pure .pass
  · refine .andThen fun passing => .pure (.fail ?_)
    refine Failures.merge_ne_nil_iff.mpr ?_
    cases c with
    | compose => exact absurd rfl marked
    | _ => exact ⟨_, List.mem_append_right _ (List.mem_singleton_self _), List.cons_ne_nil _ _⟩

/-- Every evaluation passes without failures or fails. -/
theorem Rule.check_quiet {r : Rule} (given : r.AllGiven Check.Explains) (v : Value) (invert : Bool) :
    Run.Ensures Outcome.Quiet (r.check v invert) := by
  cases r with
  | null => exact .ret .pass
  | leaf l => exact fun o ho => (l.check_under v invert o ho).explained.quiet
  | fixed r => exact fun o ho => (r.check_under v invert o ho).explained.quiet
  | given check => exact fun o ho => (given v invert o ho).quiet
  | several c rules =>
    show Run.Ensures _ (c.check _ v invert)
    rw [Connective.check_eq]
    refine .andThen fun os => ?_
    split
    · exact .pure .pass
    · exact .andThen fun passing => .pure (.fail _)
  | negation r =>
    show Run.Ensures _ (Check.negate _ v invert)
    unfold Check.negate
    split
    · exact .ret .pass
    · refine .andThen fun o => ?_
      split
      · exact .pure .pass
      · exact .pure (.fail _)
  | demands ds =>
    rw [Rule.check]
    split
    · exact .andThen fun failed => .pure (demandsOutcome_under failed).explained.quiet
    · exact .ret .pass

/-- A negation marks its failures. -/
theorem Check.negate_explained (inner : Check) (v : Value) (invert : Bool) :
    Run.Ensures Outcome.Explained (Check.negate inner v invert) := by
  unfold Check.negate
  split
  · exact .ret .pass
  · refine .andThen fun o => ?_
    split
    · exact .pure .pass
    · refine .pure (.fail (Failures.merge_ne_nil_iff.mpr ?_))
      exact ⟨_, List.mem_cons_of_mem _ (List.mem_singleton_self _), List.cons_ne_nil _ _⟩

/-- A composition that fails plain reports what the failing parts do. -/
theorem Connective.compose_explained {checks : List Check} {v : Value}
    (parts : ∀ c ∈ checks, Run.Ensures Outcome.Explained (c v false)) :
    Run.Ensures Outcome.Explained (compose.check checks v false) := by
  intro o ho
  obtain ⟨returns, rfl⟩ := compose_plain_ok_iff.mp ho
  rw [Outcome.merge_eq]
  split
  · exact .pass
  · next hall =>
    obtain ⟨o, ho, hfailed⟩ : ∃ o ∈ checks.map (fun c => (c v false).value), o.valid = false := by
      simpa using hall
    obtain ⟨c, hc, rfl⟩ := List.mem_map.mp ho
    have herrors := (parts c hc _ (returns c hc).result_eq).mpr hfailed
    refine .fail (Failures.merge_ne_nil_iff.mpr ⟨_, ?_, herrors⟩)
    exact List.mem_map_of_mem (List.mem_filter.mpr ⟨ho, by simp [hfailed]⟩)

mutual

/-- Plain, a rule that fails reports something. -/
theorem Rule.plain_explained (r : Rule) (given : r.AllGiven Check.Explains) (v : Value) :
    Run.Ensures Outcome.Explained (r.check v false) := by
  cases r with
  | null => exact .ret .pass
  | leaf l => exact fun o ho => (l.check_under v false o ho).explained
  | fixed r => exact fun o ho => (r.check_under v false o ho).explained
  | given check => exact given v false
  | several c rules =>
    by_cases hc : c = .compose
    · subst hc
      exact Connective.compose_explained (Rule.checks_plain_explained rules given v)
    · exact Connective.check_explained hc
  | negation r => exact Check.negate_explained _ v false
  | demands ds =>
    rw [Rule.check]
    split
    · exact .andThen fun failed => .pure (demandsOutcome_under failed).explained
    · exact .ret .pass
termination_by structural r

theorem Rule.checks_plain_explained (rules : List Rule) (given : Rule.EachGiven Check.Explains rules)
    (v : Value) :
    ∀ c ∈ Rule.checks rules, Run.Ensures Outcome.Explained (c v false) := by
  cases rules with
  | nil => exact nofun
  | cons r rest =>
    refine List.forall_mem_cons.mpr ⟨Rule.plain_explained r given.1 v, ?_⟩
    exact Rule.checks_plain_explained rest given.2 v
termination_by structural rules

end

/-! ### Demands -/

/-- A demand requires some field of a value that has its trigger. -/
def Demand.Asks (v : Value) : Demand → Prop
  | .mk trigger required _ => (v.member trigger).isEmpty = false ∧
      ∃ field rest, required = .ok (field :: rest)

/-- What is added to failures does not empty them. -/
theorem requiredFailures_ne_nil {v : Value} {invert : Bool} {fields : List Value}
    {acc out : FieldFailures} (h : (requiredFailures v invert fields acc).result = .ok out)
    (hacc : acc ≠ []) : out ≠ [] := by
  induction fields generalizing acc with
  | nil =>
    cases h
    exact hacc
  | cons field rest ih =>
    cases field with
    | list items => cases h
    | object members => cases h
    | scalar s =>
      refine ih h ?_
      split
      · exact Ordered.insert_ne_nil _ _ _
      · exact hacc

/-- Where nothing required is missing, each required field is there when inverted. -/
theorem requiredFailures_inverted {v : Value} {field : Value} {rest : List Value}
    {out : FieldFailures}
    (plain : (requiredFailures v false (field :: rest) []).result = .ok [])
    (inverted : (requiredFailures v true (field :: rest) []).result = .ok out) : out ≠ [] := by
  cases field with
  | list items => cases plain
  | object members => cases plain
  | scalar s =>
    unfold requiredFailures at plain inverted
    cases hpresent : (v.member s).isEmpty with
    | true =>
      rw [hpresent] at plain
      exact absurd rfl (requiredFailures_ne_nil plain (Ordered.insert_ne_nil _ _ _))
    | false =>
      rw [hpresent] at inverted
      exact requiredFailures_ne_nil inverted (Ordered.insert_ne_nil _ _ _)

theorem Plan.addAll_ne_nil {plans : List Plan} {v : Value} {acc out : FieldFailures}
    (h : (Plan.addAll plans v acc).result = .ok out) (hacc : acc ≠ []) : out ≠ [] := by
  induction plans generalizing acc with
  | nil =>
    cases h
    exact hacc
  | cons p rest ih =>
    obtain ⟨acc', hadd, hrest⟩ := Run.bind_ok_iff.mp h
    refine ih hrest ?_
    cases p with
    | broken field notices fault => cases hadd
    | rules field notices rules =>
      obtain ⟨_, -, hadd⟩ := Run.bind_ok_iff.mp hadd
      obtain ⟨failed, -, hadd⟩ := Run.bind_ok_iff.mp hadd
      cases hadd
      rw [ne_eq, ← List.isEmpty_iff, addFailures_isEmpty, List.isEmpty_eq_false_iff.mpr hacc]
      simp

/-- A demand that fails nothing plain fails something inverted when it asks for a field. -/
theorem Demand.inverted_ne_nil_iff {d : Demand} {v : Value} {out : List (Scalar × Value)}
    (plain : (Demand.check d v false).result = .ok [])
    (inverted : (Demand.check d v true).result = .ok out) : out ≠ [] ↔ d.Asks v := by
  cases d with
  | mk trigger required plans =>
    rw [Demand.check] at plain inverted
    cases htrigger : (v.member trigger).isEmpty with
    | true =>
      rw [htrigger, if_pos rfl] at inverted
      cases inverted
      simp [Asks, htrigger]
    | false =>
      rw [htrigger, if_neg Bool.false_ne_true] at plain inverted
      obtain ⟨fields, hfields, plain⟩ := Run.bind_ok_iff.mp plain
      obtain ⟨acc, hacc, plain⟩ := Run.bind_ok_iff.mp plain
      obtain ⟨all, hall, hnone⟩ := Run.bind_ok_iff.mp plain
      obtain ⟨fields', hfields', inverted⟩ := Run.bind_ok_iff.mp inverted
      obtain ⟨acc', hacc', inverted⟩ := Run.bind_ok_iff.mp inverted
      obtain ⟨all', hall', hout⟩ := Run.bind_ok_iff.mp inverted
      cases hfields.symm.trans hfields'
      have hrequired : required = .ok fields := hfields
      -- plain nothing failed, neither a required field nor a rule of a field
      obtain rfl : all = [] := by
        by_contra hne
        rw [if_neg (by simpa using hne)] at hnone
        cases hnone
      obtain rfl : acc = [] := by
        by_contra hne
        exact Plan.addAll_ne_nil hall hne rfl
      have hsame : out ≠ [] ↔ all' ≠ [] := by
        cases hout
        cases all' <;> simp
      rw [hsame, Asks, hrequired]
      cases fields with
      | nil =>
        -- the rules of fields are evaluated plain either way
        cases hacc'
        cases hall.symm.trans hall'
        simp
      | cons field rest =>
        have hne := Plan.addAll_ne_nil hall' (requiredFailures_inverted hacc hacc')
        simp [htrigger, hne]

theorem Demand.checks_inverted_ne_nil_iff {ds : List Demand} {v : Value}
    {out : List (Scalar × Value)} (plain : (Demand.checks ds v false).result = .ok [])
    (inverted : (Demand.checks ds v true).result = .ok out) : out ≠ [] ↔ ∃ d ∈ ds, d.Asks v := by
  induction ds generalizing out with
  | nil =>
    cases inverted
    simp
  | cons d rest ih =>
    obtain ⟨here, hhere, plain⟩ := Run.bind_ok_iff.mp plain
    obtain ⟨more, hmore, plain⟩ := Run.bind_ok_iff.mp plain
    obtain ⟨here', hhere', inverted⟩ := Run.bind_ok_iff.mp inverted
    obtain ⟨more', hmore', inverted⟩ := Run.bind_ok_iff.mp inverted
    obtain ⟨rfl, rfl⟩ := List.append_eq_nil_iff.mp (Except.ok.inj plain)
    cases inverted
    rw [List.exists_mem_cons_iff, ← Demand.inverted_ne_nil_iff hhere hhere', ← ih hmore hmore',
      ne_eq, List.append_eq_nil_iff, not_and_or]

/-! ### Inverted outcomes -/

mutual

/-- A rule that passes a value has something to tell when it is inverted. -/
def Rule.Tells (v : Value) : Rule → Prop
  | .null | .fixed _ => False
  | .leaf l => l.skips v = false
  | .given check => (check v true).Yields fun o => o.valid = false
  | .several c rules => c ≠ .compose ∨ Rule.SomeTells v rules
  | .negation r => v.isEmpty = false ∧ (r.check v false).Yields fun o => o.valid = false
  | .demands ds => v.isObject = true ∧ ∃ d ∈ ds, d.Asks v
termination_by structural r => r

def Rule.SomeTells (v : Value) : List Rule → Prop
  | [] => False
  | r :: rest => Rule.Tells v r ∨ Rule.SomeTells v rest
termination_by structural rs => rs

end

theorem Rule.someTells_iff {v : Value} {rules : List Rule} :
    Rule.SomeTells v rules ↔ ∃ r ∈ rules, r.Tells v := by
  induction rules with
  | nil => simp [Rule.SomeTells]
  | cons r rest ih => rw [Rule.SomeTells, ih, List.exists_mem_cons_iff]

/-- Inverted, a rule that passes plain reports something when it has something to tell. -/
def Rule.TellsInverted (v : Value) (r : Rule) : Prop :=
  ∀ plain inverted : Outcome, (r.check v false).result = .ok plain → plain.valid = true →
    (r.check v true).result = .ok inverted → (inverted.errors ≠ [] ↔ r.Tells v)

theorem Leaf.tellsInverted (l : Leaf) (v : Value) : Rule.TellsInverted v (.leaf l) := by
  intro plain inverted hp hpass hi
  have hexplained : inverted.errors ≠ [] ↔ inverted.valid = false :=
    (l.check_under v true inverted hi).explained
  rw [hexplained]
  cases hskip : l.skips v with
  | true =>
    have hpassed : l.check v true = .ret .pass := by rw [Leaf.check, if_pos hskip]
    have hi' : (l.check v true).result = .ok inverted := hi
    rw [hpassed] at hi'
    cases hi'
    simp [Outcome.pass, Rule.Tells, hskip]
  | false =>
    have hinverts := Leaf.check_inverts hskip plain inverted hp hi
    simp [hinverts, hpass, Rule.Tells, hskip]

theorem Fixed.tellsInverted (r : Fixed) (v : Value) : Rule.TellsInverted v (.fixed r) := by
  intro plain inverted hp hpass hi
  have hsame : inverted = plain := Except.ok.inj (hi.symm.trans hp)
  have hquiet : inverted.errors = [] :=
    (r.check_under v true inverted hi).explained.quiet (hsame ▸ hpass)
  simp [hquiet, Rule.Tells]

/-- A given evaluation has something to tell when it fails inverted. -/
theorem Check.tellsInverted {check : Check} (explains : check.Explains) (v : Value) :
    Rule.TellsInverted v (.given check) := by
  intro plain inverted _ _ hi
  have hi' : (check v true).result = .ok inverted := hi
  have hexplained : inverted.errors ≠ [] ↔ inverted.valid = false := explains v true inverted hi'
  simp [hexplained, Rule.Tells, Run.Yields, hi']

/-- Inverted, a connective with a marker fails when it passes plain, and leaves the marker. -/
theorem Connective.tellsInverted {c : Connective} (marked : c ≠ .compose) (rules : List Rule)
    (v : Value) : Rule.TellsInverted v (.several c rules) := by
  intro plain inverted hp hpass hi
  have hinverts := Connective.check_inverts c _ v plain inverted hp hi
  have hexplained : inverted.errors ≠ [] ↔ inverted.valid = false :=
    Connective.check_explained marked inverted hi
  rw [hexplained]
  simp [hinverts, hpass, Rule.Tells, marked]

/-- Inverted, a composition that passes plain reports what its parts do. -/
theorem Rule.compose_tellsInverted {rules : List Rule} (given : ∀ r ∈ rules, r.AllGiven Check.Explains)
    {v : Value} (parts : ∀ r ∈ rules, r.TellsInverted v) :
    Rule.TellsInverted v (.several .compose rules) := by
  intro plain inverted hp hpass hi
  have hp' : (Connective.compose.check (rules.map Rule.check) v false).result = .ok plain := by
    rw [← Rule.checks_eq_map]
    exact hp
  have hi' : (Connective.compose.check (rules.map Rule.check) v true).result = .ok inverted := by
    rw [← Rule.checks_eq_map]
    exact hi
  obtain ⟨returns, rfl⟩ := Connective.compose_plain_ok_iff.mp hp'
  have hall : (rules.map Rule.check).all (fun c => (c v false).value.valid) = true := by
    rw [Outcome.merge_valid, List.all_map] at hpass
    exact hpass
  obtain ⟨-, hif⟩ := Connective.compose_inverted_ok_iff.mp hi'
  rw [if_pos hall] at hif
  obtain ⟨returns', rfl⟩ := hif
  rw [List.forall_mem_map] at returns returns'
  rw [List.all_map, List.all_eq_true] at hall
  have hpart : ∀ r ∈ rules, ((r.check v true).value.errors ≠ [] ↔ r.Tells v) := fun r hr =>
    parts r hr _ _ (returns r hr).result_eq (hall r hr) (returns' r hr).result_eq
  show Failures.merge _ ≠ [] ↔ _
  rw [Failures.merge_ne_nil_iff, Rule.Tells, Rule.someTells_iff]
  constructor
  · rintro ⟨m, hm, hne⟩
    obtain ⟨o, ho, rfl⟩ := List.mem_map.mp hm
    obtain ⟨c, hc, rfl⟩ := List.mem_map.mp (List.mem_of_mem_filter ho)
    obtain ⟨r, hr, rfl⟩ := List.mem_map.mp hc
    exact .inr ⟨r, hr, (hpart r hr).mp hne⟩
  · rintro (hmarked | ⟨r, hr, htells⟩)
    · exact absurd rfl hmarked
    · have hne := (hpart r hr).mpr htells
      have hfailed : (r.check v true).value.valid = false := by
        by_contra hvalid
        exact hne (Rule.check_quiet (given r hr) v true _ (returns' r hr).result_eq (by simpa using hvalid))
      refine ⟨_, List.mem_map_of_mem (List.mem_filter.mpr ⟨?_, ?_⟩), hne⟩
      · exact List.mem_map_of_mem (List.mem_map_of_mem hr)
      · simp [hfailed]

/-- A negation reports inverted what its part fails plain. -/
theorem Rule.negation_tellsInverted (r : Rule) (v : Value) :
    Rule.TellsInverted v (.negation r) := by
  intro plain inverted hp hpass hi
  have hexplained : inverted.errors ≠ [] ↔ inverted.valid = false :=
    Check.negate_explained r.check v true inverted hi
  rw [hexplained]
  cases hv : v.isEmpty with
  | true =>
    have hi' : (Check.negate r.check v true).result = .ok inverted := hi
    rw [Check.negate_of_empty hv] at hi'
    cases hi'
    simp [Outcome.pass, Rule.Tells, hv]
  | false =>
    obtain ⟨o, ho, hvalid⟩ := Check.negate_valid hv hi
    have ho' : (r.check v false).result = .ok o := ho
    simp [hvalid, Rule.Tells, hv, Run.Yields, ho']

theorem Rule.demands_tellsInverted (ds : List Demand) (v : Value) :
    Rule.TellsInverted v (.demands ds) := by
  intro plain inverted hp hpass hi
  rw [Rule.check] at hp hi
  cases hobject : v.isObject with
  | false =>
    rw [hobject, if_neg Bool.false_ne_true] at hi
    cases hi
    simp [Outcome.pass, Rule.Tells, hobject]
  | true =>
    rw [hobject, if_pos rfl] at hp hi
    obtain ⟨failed, hfailed, hp⟩ := Run.bind_ok_iff.mp hp
    obtain ⟨out, hout, hi⟩ := Run.bind_ok_iff.mp hi
    cases hp
    cases hi
    obtain rfl : failed = [] := by
      cases failed with
      | nil => rfl
      | cons p rest => cases hpass
    have hasks := Demand.checks_inverted_ne_nil_iff hfailed hout
    rw [Rule.Tells, hobject, ← hasks]
    cases out <;> simp [demandsOutcome, Outcome.pass, Outcome.fail]

mutual

theorem Rule.tellsInverted (r : Rule) (given : r.AllGiven Check.Explains) (v : Value) :
    r.TellsInverted v := by
  cases r with
  | null =>
    intro plain inverted hp hpass hi
    cases hi
    simp [Outcome.pass, Rule.Tells]
  | leaf l => exact l.tellsInverted v
  | fixed r => exact r.tellsInverted v
  | given check => exact Check.tellsInverted given v
  | several c rules =>
    by_cases hc : c = .compose
    · subst hc
      exact Rule.compose_tellsInverted (Rule.eachGiven_iff.mp given) (Rule.all_tellInverted rules given v)
    · exact Connective.tellsInverted hc rules v
  | negation r => exact Rule.negation_tellsInverted r v
  | demands ds => exact Rule.demands_tellsInverted ds v
termination_by structural r

theorem Rule.all_tellInverted (rules : List Rule) (given : Rule.EachGiven Check.Explains rules)
    (v : Value) : ∀ r ∈ rules, r.TellsInverted v := by
  cases rules with
  | nil => exact nofun
  | cons r rest =>
    exact List.forall_mem_cons.mpr
      ⟨Rule.tellsInverted r given.1 v, Rule.all_tellInverted rest given.2 v⟩
termination_by structural rules

end

end Rulebook
