import Rulebook.Proofs.Rule.Making

/-!
Evaluations that are given. A rule can have evaluations from outside the program anywhere in it. What they
all have, the rules that a registry builds have as well when its makers give no others: the keywords give
none.
-/

namespace Rulebook

mutual

/-- All evaluations that are given in a rule have a property. -/
def Rule.AllGiven (P : Check → Prop) : Rule → Prop
  | .null | .leaf _ | .fixed _ => True
  | .given check => P check
  | .several _ rules => Rule.EachGiven P rules
  | .negation r => Rule.AllGiven P r
  | .demands ds => Demand.EachGiven P ds
termination_by structural r => r

def Rule.EachGiven (P : Check → Prop) : List Rule → Prop
  | [] => True
  | r :: rest => Rule.AllGiven P r ∧ Rule.EachGiven P rest
termination_by structural rs => rs

def Demand.EachGiven (P : Check → Prop) : List Demand → Prop
  | [] => True
  | d :: rest => Demand.AllGiven P d ∧ Demand.EachGiven P rest
termination_by structural ds => ds

def Demand.AllGiven (P : Check → Prop) : Demand → Prop
  | .mk _ _ plans => Plan.EachGiven P plans
termination_by structural d => d

def Plan.EachGiven (P : Check → Prop) : List Plan → Prop
  | [] => True
  | p :: rest => Plan.AllGiven P p ∧ Plan.EachGiven P rest
termination_by structural ps => ps

def Plan.AllGiven (P : Check → Prop) : Plan → Prop
  | .rules _ _ rules => Rule.EachGiven P rules
  | .broken _ _ _ => True
termination_by structural p => p

end

/-- A maker makes only rules whose given evaluations have a property. -/
def Maker.AllGiven (P : Check → Prop) : Maker → Prop
  | .keyword _ => True
  | .function make => ∀ second param, Run.Ensures (Rule.AllGiven P) (make second param)

/-- All evaluations that are given in the rules of a registry have a property. -/
def Registry.AllGiven (P : Check → Prop) (r : Registry Maker) : Prop :=
  ∀ e ∈ r.entries, e.2.AllGiven P

variable {P : Check → Prop}

theorem Rule.eachGiven_iff {rules : List Rule} :
    Rule.EachGiven P rules ↔ ∀ r ∈ rules, r.AllGiven P := by
  induction rules with
  | nil => simp [Rule.EachGiven]
  | cons r rest ih => rw [Rule.EachGiven, ih, List.forall_mem_cons]

/-- The registry of keywords gives no evaluation. -/
theorem Registry.builtin_allGiven (P : Check → Prop) : builtin.AllGiven P := by
  intro e he
  obtain ⟨k, -, rfl⟩ := List.mem_map.mp he
  trivial

/-! ### What is built -/

/-- A rule without parts has no given evaluation. -/
theorem Rule.ReportsAs.allGiven {name : String} {r : Rule} (h : r.ReportsAs name)
    (hname : name ≠ "dependencies") : r.AllGiven P := by
  cases h with
  | null | leaf _ | fixed _ => trivial
  | demands ds heq => exact absurd heq.symm hname

theorem Keyword.name_ne_dependencies {k : Keyword} (h : k ≠ .dependencies) : k.name ≠ "dependencies" := by
  cases k with
  | dependencies => exact absurd rfl h
  | _ => decide

/-- The rules that are made from a document have only given evaluations with a property. -/
def Built.AllGiven (P : Check → Prop) (b : Built) : Prop := ∀ p ∈ b.rules, p.2.AllGiven P

theorem Built.AllGiven.append {a b : Built} (ha : a.AllGiven P) (hb : b.AllGiven P) :
    (a.append b).AllGiven P := by
  intro p hp
  exact (List.mem_append.mp hp).elim (ha p) (hb p)

theorem Plan.ofRun_allGiven {field : Scalar} {x : Run Built} (h : Run.Ensures (Built.AllGiven P) x) :
    (Plan.ofRun field x).AllGiven P := by
  unfold Plan.ofRun
  split
  · next b hb => exact Rule.eachGiven_iff.mpr (List.forall_mem_map.mpr (h b hb))
  · trivial

/-- A scope of demands, if there is one, makes only rules whose given evaluations have a property. -/
def ScopeGiven (P : Check → Prop) (scope : Option (List (String × Maker))) : Prop :=
  ∀ makers, scope = some makers → ∀ e ∈ makers, e.2.AllGiven P

variable {makers : List (String × Maker)}

/-- An entry of a document is made by its maker, or it is a demand. -/
theorem buildEntry_allGiven (hmakers : ∀ e ∈ makers, e.2.AllGiven P) (document : List (Scalar × Value))
    (name : String) (param : Value) {demands : Option (List (String × Maker)) → Rule}
    (hdemands : ∀ scope, ScopeGiven P scope → (demands scope).AllGiven P) :
    Run.Ensures (Built.AllGiven P) (buildEntry makers document name param demands) := by
  have hone : ∀ {r : Rule}, r.AllGiven P → Built.AllGiven P ⟨[(name, r)], []⟩ :=
    fun hr => List.forall_mem_singleton.mpr hr
  unfold buildEntry
  split
  · exact .ret nofun
  · split
    · exact .ret nofun
    · next make hget =>
      obtain ⟨name', hmem, -⟩ := Ordered.mem_of_get? hget
      exact .bind (hmakers _ hmem _ param) fun r hr => .pure (hone hr)
    · refine .ret (hone (hdemands _ fun ms hms e he => ?_))
      -- the scope is the registry, the keywords or nothing
      unfold scopeFor at hms
      split at hms
      · cases hms
        exact Registry.builtin_allGiven P e he
      · cases hms
      · cases hms
        exact hmakers e he
    · next k hk _ =>
      refine .bind (Keyword.makeWith_reportsAs k _ param) fun r hr => .pure (hone (hr.allGiven ?_))
      exact Keyword.name_ne_dependencies fun heq => hk heq

mutual

/-- What a document makes has only given evaluations that the makers give. -/
theorem buildMembers_allGiven {makers : List (String × Maker)} (hmakers : ∀ e ∈ makers, e.2.AllGiven P)
    (document ms : List (Scalar × Value)) :
    Run.Ensures (Built.AllGiven P) (buildMembers makers document ms) := by
  cases ms with
  | nil => exact .ret nofun
  | cons m rest =>
    obtain ⟨key, param⟩ := m
    refine .bind (buildEntry_allGiven hmakers document key.plainText param fun scope hscope =>
      demandsRule_allGiven hscope param) fun here hhere => ?_
    exact .bind (buildMembers_allGiven hmakers document rest) fun more hmore =>
      .pure (hhere.append hmore)
termination_by structural ms

theorem demandsRule_allGiven {scope : Option (List (String × Maker))} (h : ScopeGiven P scope)
    (spec : Value) : (demandsRule scope spec).AllGiven P := by
  cases spec with
  | scalar s => trivial
  | list items => trivial
  | object ms =>
    cases ms with
    | nil => trivial
    | cons m rest => exact demandsOf_allGiven h (m :: rest)
termination_by structural spec

theorem demandsOf_allGiven {scope : Option (List (String × Maker))} (h : ScopeGiven P scope)
    (ms : List (Scalar × Value)) : Demand.EachGiven P (demandsOf scope ms) := by
  cases ms with
  | nil => trivial
  | cons m rest =>
    obtain ⟨trigger, entry⟩ := m
    exact ⟨demandOf_allGiven h trigger entry, demandsOf_allGiven h rest⟩
termination_by structural ms

theorem demandOf_allGiven {scope : Option (List (String × Maker))} (h : ScopeGiven P scope)
    (trigger : Scalar) (entry : Value) : (demandOf scope trigger entry).AllGiven P := by
  cases entry with
  | scalar s => trivial
  | list items => trivial
  | object members => exact propertyPlans_allGiven h members
termination_by structural entry

theorem propertyPlans_allGiven {scope : Option (List (String × Maker))} (h : ScopeGiven P scope)
    (ms : List (Scalar × Value)) : Plan.EachGiven P (propertyPlans scope ms) := by
  cases ms with
  | nil => trivial
  | cons m rest =>
    obtain ⟨key, v⟩ := m
    rw [propertyPlans]
    split
    · exact fieldPlans_allGiven h v
    · exact propertyPlans_allGiven h rest
termination_by structural ms

theorem fieldPlans_allGiven {scope : Option (List (String × Maker))} (h : ScopeGiven P scope)
    (v : Value) : Plan.EachGiven P (fieldPlans scope v) := by
  cases v with
  | scalar s => trivial
  | list items => trivial
  | object members => exact fieldPlansOf_allGiven h members
termination_by structural v

theorem fieldPlansOf_allGiven {scope : Option (List (String × Maker))} (h : ScopeGiven P scope)
    (ms : List (Scalar × Value)) : Plan.EachGiven P (fieldPlansOf scope ms) := by
  cases ms with
  | nil => trivial
  | cons m rest =>
    obtain ⟨field, requirements⟩ := m
    exact ⟨fieldPlan_allGiven h field requirements, fieldPlansOf_allGiven h rest⟩
termination_by structural ms

theorem fieldPlan_allGiven {scope : Option (List (String × Maker))} (h : ScopeGiven P scope)
    (field : Scalar) (requirements : Value) : (fieldPlan scope field requirements).AllGiven P := by
  cases requirements with
  | scalar s => trivial
  | list items => trivial
  | object members =>
    cases scope with
    | none => trivial
    | some makers => exact Plan.ofRun_allGiven (buildMembers_allGiven (h makers rfl) members members)
termination_by structural requirements

end

/-- What a registry builds has only given evaluations that its makers give. -/
theorem Registry.AllGiven.build {r : Registry Maker} (h : r.AllGiven P) (document : List (Scalar × Value)) :
    Run.Ensures (Built.AllGiven P) (r.build document) := buildMembers_allGiven h document document

end Rulebook
