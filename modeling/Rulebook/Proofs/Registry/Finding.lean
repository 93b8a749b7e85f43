import Rulebook.Proofs.Registry.Accounting
import Rulebook.Proofs.Registry.Calls

/-!
Finding what was registered. A registration keeps a maker under its bare name: there it is found, the registry
contains the name, and every document that uses the name has its rule made by the maker. All other names are looked up
as before. The names of a registry that calls lead to are bare, so no spelling with blanks around it is found, not even
the one that was given.
-/

namespace Rulebook

namespace Registry

variable {α : Type} {r r' : Registry α} {name other : String} {entry : α}

/-- What a registry takes is found under its bare name. -/
theorem lookup?_of_register (h : r.register name (.callable entry) = .ok r') :
    r'.lookup? (bareName name) = some entry := by
  obtain ⟨-, -, hnew, _, ⟨⟩, rfl⟩ := register_ok_iff.mp h
  have hnone := (Ordered.get?_eq_none_iff (Ordered.told_of_lawful r.entries)).mpr hnew
  show Ordered.get? _ (r.entries ++ [_]) = _
  rw [Ordered.get?_append, hnone, Option.none_or, Ordered.get?, if_pos (beq_self_eq_true _)]

/-- All other names are looked up as before. -/
theorem lookup?_of_register_of_ne (h : r.register name (.callable entry) = .ok r') (hother : other ≠ bareName name) :
    r'.lookup? other = r.lookup? other := by
  obtain ⟨-, -, -, _, ⟨⟩, rfl⟩ := register_ok_iff.mp h
  exact Ordered.get?_append_of_not_mem (by simpa using hother)

/-- A registry with bare names has nothing under a name with blanks around it. -/
theorem WellFormed.lookup?_eq_none (h : r.WellFormed) (hname : bareName name ≠ name) : r.lookup? name = none := by
  refine (Ordered.get?_eq_none_iff (Ordered.told_of_lawful r.entries)).mpr fun hmem => ?_
  obtain ⟨p, hp, rfl⟩ := List.mem_map.mp hmem
  exact hname (h.bare p hp)

end Registry

/-! ### Documents that use a name -/

section

variable {makers : List (String × Maker)} {document : List (Scalar × Value)}

/-- The members of a document are made one after another. -/
theorem buildMembers_append (before after : List (Scalar × Value)) :
    buildMembers makers document (before ++ after) = do
      let a ← buildMembers makers document before
      let b ← buildMembers makers document after
      return a.append b := by
  induction before with
  | nil =>
    show _ = pure (⟨[], []⟩ : Built) >>= _
    rw [Run.pure_bind]
    show _ = buildMembers makers document after >>= pure
    rw [Run.bind_pure]
    rfl
  | cons m rest ih =>
    rw [List.cons_append, buildMembers, ih, buildMembers]
    simp only [Run.bind_assoc, Run.pure_bind, Built.append, List.append_assoc]

/-- An entry that is no flag is made by the maker of its name, in the place of the entry. -/
theorem buildMembers_of_maker {name : String} {param : Value} {maker : Maker}
    (found : Ordered.get? name makers = some maker) (entry : isFlag name param = false)
    (before after : List (Scalar × Value)) :
    buildMembers makers document (before ++ (.text name, param) :: after) = do
      let a ← buildMembers makers document before
      let rule ← maker.make makers (secondFor name document) param
      let b ← buildMembers makers document after
      return ⟨a.rules ++ (name, rule) :: b.rules, a.unknown ++ b.unknown⟩ := by
  have hentry : buildMembers makers document ((.text name, param) :: after) = do
      let rule ← maker.make makers (secondFor name document) param
      let b ← buildMembers makers document after
      return ⟨(name, rule) :: b.rules, b.unknown⟩ := by
    rw [buildMembers]
    show (entryRun makers document (.text name, param) >>= _) = _
    rw [entryRun_of_maker entry found]
    simp only [Run.bind_assoc, Run.pure_bind]
    rfl
  rw [buildMembers_append, hentry]
  simp only [Run.bind_assoc, Run.pure_bind]
  rfl

end

namespace Registry.Store

/-- In a registry that calls lead to, what is registered is found under its bare name, which the registry then
contains; a document that uses the bare name has its rule made by what was registered; every other name is looked up as
before, and a spelling with blanks around it is not found. -/
theorem register_finds (calls : List Call) (place : Nat) (r : Registry Maker) (name : String) (maker : Maker)
    (hr : (afterAll [] calls)[place]? = some r)
    (returns : ∃ a, (run (perform (.register place name (.callable maker))) (afterAll [] calls)).1 = .ok a) :
    ∃ r', (after (afterAll [] calls) (.register place name (.callable maker)))[place]? = some r' ∧
      r'.lookup? (bareName name) = some maker ∧ r'.contains (bareName name) = true ∧
      (∀ before param after,
        ¬ ((bareName name = "exclusiveMinimum" ∨ bareName name = "exclusiveMaximum") ∧ ∃ on, param = .bool on) →
        let document := before ++ (.text (bareName name), param) :: after
        r'.build document = do
          let a ← buildMembers r'.entries document before
          let rule ← maker.make r'.entries (secondFor (bareName name) document) param
          let b ← buildMembers r'.entries document after
          return ⟨a.rules ++ (bareName name, rule) :: b.rules, a.unknown ++ b.unknown⟩) ∧
      (∀ other, other ≠ bareName name → r'.lookup? other = r.lookup? other) ∧
      (bareName name ≠ name → r'.lookup? name = none) := by
  have hempty : Sound [] [] := fun r hr => absurd hr List.not_mem_nil
  have hsound := hempty.afterAll calls
  have hrun : run (register place name (.callable maker)) (afterAll [] calls) = _ :=
    run_register name (.callable maker)
  rw [getD_of_some hr] at hrun
  obtain ⟨a, returns⟩ := returns
  rw [perform_register, run_return, hrun] at returns
  cases hregister : r.register name (.callable maker) with
  | error f =>
    rw [hregister] at returns
    cases returns
  | ok r' =>
    rw [hregister] at hrun
    have hafter : (after (afterAll [] calls) (.register place name (.callable maker)))[place]? = some r' := by
      rw [after, perform_register, run_return, hrun]
      exact List.getElem?_set_self (List.getElem?_eq_some_iff.mp hr).1
    have hfound := lookup?_of_register hregister
    refine ⟨r', hafter, hfound, ?_, fun before param after hflag => ?_, fun other => ?_, fun hname => ?_⟩
    · rw [Registry.contains, hfound]
      rfl
    · exact buildMembers_of_maker hfound (Bool.not_eq_true _ ▸ mt isFlag_iff.mp hflag) before after
    · exact lookup?_of_register_of_ne hregister
    · exact (((hsound r (List.mem_of_getElem? hr)).wellFormed).register hregister).lookup?_eq_none hname

/-- A name with a blank before it is registered bare, and a document that uses the bare name has its rule made. -/
theorem register_finds_even :
    let even : Maker := .keyword .multipleOf
    ∃ r', (after (afterAll [] [.construct []]) (.register 0 " even" (.callable even)))[0]? = some r' ∧
      r'.lookup? "even" = some even ∧ ∃ b, (r'.build [(.text "even", .int 2)]).result = .ok b ∧
        b.rules.map (·.1) = ["even"] := by
  intro even
  obtain ⟨r', hafter, hfound, -, hbuild, -⟩ :=
    register_finds [.construct []] 0 empty " even" even rfl ⟨.nothing, rfl⟩
  refine ⟨r', hafter, hfound, ⟨[("even", .leaf (.divisor (.int 2)))], []⟩, ?_, rfl⟩
  have hdocument := hbuild [] (.int 2) [] fun ⟨_, _, h⟩ => by cases h
  exact (congrArg Run.result hdocument).trans rfl

/-- The spelling that was given is not found. -/
theorem register_loses_spelling :
    let even : Maker := .keyword .multipleOf
    let rs := afterAll [] [.construct []]
    rs[0]? = some empty ∧ (empty : Registry Maker).frozen = false ∧
      (run (perform (.register 0 " even" (.callable even))) rs).1 = .ok .nothing ∧
      ∃ r', (after rs (.register 0 " even" (.callable even)))[0]? = some r' ∧ r'.lookup? " even" = none := by
  intro even rs
  exact ⟨rfl, rfl, rfl, _, rfl, rfl⟩

end Registry.Store

end Rulebook
