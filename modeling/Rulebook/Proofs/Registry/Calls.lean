import Rulebook.Proofs.Registry.Registration
import Rulebook.Registry.Calls

/-!
What calls keep. Whatever calls are made, every registry in the store is well formed and each of its
entries was offered under a name that is bare the same. So the copy in an extension never fails, and a
call changes no registry but the one that it is to change, unless that one is frozen.
-/

namespace Rulebook.Registry

/-! ### Several offers, some of them refused -/

section

variable {α : Type} {r r' : Registry α} {offers : List (String × Offer α)}

/-- The registry after the offers before the first that it refuses. -/
def upTo (r : Registry α) : List (String × Offer α) → Registry α
  | [] => r
  | (name, offer) :: rest =>
    match r.register name offer with
    | .ok r' => r'.upTo rest
    | .error _ => r

theorem upTo_of_ok (h : r.registerAll offers = .ok r') : r.upTo offers = r' := by
  induction offers generalizing r with
  | nil =>
    cases h
    rfl
  | cons o rest ih =>
    obtain ⟨name, offer⟩ := o
    obtain ⟨r₁, h₁, hrest⟩ := Except.bind_ok_iff.mp h
    rw [upTo, h₁]
    exact ih hrest

/-- The offers that are taken are entries that the registry takes. -/
theorem upTo_eq_adding (nodup : (r.entries.map (·.1)).Nodup) : ∃ entries,
    Offer.ofEntries entries ⊆ offers ∧ r.Accepts entries ∧ r.upTo offers = r.adding entries := by
  induction offers generalizing r with
  | nil => exact ⟨[], List.Subset.refl _, .nil nodup, (adding_nil r).symm⟩
  | cons o rest ih =>
    obtain ⟨name, offer⟩ := o
    cases h₁ : r.register name offer with
    | error f =>
      refine ⟨[], List.nil_subset _, .nil nodup, ?_⟩
      rw [upTo, h₁, adding_nil]
    | ok r₁ =>
      obtain ⟨-, named, hnew, entry, rfl, rfl⟩ := register_ok_iff.mp h₁
      have nodup₁ := (nodup_adding_iff (p := (name, entry)) nodup).mpr hnew
      obtain ⟨entries, hsub, accepts, heq⟩ := ih (r := r.adding [(name, entry)]) nodup₁
      refine ⟨(name, entry) :: entries, List.cons_subset_cons _ hsub,
        (accepts_cons_iff nodup).mpr ⟨named, hnew, accepts⟩, ?_⟩
      rw [upTo, h₁, adding_cons]
      exact heq

/-! ### Where entries come from -/

/-- A well-formed registry, each of whose entries is among some offers. -/
structure Sourced (offers : List (String × Offer α)) (r : Registry α) : Prop where
  wellFormed : r.WellFormed
  offered : ∀ p ∈ r.entries, ∃ name, (name, .callable p.2) ∈ offers ∧ bareName name = p.1

namespace Sourced

theorem empty : Sourced offers (empty : Registry α) :=
  ⟨wellFormed_empty, by simp [Registry.empty]⟩

theorem mono {offers' : List (String × Offer α)} (h : Sourced offers r) (hsub : offers ⊆ offers') :
    Sourced offers' r := by
  refine ⟨h.wellFormed, fun p hp => ?_⟩
  obtain ⟨name, hname, hbare⟩ := h.offered p hp
  exact ⟨name, hsub hname, hbare⟩

theorem freeze (h : Sourced offers r) : Sourced offers r.freeze :=
  ⟨⟨h.wellFormed.bare, h.wellFormed.named, h.wellFormed.nodup⟩, h.offered⟩

/-- A copy that is not frozen has the same entries. -/
theorem copy (h : Sourced offers r) : Sourced offers (⟨r.entries, false⟩ : Registry α) :=
  ⟨⟨h.wellFormed.bare, h.wellFormed.named, h.wellFormed.nodup⟩, h.offered⟩

theorem adding {entries : List (String × α)} (h : Sourced offers r) (accepts : r.Accepts entries)
    (hsub : Offer.ofEntries entries ⊆ offers) : Sourced offers (r.adding entries) := by
  refine ⟨h.wellFormed.of_accepts accepts, fun p hp => ?_⟩
  rcases List.mem_append.mp hp with hp | hp
  · exact h.offered p hp
  · obtain ⟨q, hq, rfl⟩ := List.mem_map.mp hp
    exact ⟨q.1, hsub (List.mem_map_of_mem hq), rfl⟩

theorem upTo {more : List (String × Offer α)} (h : Sourced offers r) (hsub : more ⊆ offers) :
    Sourced offers (r.upTo more) := by
  obtain ⟨entries, hentries, accepts, heq⟩ := upTo_eq_adding h.wellFormed.nodup
  rw [heq]
  exact h.adding accepts (List.Subset.trans hentries hsub)

theorem register {name : String} {offer : Offer α} (h : Sourced offers r)
    (hr : r.register name offer = .ok r') (hmem : (name, offer) ∈ offers) : Sourced offers r' := by
  have hupTo : r.upTo [(name, offer)] = r' := by
    rw [Registry.upTo, hr]
    rfl
  rw [← hupTo]
  exact h.upTo (List.cons_subset.mpr ⟨hmem, List.nil_subset _⟩)

theorem extend {extra : List (String × Offer α)} (h : Sourced offers r)
    (hr : r.extend extra = .ok r') (hsub : extra ⊆ offers) : Sourced offers r' := by
  obtain ⟨entries, rfl, accepts, rfl⟩ := h.wellFormed.extend_ok_iff.mp hr
  exact (h.adding accepts hsub).freeze

end Sourced

end

/-! ### What an action does -/

namespace Store

variable {rs rs' : Store} {place : Nat} {r r' : Registry Maker}

theorem run_bind {α β : Type} (x : Action α) (f : α → Action β) : run (x >>= f) rs =
    match run x rs with
    | (.ok a, rs') => run (f a) rs'
    | (.error e, rs') => (.error e, rs') := by
  unfold run ExceptT.run
  simp only [bind, ExceptT.bind, ExceptT.mk, StateT.bind, ExceptT.bindCont]
  rcases x rs with ⟨_ | a, rs'⟩
  · rfl
  · rfl

theorem run_return {α β : Type} (x : Action α) (f : α → β) :
    run (x >>= fun a => pure (f a)) rs = ((run x rs).1.map f, (run x rs).2) := by
  rw [run_bind]
  rcases run x rs with ⟨_ | a, rs'⟩
  · rfl
  · rfl

theorem getD_of_some (hr : rs[place]? = some r) : rs.getD place .empty = r := by
  rw [List.getD_eq_getElem?_getD, hr, Option.getD_some]

theorem set_of_some (hr : rs[place]? = some r) : rs.set place r = rs := by
  obtain ⟨h, rfl⟩ := List.getElem?_eq_some_iff.mp hr
  exact List.set_getElem_self h

/-- The registry that was made last is at the place after those before it. -/
theorem set_last (rs : Store) (r r' : Registry Maker) : (rs ++ [r]).set rs.length r' = rs ++ [r'] := by
  simp

theorem run_register (name : String) (offer : Offer Maker) : run (register place name offer) rs =
    match (rs.getD place .empty).register name offer with
    | .ok r' => (.ok (), rs.set place r')
    | .error f => (.error f, rs) := by
  unfold register
  rw [run_bind]
  show run (liftM ((rs.getD place .empty).register name offer) >>= _) rs = _
  rw [run_bind]
  cases (rs.getD place .empty).register name offer with
  | ok r' => rfl
  | error f => rfl

theorem run_freeze (rs : Store) (place : Nat) :
    run (freeze place) rs = (.ok (), rs.set place (rs.getD place .empty).freeze) := rfl

/-- Offers are registered one after another; those before a refused one stay. -/
theorem run_registerAll (hr : rs[place]? = some r) (offers : List (String × Offer Maker)) :
    run (registerAll place offers) rs =
      ((r.registerAll offers).map fun _ => (), rs.set place (r.upTo offers)) := by
  induction offers generalizing rs r with
  | nil => exact Prod.ext rfl (set_of_some hr).symm
  | cons o rest ih =>
    obtain ⟨name, offer⟩ := o
    rw [registerAll, run_bind, run_register, getD_of_some hr, Registry.registerAll, upTo]
    cases r.register name offer with
    | error f => exact Prod.ext rfl (set_of_some hr).symm
    | ok r₁ =>
      have hr₁ : (rs.set place r₁)[place]? = some r₁ :=
        List.getElem?_set_self (List.getElem?_eq_some_iff.mp hr).1
      have hrest := ih hr₁
      rw [List.set_set] at hrest
      exact hrest

theorem run_construct (offers : List (String × Offer Maker)) : run (construct offers) rs =
    ((ofList offers).map fun _ => rs.length, rs ++ [empty.upTo offers]) := by
  have hnew : run new rs = (.ok rs.length, rs ++ [empty]) := rfl
  unfold construct
  rw [run_bind, hnew]
  dsimp only
  rw [run_bind, run_registerAll List.getElem?_concat_length, set_last]
  unfold ofList
  cases empty.registerAll offers with
  | ok r => rfl
  | error f => rfl

theorem extend_eq (place : Nat) (extra : List (String × Offer Maker)) : extend place extra =
    read place >>= fun r => construct (Offer.ofEntries r.entries) >>= fun copy =>
      registerAll copy extra >>= fun _ => freeze copy >>= fun _ => pure copy := rfl

/-- An extension keeps the registry and adds another: the extended one, or, when an offer is refused,
the copy with the offers before it. -/
theorem run_extend (h : (rs.getD place .empty).WellFormed) (extra : List (String × Offer Maker)) :
    run (extend place extra) rs =
      match (rs.getD place .empty).extend extra with
      | .ok r' => (.ok rs.length, rs ++ [r'])
      | .error f => (.error f, rs ++ [upTo ⟨(rs.getD place .empty).entries, false⟩ extra]) := by
  generalize hr : rs.getD place .empty = r at h
  have hread : run (read place) rs = (.ok r, rs) := by
    rw [← hr]
    rfl
  have hcopy : run (construct (Offer.ofEntries r.entries)) rs =
      (.ok rs.length, rs ++ [⟨r.entries, false⟩]) := by
    rw [run_construct, h.ofList_entries, upTo_of_ok h.ofList_entries]
    rfl
  rw [extend_eq, run_bind, hread]
  dsimp only
  rw [run_bind, hcopy]
  dsimp only
  rw [run_bind, run_registerAll List.getElem?_concat_length, set_last, h.extend_eq]
  cases hall : Registry.registerAll ⟨r.entries, false⟩ extra with
  | error f => rfl
  | ok r₁ =>
    rw [upTo_of_ok hall]
    show run (freeze rs.length >>= _) (rs ++ [r₁]) = _
    rw [run_bind, run_freeze, getD_of_some List.getElem?_concat_length, set_last]
    rfl

/-! ### What a call does -/

/-- The ways in which a call leaves a store. -/
inductive Step (rs : Store) : Call → Store → Prop
  | construct (offers : List (String × Offer Maker)) :
      Step rs (.construct offers) (rs ++ [empty.upTo offers])
  | register {place : Nat} {name : String} {offer : Offer Maker} {r : Registry Maker}
      (taken : (rs.getD place .empty).register name offer = .ok r) :
      Step rs (.register place name offer) (rs.set place r)
  | refuse {place : Nat} {name : String} {offer : Offer Maker} {f : Fault}
      (refused : (rs.getD place .empty).register name offer = .error f) :
      Step rs (.register place name offer) rs
  | freeze (place : Nat) : Step rs (.freeze place) (rs.set place (rs.getD place .empty).freeze)
  | extend {place : Nat} {extra : List (String × Offer Maker)} {r : Registry Maker}
      (taken : (rs.getD place .empty).extend extra = .ok r) :
      Step rs (.extend place extra) (rs ++ [r])
  | halfway {place : Nat} {extra : List (String × Offer Maker)} {f : Fault}
      (refused : (rs.getD place .empty).extend extra = .error f) :
      Step rs (.extend place extra) (rs ++ [upTo ⟨(rs.getD place .empty).entries, false⟩ extra])
  | lookup (place : Nat) (name : String) : Step rs (.lookup place name) rs
  | build (place : Nat) (document : List (Scalar × Value)) : Step rs (.build place document) rs

theorem perform_construct (offers : List (String × Offer Maker)) :
    perform (.construct offers) = (construct offers >>= fun copy => pure (.registry copy)) := rfl

theorem perform_register (place : Nat) (name : String) (offer : Offer Maker) :
    perform (.register place name offer) = (register place name offer >>= fun _ => pure .nothing) :=
  rfl

theorem perform_extend (place : Nat) (extra : List (String × Offer Maker)) :
    perform (.extend place extra) = (extend place extra >>= fun copy => pure (.registry copy)) := rfl

theorem step_after (h : ∀ place, (rs.getD place .empty).WellFormed) (call : Call) :
    Step rs call (after rs call) := by
  unfold after
  cases call with
  | construct offers =>
    rw [perform_construct, run_return, run_construct]
    exact .construct offers
  | register place name offer =>
    rw [perform_register, run_return, run_register]
    cases hr : (rs.getD place .empty).register name offer with
    | ok r' => exact .register hr
    | error f => exact .refuse hr
  | freeze place => exact .freeze place
  | extend place extra =>
    rw [perform_extend, run_return, run_extend (h place)]
    cases hr : (rs.getD place .empty).extend extra with
    | ok r' => exact .extend hr
    | error f => exact .halfway hr
  | lookup place name => exact .lookup place name
  | build place document => exact .build place document

end Store

/-! ### What calls keep -/

/-- The offers of a call. -/
def Call.offers : Call → List (String × Offer Maker)
  | .construct offers => offers
  | .register _ name offer => [(name, offer)]
  | .extend _ extra => extra
  | _ => []

namespace Store

variable {rs rs' : Store} {place : Nat} {r : Registry Maker} {call : Call}

/-- Each registry is well formed, with entries from some offers. -/
def Sound (offers : List (String × Offer Maker)) (rs : Store) : Prop := ∀ r ∈ rs, Sourced offers r

namespace Sound

variable {offers : List (String × Offer Maker)}

theorem mono {offers' : List (String × Offer Maker)} (h : Sound offers rs) (hsub : offers ⊆ offers') :
    Sound offers' rs := fun r hr => (h r hr).mono hsub

theorem append (h : Sound offers rs) (hr : Sourced offers r) : Sound offers (rs ++ [r]) := by
  intro r' hr'
  rcases List.mem_append.mp hr' with hr' | hr'
  · exact h r' hr'
  · rwa [List.mem_singleton.mp hr']

theorem set (h : Sound offers rs) (hr : Sourced offers r) (place : Nat) :
    Sound offers (rs.set place r) := by
  intro r' hr'
  rcases List.mem_or_eq_of_mem_set hr' with hr' | rfl
  · exact h r' hr'
  · exact hr

/-- A place with no registry counts as an empty one, which is sound as well. -/
theorem getD (h : Sound offers rs) (place : Nat) : Sourced offers (rs.getD place .empty) := by
  rw [List.getD_eq_getElem?_getD]
  cases hr : rs[place]? with
  | none => exact .empty
  | some r => exact h r (List.mem_of_getElem? hr)

/-- One call keeps a store sound, with the offers of the call. -/
theorem step (h : Sound offers rs) (hstep : Step rs call rs') : Sound (offers ++ call.offers) rs' := by
  have hall : Sound (offers ++ call.offers) rs := h.mono (List.subset_append_left _ _)
  have hnew : call.offers ⊆ offers ++ call.offers := List.subset_append_right _ _
  cases hstep with
  | construct more => exact hall.append (Sourced.empty.upTo hnew)
  | register taken => exact hall.set ((hall.getD _).register taken (hnew (List.mem_singleton_self _))) _
  | refuse _ => exact hall
  | freeze place => exact hall.set (hall.getD place).freeze place
  | extend taken => exact hall.append ((hall.getD _).extend taken hnew)
  | halfway _ => exact hall.append ((hall.getD _).copy.upTo hnew)
  | lookup _ _ => exact hall
  | build _ _ => exact hall

theorem after (h : Sound offers rs) (call : Call) : Sound (offers ++ call.offers) (after rs call) :=
  h.step (step_after (fun place => (h.getD place).wellFormed) call)

theorem afterAll (h : Sound offers rs) (calls : List Call) :
    Sound (offers ++ calls.flatMap Call.offers) (afterAll rs calls) := by
  induction calls generalizing rs offers with
  | nil =>
    rw [List.flatMap_nil, List.append_nil]
    exact h
  | cons call rest ih =>
    rw [List.flatMap_cons, ← List.append_assoc]
    exact ih (h.after call)

end Sound

theorem append_keeps (hr : rs[place]? = some r) (r' : Registry Maker) :
    (rs ++ [r'])[place]? = some r := by
  rw [List.getElem?_append_left (List.getElem?_eq_some_iff.mp hr).1]
  exact hr

theorem set_keeps (hr : rs[place]? = some r) {place' : Nat} {r' : Registry Maker}
    (same : place' = place → r' = r) : (rs.set place' r')[place]? = some r := by
  by_cases heq : place' = place
  · subst heq
    rw [same rfl, set_of_some hr]
    exact hr
  · rw [List.getElem?_set_ne heq]
    exact hr

/-- A call keeps a registry that is frozen, or that it is not to change. -/
theorem Step.keeps (hstep : Step rs call rs') (hr : rs[place]? = some r)
    (kept : r.frozen = true ∨ call.changes? ≠ some place) : rs'[place]? = some r := by
  cases hstep with
  | construct offers => exact append_keeps hr _
  | @register place' name offer r' taken =>
    refine set_keeps hr ?_
    rintro rfl
    rw [getD_of_some hr] at taken
    obtain ⟨hopen, -⟩ := register_ok_iff.mp taken
    rcases kept with hfrozen | hother
    · rw [hopen] at hfrozen
      cases hfrozen
    · exact absurd rfl hother
  | refuse _ => exact hr
  | freeze place' =>
    refine set_keeps hr ?_
    rintro rfl
    rw [getD_of_some hr]
    rcases kept with hfrozen | hother
    · rw [Registry.freeze, ← hfrozen]
    · exact absurd rfl hother
  | extend _ => exact append_keeps hr _
  | halfway _ => exact append_keeps hr _
  | lookup _ _ => exact hr
  | build _ _ => exact hr

/-- A frozen registry stays as it is, whatever calls are made. -/
theorem Sound.keeps_frozen {offers : List (String × Offer Maker)} (h : Sound offers rs)
    (hr : rs[place]? = some r) (frozen : r.frozen = true) (calls : List Call) :
    (Store.afterAll rs calls)[place]? = some r := by
  induction calls generalizing rs offers with
  | nil => exact hr
  | cons call rest ih =>
    have hstep := step_after (fun place => (h.getD place).wellFormed) call
    exact ih (h.after call) (hstep.keeps hr (.inl frozen))

/-- A registration that stops changes nothing. -/
theorem perform_register_error {name : String} {offer : Offer Maker} {f : Fault}
    (stops : run (perform (.register place name offer)) rs = (.error f, rs')) : rs' = rs := by
  rw [perform_register, run_return, run_register] at stops
  cases hr : (rs.getD place .empty).register name offer with
  | ok r' =>
    rw [hr] at stops
    cases stops
  | error f' =>
    rw [hr] at stops
    cases stops
    rfl

section

variable {extra : List (String × Offer Maker)} (h : r.WellFormed) (hr : rs[place]? = some r)

include h hr

theorem run_perform_extend : run (perform (.extend place extra)) rs =
    match r.extend extra with
    | .ok r' => (.ok (.registry rs.length), rs ++ [r'])
    | .error f => (.error f, rs ++ [upTo ⟨r.entries, false⟩ extra]) := by
  have hplace : (rs.getD place .empty).WellFormed := by rwa [getD_of_some hr]
  rw [perform_extend, run_return, run_extend hplace, getD_of_some hr]
  cases r.extend extra with
  | ok r' => rfl
  | error f => rfl

/-- An extension that returns adds one frozen registry, with the new entries after the old ones. -/
theorem perform_extend_ok {copy : Nat}
    (returns : run (perform (.extend place extra)) rs = (.ok (.registry copy), rs')) :
    copy = rs.length ∧ ∃ entries, extra = Offer.ofEntries entries ∧
      rs' = rs ++ [⟨r.entries ++ bareEntries entries, true⟩] := by
  rw [run_perform_extend h hr] at returns
  cases hextend : r.extend extra with
  | ok r' =>
    obtain ⟨entries, hextra, -, rfl⟩ := h.extend_ok_iff.mp hextend
    rw [hextend] at returns
    cases returns
    exact ⟨rfl, entries, hextra, rfl⟩
  | error f =>
    rw [hextend] at returns
    cases returns

/-- An extension is stopped by one of its own offers, after it has taken those before. -/
theorem perform_extend_error {f : Fault}
    (stops : run (perform (.extend place extra)) rs = (.error f, rs')) :
    (∃ half, rs' = rs ++ [half]) ∧ ∃ entries name offer rest,
      extra = Offer.ofEntries entries ++ (name, offer) :: rest ∧ r.Accepts entries ∧
      (r.adding entries).Refuses name offer f := by
  rw [run_perform_extend h hr] at stops
  cases hextend : r.extend extra with
  | ok r' =>
    rw [hextend] at stops
    cases stops
  | error f' =>
    rw [hextend] at stops
    cases stops
    exact ⟨⟨_, rfl⟩, h.extend_error_iff.mp hextend⟩

end

/-- What calls keep, from no registries on: registries are well formed and their entries were offered;
a frozen one stays as it is; a registration that stops changes nothing; an extension adds a frozen
registry with the new entries, and is stopped only by an offer of its own; and a call changes no
registry but the one that it is to change. -/
theorem calls_keep (calls : List Call) :
    let rs := Store.afterAll [] calls
    (∀ r ∈ rs, r.WellFormed ∧ ∀ p ∈ r.entries,
      ∃ name, (name, .callable p.2) ∈ calls.flatMap Call.offers ∧ bareName name = p.1) ∧
    (∀ (place : Nat) (r : Registry Maker), rs[place]? = some r → r.frozen = true →
      ∀ more, (Store.afterAll rs more)[place]? = some r) ∧
    (∀ place name offer f rs', run (perform (.register place name offer)) rs = (.error f, rs') →
      rs' = rs) ∧
    (∀ (place : Nat) (r : Registry Maker) (extra : List (String × Offer Maker)), rs[place]? = some r →
      (∀ copy rs', run (perform (.extend place extra)) rs = (.ok (.registry copy), rs') →
        copy = rs.length ∧ ∃ entries, extra = Offer.ofEntries entries ∧
          rs' = rs ++ [⟨r.entries ++ bareEntries entries, true⟩]) ∧
      ∀ f rs', run (perform (.extend place extra)) rs = (.error f, rs') →
        (∃ half, rs' = rs ++ [half]) ∧ ∃ entries name offer rest,
          extra = Offer.ofEntries entries ++ (name, offer) :: rest ∧ r.Accepts entries ∧
          (r.adding entries).Refuses name offer f) ∧
    ∀ (call : Call) (place : Nat) (r : Registry Maker), rs[place]? = some r →
      call.changes? ≠ some place → (Store.after rs call)[place]? = some r := by
  intro rs
  have hsound : Sound (calls.flatMap Call.offers) rs := by
    have hempty : Sound [] ([] : Store) := fun r hr => absurd hr List.not_mem_nil
    exact hempty.afterAll calls
  have hwellFormed : ∀ place, (rs.getD place .empty).WellFormed :=
    fun place => (hsound.getD place).wellFormed
  refine ⟨fun r hr => ⟨(hsound r hr).wellFormed, (hsound r hr).offered⟩, ?_, ?_, ?_, ?_⟩
  · intro place r hr frozen more
    exact hsound.keeps_frozen hr frozen more
  · intro place name offer f rs' stops
    exact perform_register_error stops
  · intro place r extra hr
    have h := (hsound r (List.mem_of_getElem? hr)).wellFormed
    exact ⟨fun copy rs' returns => perform_extend_ok h hr returns,
      fun f rs' stops => perform_extend_error h hr stops⟩
  · intro call place r hr hother
    exact (step_after hwellFormed call).keeps hr (.inr hother)

/-- A registry of one rule is frozen and stays; its name in an extension stops the extension. -/
theorem calls_keep_even :
    let even : Offer Maker := .callable (.keyword .multipleOf)
    let rs := Store.afterAll [] [.construct [(" even ", even)], .freeze 0]
    ∃ r : Registry Maker, rs[0]? = some r ∧ r.frozen = true ∧
      (∀ more, (Store.afterAll rs more)[0]? = some r) ∧
      ∃ f rs', run (perform (.extend 0 [("even", even)])) rs = (.error f, rs') ∧
        ∃ half, rs' = rs ++ [half] := by
  intro even rs
  have hr : rs[0]? = some ⟨[("even", .keyword .multipleOf)], true⟩ := rfl
  have hrun : run (perform (.extend 0 [("even", even)])) rs = (.error (.alreadyRegistered "even"),
      rs ++ [⟨[("even", .keyword .multipleOf)], false⟩]) := rfl
  obtain ⟨-, hfrozen, -, hextend, -⟩ := calls_keep [.construct [(" even ", even)], .freeze 0]
  refine ⟨_, hr, rfl, hfrozen 0 _ hr rfl, _, _, hrun, ?_⟩
  exact ((hextend 0 _ _ hr).2 _ _ hrun).1

end Store

end Rulebook.Registry
