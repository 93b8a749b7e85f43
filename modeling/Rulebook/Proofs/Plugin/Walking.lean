import Rulebook.Proofs.Plugin.Collecting
import Rulebook.Proofs.Sorting

/-!
The walk over plugins. Plugins are visited in the order of their places, those of one place in the order
of registration. To sort and to leave some out can be done in either order, so a walk is unchanged by a
plugin that is passed over. A plugin that offers nothing, for whatever reason, is passed over when offers
are collected, and the registry that is built is the one without it.
-/

namespace Rulebook

/-! ### Visiting -/

namespace Plugins

theorem mem_visited_iff {ps : Plugins} {e : String × Plugin} : e ∈ ps.visited ↔ e ∈ ps.entries :=
  List.mem_mergeSort

theorem visited_perm (ps : Plugins) : ps.visited.Perm ps.entries := List.mergeSort_perm _ _

/-- The plugins of a kind are visited as if there were no others. -/
theorem filter_visited (ps : Plugins) (keep : String × Plugin → Bool) :
    ps.visited.filter keep = Plugins.visited ⟨ps.entries.filter keep, ps.loaded⟩ :=
  Sorting.filter_mergeSort (Sorting.key_trans fun e : String × Plugin => e.2.created)
    (Sorting.key_total _) keep ps.entries

end Plugins

/-! ### Plugins that offer nothing -/

/-- A plugin offers nothing when it has no hook, or when its hook gives back nothing, fails, gives back
what is no map, or gives back an empty map. -/
theorem Plugin.offers_eq_nil_iff {p : Plugin} : p.offers = [] ↔
    p.call? = none ∨ p.call? = some .nothing ∨ (∃ m, p.call? = some (.failure m)) ∨ p.call? = some .junk ∨
      p.call? = some (.offers []) := by
  unfold offers
  match p.call? with
  | none => simp
  | some .nothing => simp
  | some (.failure m) => simp
  | some .junk => simp
  | some (.offers makers) => simp

namespace Offers

theorem addFrom_of_offers_nil {p : Plugin} (h : p.offers = []) (collected : Offers) (name : String) :
    (collected.addFrom name p.call?).result = .ok collected := by
  rcases Plugin.offers_eq_nil_iff.mp h with hcall | hcall | ⟨m, hcall⟩ | hcall | hcall
  all_goals
    rw [hcall]
    rfl

/-- The plugins that offer nothing are passed over. -/
theorem collectFrom_filter (collected : Offers) (walk : List (String × Plugin)) :
    (collected.collectFrom walk).result =
      (collected.collectFrom (walk.filter fun e => !e.2.offers.isEmpty)).result := by
  induction walk generalizing collected with
  | nil => rfl
  | cons e rest ih =>
    obtain ⟨name, p⟩ := e
    cases hoffers : p.offers with
    | nil =>
      have hpass : (collected.addFrom name p.call?).result = (Run.ret collected).result :=
        addFrom_of_offers_nil hoffers collected name
      rw [List.filter_cons_of_neg (by simp [hoffers]), ← ih]
      exact Run.result_bind_congr hpass fun _ => rfl
    | cons offer more =>
      rw [List.filter_cons_of_pos (by simp [hoffers]), collectFrom, collectFrom]
      exact Run.result_bind_congr rfl ih

theorem addAll_prefix (plugin : String) (collected offers : Offers) :
    Run.Ensures (fun after => collected <+: after) (addAll plugin collected offers) := by
  induction offers generalizing collected with
  | nil => exact .ret (List.prefix_refl _)
  | cons o rest ih =>
    obtain ⟨name, offer⟩ := o
    rw [addAll]
    split
    · exact .andThen fun _ => ih collected
    · intro after h
      exact (List.prefix_append _ _).trans (ih _ after h)

/-- A plugin that offers something has its first offer collected where nothing is before it. -/
theorem collectFrom_one_ne_nil {name : String} {p : Plugin} (h : p.offers ≠ []) :
    (collectFrom [] [(name, p)]).result ≠ .ok [] := by
  intro hnone
  obtain ⟨after, hadd, hrest⟩ := Run.bind_ok_iff.mp hnone
  cases hrest
  cases hoffers : p.offers with
  | nil => exact h hoffers
  | cons o rest =>
    have hcall : p.call? = some (.offers (o :: rest)) := by
      unfold Plugin.offers at hoffers
      split at hoffers
      · next hcall => rw [hcall, hoffers]
      · cases hoffers
    rw [hcall] at hadd
    have hprefix := addAll_prefix name [o] rest [] hadd
    simp at hprefix

end Offers

namespace Plugins

variable {ps ps' : Plugins}

/-- Collecting gives the same for plugins that differ only in those that offer nothing. -/
theorem collect_congr
    (h : (ps.entries.filter fun e => !e.2.offers.isEmpty) = ps'.entries.filter fun e => !e.2.offers.isEmpty) :
    ps.collect.result = ps'.collect.result := by
  unfold collect
  rw [Offers.collectFrom_filter, Offers.collectFrom_filter [] ps'.visited, filter_visited,
    filter_visited, h]
  rfl

theorem buildRegistry_congr (h : ps.collect.result = ps'.collect.result) (base : Registry Maker) :
    (ps.buildRegistry base).result = (ps'.buildRegistry base).result :=
  Run.result_bind_congr h fun _ => rfl

/-- A plugin that is registered anywhere among others, and visited anywhere among them, changes neither
what is collected nor the registry that is built, or the fault that stops it, exactly when it has no
hook or its hook fails or gives back nothing, no map or an empty one. -/
theorem costs_nothing_iff (name : String) (p : Plugin) :
    (∀ before after loaded,
      let without : Plugins := ⟨before ++ after, loaded⟩
      let beside : Plugins := ⟨before ++ (name, p) :: after, loaded⟩
      (∃ collected, beside.collect.result = .ok collected ∧ without.collect.result = .ok collected) ∧
        ∀ base, (beside.buildRegistry base).result = (without.buildRegistry base).result) ↔
      p.call? = none ∨ p.call? = some .nothing ∨ (∃ m, p.call? = some (.failure m)) ∨ p.call? = some .junk ∨
        p.call? = some (.offers []) := by
  rw [← Plugin.offers_eq_nil_iff]
  constructor
  · intro h
    obtain ⟨⟨collected, hbeside, hwithout⟩, -⟩ := h [] [] false
    -- with no other plugins nothing is collected without it
    have hnone : collected = [] := by
      have hvisited : Plugins.visited ⟨[], false⟩ = [] := List.mergeSort_nil
      rw [List.append_nil, collect, hvisited] at hwithout
      cases hwithout
      rfl
    by_contra hoffers
    have hvisited : Plugins.visited ⟨[(name, p)], false⟩ = [(name, p)] := List.mergeSort_singleton _
    rw [List.nil_append, collect, hvisited, hnone] at hbeside
    exact Offers.collectFrom_one_ne_nil hoffers hbeside
  · intro hoffers before after loaded without beside
    have hsame : beside.collect.result = without.collect.result := by
      refine collect_congr ?_
      simp [beside, without, hoffers]
    obtain ⟨ns, collected, hcollect, -⟩ := Offers.collectFrom_collects [] without.visited
    have hwithout : without.collect.result = .ok collected := congrArg Run.result hcollect
    exact ⟨⟨collected, hsame.trans hwithout, hwithout⟩, buildRegistry_congr hsame⟩

end Plugins

end Rulebook
