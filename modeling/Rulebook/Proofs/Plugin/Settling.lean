import Rulebook.Proofs.Plugin.Registering

/-!
Settling the plugins that are registered. A search first settles each registered plugin under its name: a
class with a marked hook becomes an instance or is dropped, any other plugin stays. It is stopped at a
class that cannot be looked through, at one whose making raises more than a mishap, and at one that gives
an instance that has a flaw or is registered already. How far it comes, names stay distinct, no other
plugin is touched, and what is no instance afterwards was there before.
-/

namespace Rulebook

/-! ### Searches -/

namespace Search

@[simp] theorem reached_stopped (ps : Plugins) : (reached ps).stopped = none := rfl

@[simp] theorem reached_plugins (ps : Plugins) : (reached ps).plugins = ps := rfl

@[simp] theorem noticed_stopped (ns : List Notice) (ps : Plugins) : (noticed ns ps).stopped = none := rfl

@[simp] theorem noticed_plugins (ns : List Notice) (ps : Plugins) : (noticed ns ps).plugins = ps := rfl

@[simp] theorem stop_stopped (ps : Plugins) (f : Fault) : (stop ps f).stopped = some f := rfl

@[simp] theorem stop_plugins (ps : Plugins) (f : Fault) : (stop ps f).plugins = ps := rfl

variable {s : Search} {next : Plugins → Search}

theorem andThen_stopped_eq_none_iff :
    (s.andThen next).stopped = none ↔ s.stopped = none ∧ (next s.plugins).stopped = none := by
  unfold andThen
  cases h : s.stopped <;> simp [h]

theorem andThen_plugins_of_going (h : s.stopped = none) :
    (s.andThen next).plugins = (next s.plugins).plugins := by
  unfold andThen
  rw [h]

/-- What a search has come to has a property if each of its parts brings it about. -/
theorem andThen_plugins {P : Plugins → Prop} (hs : P s.plugins) (hnext : P (next s.plugins).plugins) :
    P (s.andThen next).plugins := by
  cases h : s.stopped with
  | none => rwa [andThen_plugins_of_going h]
  | some f =>
    unfold andThen
    rwa [h]

/-- A search gives back what it has come to, unless it was stopped. -/
theorem run_ok_iff {ps : Plugins} : s.run.result = .ok ps ↔ s.stopped = none ∧ s.plugins = ps := by
  unfold run
  cases h : s.stopped <;> simp

end Search

/-! ### Classes and instances -/

/-- A class with a marked hook, of which no instance was made yet. -/
def Plugin.isRaw (p : Plugin) : Bool := !p.instantiated && p.cls.hasHook

/-- What a search makes of a registered plugin, if it is not dropped. -/
def Plugin.settled (p : Plugin) : Option Plugin :=
  if p.isRaw then if p.cls.instantiable then some p.instanced else none else some p

theorem Plugin.isRaw_of_settled {p q : Plugin} (h : p.settled = some q) : q.isRaw = false := by
  unfold settled at h
  split at h
  · split at h
    · cases h
      rfl
    · cases h
  · next hraw =>
    cases h
    exact Bool.not_eq_true _ ▸ hraw

/-- A plugin that can be settled among others: an instance, or a class that can be looked through, whose
instance, if there is to be one, is made unless a mishap prevents it, is none of the others and has no
flaw. -/
structure Plugin.TameIn (ps : Plugins) (p : Plugin) : Prop where
  inspected : p.instantiated = false → p.cls.inspection = none
  made : p.isRaw = true → ∀ r, p.cls.making = .raises r → r.isTaken = true
  apart : p.isRaw = true → p.cls.isShared = true → ps.holds p.instanced = false
  fit : p.isRaw = true → p.cls.instantiable = true → p.cls.flaw true = none

namespace Plugins

/-! ### Names -/

/-- The names of the plugins are distinct. -/
def Distinct (ps : Plugins) : Prop := (ps.entries.map (·.1)).Nodup

theorem distinct_empty : empty.Distinct := List.nodup_nil

theorem contains_iff {ps : Plugins} {name : String} :
    ps.contains name = true ↔ name ∈ ps.entries.map (·.1) := by
  rw [← not_iff_not, Bool.not_eq_true, contains, Option.isSome_eq_false_iff, Option.isNone_iff_eq_none]
  exact Ordered.get?_eq_none_iff (Ordered.told_of_lawful _)

theorem Distinct.plugin_unique {ps : Plugins} (h : ps.Distinct) {name : String} {p q : Plugin}
    (hp : (name, p) ∈ ps.entries) (hq : (name, q) ∈ ps.entries) : p = q := by
  have hunique : ∀ r, (name, r) ∈ ps.entries → Ordered.get? name ps.entries = some r :=
    fun r hr => (Ordered.get?_eq_some_iff (Ordered.told_of_lawful _) h).mpr hr
  exact Option.some.inj ((hunique p hp).symm.trans (hunique q hq))

theorem Distinct.filter {ps : Plugins} (h : ps.Distinct) (keep : String × Plugin → Bool) :
    Distinct ⟨ps.entries.filter keep, ps.loaded⟩ := by
  unfold Distinct at h ⊢
  exact (List.filter_sublist.map _).nodup h

theorem Distinct.concat {ps : Plugins} (h : ps.Distinct) {name : String}
    (fresh : name ∉ ps.entries.map (·.1)) (p : Plugin) :
    Distinct ⟨ps.entries ++ [(name, p)], ps.loaded⟩ := by
  unfold Distinct
  rw [List.map_append]
  refine List.nodup_append.mpr ⟨h, List.nodup_singleton name, fun a ha b hb => ?_⟩
  obtain rfl : b = name := List.mem_singleton.mp hb
  rintro rfl
  exact fresh ha

theorem ne_of_fresh {name : String} {entries : List (String × Plugin)}
    (fresh : name ∉ entries.map (·.1)) {e : String × Plugin} (he : e ∈ entries) : e.1 ≠ name :=
  fun heq => fresh (List.mem_map.mpr ⟨e, he, heq⟩)

theorem mem_without_iff {ps : Plugins} {name n : String} {q : Plugin} :
    (n, q) ∈ (ps.without name).entries ↔ n ≠ name ∧ (n, q) ∈ ps.entries := by
  simp [without, and_comm]

/-! ### Settling one plugin -/

/-- The plugins after one of them is settled. -/
def settle (ps : Plugins) (e : String × Plugin) : Plugins :=
  if e.2.isRaw then
    ⟨(ps.without e.1).entries ++ (e.2.settled.map (e.1, ·)).toList, ps.loaded⟩
  else ps

/-- A class is replaced or dropped when it raises no more than a mishap and gives no instance that has a flaw
or is registered already. Else the search is stopped, without the class or with its instance in its
place. -/
theorem replaceClass_cases {p : Plugin} (hraw : p.isRaw = true) (ps : Plugins) (name : String) :
    let s := ps.replaceClass name p
    let replaces := (∀ r, p.cls.making = .raises r → r.isTaken = true) ∧
      (p.cls.isShared = true → (ps.without name).holds p.instanced = false) ∧
      (p.cls.instantiable = true → p.cls.flaw true = none)
    (replaces ∧ s.stopped = none ∧ s.plugins = ps.settle (name, p)) ∨
      (¬ replaces ∧ s.stopped ≠ none ∧
        (s.plugins = ps.settle (name, p) ∨ s.plugins = ps.without name)) := by
  have hsettle : ps.settle (name, p) = ⟨(ps.without name).entries ++
      ((if p.cls.instantiable then some p.instanced else none).map (name, ·)).toList, ps.loaded⟩ := by
    rw [settle, if_pos hraw, Plugin.settled, if_pos hraw]
  have hflaw : p.instanced.flaw = p.cls.flaw true := rfl
  rw [hsettle, replaceClass, hflaw, PluginClass.isShared, PluginClass.instantiable]
  cases p.cls.making with
  | raises r =>
    cases htaken : r.isTaken with
    | true => exact .inl (by simp [htaken, without])
    | false => exact .inr (by simp [htaken])
  | fresh =>
    cases p.cls.flaw true with
    | some m => exact .inr (by simp [without])
    | none => exact .inl (by simp [without])
  | shared =>
    cases hholds : (ps.without name).holds p.instanced with
    | true => exact .inr (by simp)
    | false =>
      cases p.cls.flaw true with
      | some m => exact .inr (by simp [without])
      | none => exact .inl (by simp [without])

/-- A plugin that can be settled among the others is, and else the search is stopped: before the plugin is
settled or after, or without it if it is a class with a marked hook. -/
theorem settleEntry_cases (ps : Plugins) (name : String) (p : Plugin) :
    let s := ps.settleEntry (name, p)
    (p.TameIn (ps.without name) ∧ s.stopped = none ∧ s.plugins = ps.settle (name, p)) ∨
      (¬ p.TameIn (ps.without name) ∧ s.stopped ≠ none ∧
        (s.plugins = ps ∨ s.plugins = ps.settle (name, p) ∨
          p.isRaw = true ∧ s.plugins = ps.without name)) := by
  -- a plugin that is no class with a marked hook stays
  have hstays : p.isRaw = false → ps.settle (name, p) = ps := fun hraw => by simp [settle, hraw]
  cases hinstantiated : p.instantiated with
  | true =>
    have hraw : p.isRaw = false := by simp [Plugin.isRaw, hinstantiated]
    exact .inl ⟨⟨by simp [hinstantiated], by simp [hraw], by simp [hraw], by simp [hraw]⟩,
      by simp [settleEntry, hinstantiated, hstays hraw]⟩
  | false =>
    cases hinspection : p.cls.inspection with
    | some r =>
      have hwild : ¬ p.TameIn (ps.without name) := fun h => by
        cases hinspection.symm.trans (h.inspected hinstantiated)
      exact .inr ⟨hwild, by simp [settleEntry, hinstantiated, hinspection]⟩
    | none =>
      cases hhook : p.cls.hasHook with
      | false =>
        have hraw : p.isRaw = false := by simp [Plugin.isRaw, hhook]
        exact .inl ⟨⟨fun _ => hinspection, by simp [hraw], by simp [hraw], by simp [hraw]⟩,
          by simp [settleEntry, hinstantiated, hinspection, hhook, hstays hraw]⟩
      | true =>
        have hraw : p.isRaw = true := by simp [Plugin.isRaw, hinstantiated, hhook]
        have hentry : ps.settleEntry (name, p) = ps.replaceClass name p := by
          simp [settleEntry, hinstantiated, hinspection, hhook]
        rw [hentry]
        obtain ⟨⟨made, apart, fit⟩, h⟩ | ⟨hnot, hstopped, hplugins⟩ := replaceClass_cases hraw ps name
        · exact .inl ⟨⟨fun _ => hinspection, fun _ => made, fun _ => apart, fun _ => fit⟩, h⟩
        · exact .inr ⟨fun h => hnot ⟨h.made hraw, h.apart hraw, h.fit hraw⟩, hstopped,
            .inr (hplugins.imp_right (⟨hraw, ·⟩))⟩

theorem settleEntry_stopped_eq_none_iff {ps : Plugins} {name : String} {p : Plugin} :
    (ps.settleEntry (name, p)).stopped = none ↔ p.TameIn (ps.without name) := by
  obtain ⟨htame, hgoing, -⟩ | ⟨hwild, hstopped, -⟩ := settleEntry_cases ps name p
  · exact iff_of_true hgoing htame
  · exact iff_of_false hstopped hwild

theorem settleEntry_plugins_of_going {ps : Plugins} {name : String} {p : Plugin}
    (h : (ps.settleEntry (name, p)).stopped = none) :
    (ps.settleEntry (name, p)).plugins = ps.settle (name, p) := by
  obtain ⟨-, -, hplugins⟩ | ⟨-, hstopped, -⟩ := settleEntry_cases ps name p
  · exact hplugins
  · exact absurd h hstopped

/-- Settling one plugin changes only what is under its name. -/
theorem Distinct.settle {ps : Plugins} (h : ps.Distinct) {name : String} {p : Plugin}
    (hp : (name, p) ∈ ps.entries) : (ps.settle (name, p)).Distinct ∧
      ∀ n q, (n, q) ∈ (ps.settle (name, p)).entries ↔
        (n ≠ name ∧ (n, q) ∈ ps.entries) ∨ (n = name ∧ p.settled = some q) := by
  unfold Plugins.settle
  cases hraw : p.isRaw with
  | false =>
    rw [if_neg (by simp)]
    refine ⟨h, fun n q => ?_⟩
    have hsettled : p.settled = some p := by
      rw [Plugin.settled, hraw, if_neg Bool.false_ne_true]
    by_cases hn : n = name
    · subst hn
      rw [hsettled]
      constructor
      · exact fun hq => .inr ⟨rfl, congrArg some (h.plugin_unique hp hq)⟩
      · rintro (⟨hne, -⟩ | ⟨-, heq⟩)
        · exact absurd rfl hne
        · exact Option.some.inj heq ▸ hp
    · simp [hn]
  | true =>
    have hfresh : name ∉ (ps.without name).entries.map (·.1) := by
      simp [without]
    rw [if_pos rfl]
    cases hsettled : p.settled with
    | none =>
      refine ⟨?_, fun n q => ?_⟩
      · rw [Option.map_none, Option.toList_none, List.append_nil]
        exact h.filter _
      · simp [mem_without_iff]
    | some instanced =>
      refine ⟨(h.filter _).concat hfresh instanced, fun n q => ?_⟩
      simp only [Option.map_some, Option.toList_some, List.mem_append, mem_without_iff,
        List.mem_singleton, Prod.mk.injEq, Option.some.injEq]
      exact or_congr_right (and_congr_right fun _ => eq_comm)

/-! ### How far a search comes -/

/-- A search has come from some plugins to others: it touches nothing but classes with a marked hook, and
what is no instance afterwards was there before. -/
structure Advances (ps after : Plugins) : Prop where
  distinct : after.Distinct
  kept : ∀ name p, (name, p) ∈ ps.entries → p.isRaw = false → (name, p) ∈ after.entries
  old : ∀ name p, (name, p) ∈ after.entries → p.instantiated = false → (name, p) ∈ ps.entries

namespace Advances

variable {ps between after : Plugins} {name : String} {p : Plugin}

theorem refl (h : ps.Distinct) : Advances ps ps := ⟨h, fun _ _ hp _ => hp, fun _ _ hp _ => hp⟩

theorem trans (h : Advances ps between) (h' : Advances between after) : Advances ps after := by
  refine ⟨h'.distinct, fun name p hp hraw => ?_, fun name p hp hinstantiated => ?_⟩
  · exact h'.kept name p (h.kept name p hp hraw) hraw
  · exact h.old name p (h'.old name p hp hinstantiated) hinstantiated

/-- A class with a marked hook can go. -/
theorem without (h : ps.Distinct) (hp : (name, p) ∈ ps.entries) (hraw : p.isRaw = true) :
    Advances ps (ps.without name) := by
  refine ⟨h.filter _, fun n q hq hstays => ?_, fun n q hq _ => (mem_without_iff.mp hq).2⟩
  refine mem_without_iff.mpr ⟨?_, hq⟩
  rintro rfl
  rw [h.plugin_unique hq hp, hraw] at hstays
  cases hstays

theorem settle (h : ps.Distinct) (hp : (name, p) ∈ ps.entries) :
    Advances ps (ps.settle (name, p)) := by
  obtain ⟨hdistinct, hmem⟩ := h.settle hp
  refine ⟨hdistinct, fun n q hq hstays => (hmem n q).mpr ?_, fun n q hq hinstantiated => ?_⟩
  · by_cases hn : n = name
    · subst hn
      rw [← h.plugin_unique hq hp, Plugin.settled, hstays, if_neg Bool.false_ne_true]
      exact .inr ⟨rfl, rfl⟩
    · exact .inl ⟨hn, hq⟩
  · rcases (hmem n q).mp hq with ⟨-, hq⟩ | ⟨rfl, hsettled⟩
    · exact hq
    · unfold Plugin.settled at hsettled
      split at hsettled
      · split at hsettled
        · cases hsettled
          cases hinstantiated
        · cases hsettled
      · cases hsettled
        exact hp

/-- Settling a plugin, it may be stopped, leaves those of other names. -/
theorem settleEntry (h : ps.Distinct) (hp : (name, p) ∈ ps.entries) :
    Advances ps (ps.settleEntry (name, p)).plugins ∧
      ∀ e ∈ ps.entries, e.1 ≠ name → e ∈ (ps.settleEntry (name, p)).plugins.entries := by
  have hsettles : Advances ps (ps.settle (name, p)) ∧
      ∀ e ∈ ps.entries, e.1 ≠ name → e ∈ (ps.settle (name, p)).entries :=
    ⟨.settle h hp, fun e he hne => ((h.settle hp).2 e.1 e.2).mpr (.inl ⟨hne, he⟩)⟩
  obtain ⟨-, -, hplugins⟩ | ⟨-, -, hplugins | hplugins | ⟨hraw, hplugins⟩⟩ := settleEntry_cases ps name p
  · rwa [hplugins]
  · rw [hplugins]
    exact ⟨.refl h, fun e he _ => he⟩
  · rwa [hplugins]
  · rw [hplugins]
    exact ⟨.without h hp hraw, fun e he hne => mem_without_iff.mpr ⟨hne, he⟩⟩

/-- Settling some plugins, each once, it may be stopped at one. -/
theorem settleEntries (h : ps.Distinct) {walk : List (String × Plugin)}
    (nodup : (walk.map (·.1)).Nodup) (hwalk : ∀ e ∈ walk, e ∈ ps.entries) :
    Advances ps (ps.settleEntries walk).plugins := by
  induction walk generalizing ps with
  | nil => exact .refl h
  | cons e rest ih =>
    obtain ⟨name, p⟩ := e
    obtain ⟨hfresh, hrest⟩ := List.nodup_cons.mp nodup
    obtain ⟨hadvances, hothers⟩ := settleEntry h (hwalk _ (List.mem_cons_self ..))
    refine Search.andThen_plugins hadvances (hadvances.trans (ih hadvances.distinct hrest fun e he => ?_))
    exact hothers e (hwalk e (List.mem_cons_of_mem _ he)) (ne_of_fresh hfresh he)

end Advances

/-! ### Settling all plugins -/

/-- No class is registered twice. -/
def Apart (ps : Plugins) : Prop := ∀ n m p q, (n, p) ∈ ps.entries → (m, q) ∈ ps.entries →
  p.instantiated = false → q.instantiated = false → p.created = q.created → n = m

theorem apart_empty : empty.Apart := fun _ _ _ _ hp => absurd hp List.not_mem_nil

theorem Apart.advances {ps after : Plugins} (h : ps.Apart) (advances : Advances ps after) : after.Apart :=
  fun n m p q hp hq hpc hqc => h n m p q (advances.old n p hp hpc) (advances.old m q hq hqc) hpc hqc

theorem holds_instanced_iff {ps : Plugins} {p : Plugin} : ps.holds p.instanced = true ↔
    ∃ name q, (name, q) ∈ ps.entries ∧ q.instantiated = true ∧ p.created = q.created := by
  simp [holds, Plugin.same, Plugin.instanced, and_comm]

/-- Whether an instance is registered does not depend on a class. -/
theorem holds_instanced_without {ps : Plugins} (h : ps.Distinct) {name : String} {p : Plugin}
    (hp : (name, p) ∈ ps.entries) (hclass : p.instantiated = false) (q : Plugin) :
    (ps.without name).holds q.instanced = ps.holds q.instanced := by
  rw [Bool.eq_iff_iff, holds_instanced_iff, holds_instanced_iff]
  refine exists_congr fun n => exists_congr fun r => and_congr_left fun hr => ?_
  rw [mem_without_iff, and_iff_right_iff_imp]
  rintro hmem rfl
  rw [h.plugin_unique hmem hp, hclass] at hr
  exact Bool.false_ne_true hr.1

/-- To settle one class does not register the instance of another. -/
theorem holds_instanced_settle {ps : Plugins} (h : ps.Distinct) (apart : ps.Apart) {name other : String}
    {p q : Plugin} (hp : (name, p) ∈ ps.entries) (hq : (other, q) ∈ ps.entries)
    (hclass : q.instantiated = false) (hne : other ≠ name) :
    (ps.settle (name, p)).holds q.instanced = ps.holds q.instanced := by
  obtain ⟨-, hmem⟩ := h.settle hp
  rw [Bool.eq_iff_iff, holds_instanced_iff, holds_instanced_iff]
  constructor
  · rintro ⟨n, r, hr, hinstance, hcreated⟩
    rcases (hmem n r).mp hr with ⟨-, hr⟩ | ⟨rfl, hsettled⟩
    · exact ⟨n, r, hr, hinstance, hcreated⟩
    · unfold Plugin.settled at hsettled
      split at hsettled
      · next hraw =>
        split at hsettled
        · -- the new instance has the place of its class, which is not that of the other one
          cases hsettled
          have hpc : p.instantiated = false := by simpa using (Bool.and_eq_true_iff.mp hraw).1
          exact absurd (apart other n q p hq hp hclass hpc hcreated) hne
        · cases hsettled
      · cases hsettled
        exact ⟨n, p, hp, hinstance, hcreated⟩
  · rintro ⟨n, r, hr, hinstance, hcreated⟩
    have hstays : r.isRaw = false := by simp [Plugin.isRaw, hinstance]
    exact ⟨n, r, (Advances.settle h hp).kept n r hr hstays, hinstance, hcreated⟩

theorem tameIn_congr {ps ps' : Plugins} {p : Plugin}
    (h : p.isRaw = true → ps.holds p.instanced = ps'.holds p.instanced) : p.TameIn ps ↔ p.TameIn ps' := by
  constructor
  · exact fun ⟨inspected, made, apart, fit⟩ => ⟨inspected, made, fun hraw => h hraw ▸ apart hraw, fit⟩
  · exact fun ⟨inspected, made, apart, fit⟩ =>
      ⟨inspected, made, fun hraw => (h hraw).symm ▸ apart hraw, fit⟩

/-- Some plugins, each once, are settled when each can be settled among those that were there first. -/
theorem settleEntries_stopped_eq_none_iff {ps : Plugins} (h : ps.Distinct) (apart : ps.Apart)
    {walk : List (String × Plugin)} (nodup : (walk.map (·.1)).Nodup) (hwalk : ∀ e ∈ walk, e ∈ ps.entries) :
    (ps.settleEntries walk).stopped = none ↔ ∀ e ∈ walk, e.2.TameIn ps := by
  induction walk generalizing ps with
  | nil => simp [settleEntries, Search.each]
  | cons e rest ih =>
    obtain ⟨name, p⟩ := e
    obtain ⟨hfresh, hrest⟩ := List.nodup_cons.mp nodup
    obtain ⟨hp, hwalk⟩ := List.forall_mem_cons.mp hwalk
    have hfirst : (ps.settleEntry (name, p)).stopped = none ↔ p.TameIn ps := by
      rw [settleEntry_stopped_eq_none_iff]
      refine tameIn_congr fun hraw => holds_instanced_without h hp ?_ p
      simpa using (Bool.and_eq_true_iff.mp hraw).1
    show ((ps.settleEntry (name, p)).andThen fun ps => ps.settleEntries rest).stopped = none ↔ _
    rw [Search.andThen_stopped_eq_none_iff, hfirst, List.forall_mem_cons]
    refine and_congr_right fun htame => ?_
    rw [settleEntry_plugins_of_going (hfirst.mpr htame)]
    have hadvances := Advances.settle h hp
    rw [ih hadvances.distinct (apart.advances hadvances) hrest fun e he =>
      ((h.settle hp).2 e.1 e.2).mpr (.inl ⟨ne_of_fresh hfresh he, hwalk e he⟩)]
    refine forall₂_congr fun e he => tameIn_congr fun hraw => ?_
    refine holds_instanced_settle h apart hp (hwalk e he) ?_ (ne_of_fresh hfresh he)
    simpa using (Bool.and_eq_true_iff.mp hraw).1

theorem settleEntries_plugins_of_going {ps : Plugins} {walk : List (String × Plugin)}
    (h : (ps.settleEntries walk).stopped = none) :
    (ps.settleEntries walk).plugins = walk.foldl settle ps := by
  induction walk generalizing ps with
  | nil => rfl
  | cons e rest ih =>
    obtain ⟨hfirst, hrest⟩ := Search.andThen_stopped_eq_none_iff.mp h
    have hsettle := settleEntry_plugins_of_going hfirst
    rw [hsettle] at hrest
    rw [List.foldl_cons, ← ih hrest, ← hsettle]
    exact Search.andThen_plugins_of_going hfirst

/-- Settling some plugins, each once, settles these and keeps the rest. -/
theorem Distinct.settleAll {ps : Plugins} (h : ps.Distinct) {walk : List (String × Plugin)}
    (nodup : (walk.map (·.1)).Nodup) (hwalk : ∀ e ∈ walk, e ∈ ps.entries) :
    (walk.foldl Plugins.settle ps).Distinct ∧
      ∀ n q, (n, q) ∈ (walk.foldl Plugins.settle ps).entries ↔
        (n ∉ walk.map (·.1) ∧ (n, q) ∈ ps.entries) ∨ ∃ p, (n, p) ∈ walk ∧ p.settled = some q := by
  induction walk generalizing ps with
  | nil => exact ⟨h, by simp⟩
  | cons e rest ih =>
    obtain ⟨name, p⟩ := e
    obtain ⟨hfresh, hrest⟩ := List.nodup_cons.mp nodup
    obtain ⟨hdistinct, hmem⟩ := h.settle (hwalk _ (List.mem_cons_self ..))
    -- the others are still there, under other names
    have hothers : ∀ e ∈ rest, e ∈ (ps.settle (name, p)).entries := fun e he =>
      (hmem e.1 e.2).mpr (.inl ⟨ne_of_fresh hfresh he, hwalk e (List.mem_cons_of_mem _ he)⟩)
    obtain ⟨hall, hallmem⟩ := ih hdistinct hrest hothers
    refine ⟨hall, fun n q => ?_⟩
    rw [List.foldl_cons, hallmem, hmem, List.map_cons, List.mem_cons]
    constructor
    · rintro (⟨hn, ⟨hne, hq⟩ | ⟨rfl, hq⟩⟩ | ⟨r, hr, hq⟩)
      · exact .inl ⟨not_or.mpr ⟨hne, hn⟩, hq⟩
      · exact .inr ⟨p, List.mem_cons_self .., hq⟩
      · exact .inr ⟨r, List.mem_cons_of_mem _ hr, hq⟩
    · rintro (⟨hn, hq⟩ | ⟨r, hr, hq⟩)
      · obtain ⟨hne, hn⟩ := not_or.mp hn
        exact .inl ⟨hn, .inl ⟨hne, hq⟩⟩
      · rcases List.mem_cons.mp hr with heq | hr
        · cases heq
          exact .inl ⟨hfresh, .inr ⟨rfl, hq⟩⟩
        · exact .inr ⟨r, hr, hq⟩

namespace Distinct

variable {ps : Plugins} (h : ps.Distinct)
include h

theorem nodup_visited : (ps.visited.map (·.1)).Nodup := ((visited_perm ps).map _).nodup_iff.mpr h

/-- All plugins settled. -/
theorem settled : (ps.visited.foldl Plugins.settle ps).Distinct ∧
    ∀ n q, (n, q) ∈ (ps.visited.foldl Plugins.settle ps).entries ↔
      ∃ p, (n, p) ∈ ps.entries ∧ p.settled = some q := by
  obtain ⟨hdistinct, hmem⟩ := h.settleAll h.nodup_visited fun e he => mem_visited_iff.mp he
  refine ⟨hdistinct, fun n q => ?_⟩
  rw [hmem]
  simp only [mem_visited_iff]
  refine or_iff_right ?_
  rintro ⟨hn, hq⟩
  exact hn (List.mem_map.mpr ⟨_, mem_visited_iff.mpr hq, rfl⟩)

theorem settleEntries_advances : Advances ps (ps.settleEntries ps.visited).plugins :=
  .settleEntries h h.nodup_visited fun _ he => mem_visited_iff.mp he

/-- All plugins are settled when each can be. -/
theorem settles_iff (apart : ps.Apart) : (ps.settleEntries ps.visited).stopped = none ↔
    ∀ name p, (name, p) ∈ ps.entries → p.TameIn ps := by
  rw [settleEntries_stopped_eq_none_iff h apart h.nodup_visited fun _ he => mem_visited_iff.mp he]
  simp only [mem_visited_iff, Prod.forall]

end Distinct

end Plugins

end Rulebook
