import Rulebook.Plugin.Collect
import Rulebook.Proofs.Registry.Extending
import Rulebook.Proofs.Value.Keyed

/-!
Building a registry from plugins. Collecting offers always returns, whatever the hooks do, and so does
choosing the usable ones: what is left out has a warning with its name. Names are told apart as they
are written, though, and a registry tells apart bare names; so the extension that follows is stopped
when two usable names are bare the same.
-/

namespace Rulebook

/-! ### Lookups of texts -/

namespace Offers

/-- No text is the name of two offers. -/
def Apart (offers : Offers) : Prop :=
  offers.Pairwise fun a b => ∀ s, a.1 = .text s → b.1 ≠ .text s

theorem get?_text_eq_none_iff {offers : Offers} {s : String} :
    Ordered.get? (.text s) offers = none ↔ ∀ o ∈ offers, o.1 ≠ .text s := by
  induction offers with
  | nil => simp [Ordered.get?]
  | cons o rest ih =>
    rw [Ordered.get?, List.forall_mem_cons, ← ih]
    by_cases hname : o.1 = .text s
    · rw [if_pos ((Scalar.beq_text _ _).mpr hname)]
      simp [hname]
    · rw [if_neg fun h => hname ((Scalar.beq_text _ _).mp h)]
      simp [hname]

/-- Among offers that are apart, the one of a text is found. -/
theorem Apart.get?_text_iff {offers : Offers} (h : offers.Apart) {s : String} {offer : Offer Maker} :
    Ordered.get? (.text s) offers = some offer ↔ (.text s, offer) ∈ offers := by
  induction offers with
  | nil => simp [Ordered.get?]
  | cons o rest ih =>
    obtain ⟨hfresh, hrest⟩ := List.pairwise_cons.mp h
    rw [Ordered.get?, List.mem_cons, ← ih hrest]
    by_cases hname : o.1 = .text s
    · have hnone : Ordered.get? (.text s) rest = none :=
        get?_text_eq_none_iff.mpr fun o' ho' => hfresh o' ho' s hname
      rw [if_pos ((Scalar.beq_text _ _).mpr hname), hnone]
      simp [Prod.ext_iff, hname, eq_comm]
    · rw [if_neg fun h => hname ((Scalar.beq_text _ _).mp h)]
      have hother : (Scalar.text s, offer) ≠ o := fun heq => hname (congrArg Prod.fst heq).symm
      simp [hother]

end Offers

/-! ### Collecting -/

/-- A notice that an offer of a name is left out. -/
inductive Notice.LeavesOut (name : Scalar) : Notice → Prop
  | duplicate (plugin : String) : LeavesOut name (.duplicateOffer name plugin)
  | badName : LeavesOut name (.badOfferName name)
  | conflict {s : String} (h : name = .text s) : LeavesOut name (.offerConflict s)
  | inert {s : String} (h : name = .text s) : LeavesOut name (.offerNotCallable s)

/-- What collecting makes of some offers after those before: the first of a text is kept, every offer
is kept or left out with a notice, and all notices are warnings. -/
structure Collects (before offers : Offers) (notices : List Notice) (after : Offers) : Prop where
  apart : before.Apart → after.Apart
  first : ∀ s, Ordered.get? (.text s) after = Ordered.get? (.text s) (before ++ offers)
  told : ∀ o ∈ before ++ offers, o ∈ after ∨ ∃ n ∈ notices, n.LeavesOut o.1
  warnings : ∀ n ∈ notices, n.level = .warning

namespace Collects

variable {before offers more after last : Offers} {ns ns' : List Notice}

/-- No offers, only warnings. -/
theorem none (before : Offers) {ns : List Notice} (warnings : ∀ n ∈ ns, n.level = .warning) :
    Collects before [] ns before := by
  refine ⟨id, fun s => ?_, fun o ho => .inl ?_, warnings⟩
  · rw [List.append_nil]
  · rwa [List.append_nil] at ho

/-- An offer of a name that is taken is left out. -/
theorem skip {name : Scalar} (taken : (Ordered.get? name before).isSome = true)
    (offer : Offer Maker) (plugin : String) :
    Collects before [(name, offer)] [.duplicateOffer name plugin] before := by
  refine ⟨id, fun s => ?_, fun o ho => ?_, ?_⟩
  · rw [Ordered.get?_append, Ordered.get?]
    by_cases hname : name = .text s
    · rw [← hname, Option.or_of_isSome taken]
    · rw [if_neg fun h => hname ((Scalar.beq_text _ _).mp h), Ordered.get?, Option.or_none]
  · rcases List.mem_append.mp ho with ho | ho
    · exact .inl ho
    · rw [List.mem_singleton.mp ho]
      exact .inr ⟨_, List.mem_singleton_self _, .duplicate plugin⟩
  · exact List.forall_mem_singleton.mpr rfl

/-- An offer of a new name is kept. -/
theorem keep {name : Scalar} (fresh : ¬ (Ordered.get? name before).isSome = true)
    (offer : Offer Maker) : Collects before [(name, offer)] [] (before ++ [(name, offer)]) := by
  refine ⟨fun h => ?_, fun _ => rfl, fun o ho => .inl ho, by simp⟩
  refine List.pairwise_append.mpr ⟨h, List.pairwise_singleton _ _, fun a ha b hb s hs => ?_⟩
  rw [List.mem_singleton.mp hb]
  rintro rfl
  have hnone := Option.not_isSome_iff_eq_none.mp fresh
  exact Offers.get?_text_eq_none_iff.mp hnone a ha hs

theorem trans (h : Collects before offers ns after) (h' : Collects after more ns' last) :
    Collects before (offers ++ more) (ns ++ ns') last := by
  refine ⟨fun apart => h'.apart (h.apart apart), fun s => ?_, fun o ho => ?_, fun n hn => ?_⟩
  · rw [h'.first, Ordered.get?_append, h.first, ← Ordered.get?_append, List.append_assoc]
  · rw [← List.append_assoc] at ho
    rcases List.mem_append.mp ho with ho | ho
    · rcases h.told o ho with hafter | ⟨n, hn, hout⟩
      · rcases h'.told o (List.mem_append_left _ hafter) with hlast | ⟨n, hn, hout⟩
        · exact .inl hlast
        · exact .inr ⟨n, List.mem_append_right _ hn, hout⟩
      · exact .inr ⟨n, List.mem_append_left _ hn, hout⟩
    · rcases h'.told o (List.mem_append_right _ ho) with hlast | ⟨n, hn, hout⟩
      · exact .inl hlast
      · exact .inr ⟨n, List.mem_append_right _ hn, hout⟩
  · exact (List.mem_append.mp hn).elim (h.warnings n) (h'.warnings n)

end Collects

theorem Offers.addAll_collects (plugin : String) (before offers : Offers) :
    ∃ ns after, Offers.addAll plugin before offers = ⟨ns, .ok after⟩ ∧
      Collects before offers ns after := by
  induction offers generalizing before with
  | nil => exact ⟨[], before, rfl, .none before (by simp)⟩
  | cons o rest ih =>
    obtain ⟨name, offer⟩ := o
    rw [Offers.addAll]
    split
    · next taken =>
      obtain ⟨ns, after, hrun, h⟩ := ih before
      refine ⟨.duplicateOffer name plugin :: ns, after, ?_, (Collects.skip taken offer plugin).trans h⟩
      rw [hrun]
      rfl
    · next fresh =>
      obtain ⟨ns, after, hrun, h⟩ := ih (before ++ [(name, offer)])
      exact ⟨ns, after, hrun, (Collects.keep fresh offer).trans h⟩

/-- What a plugin offers, if its hook gives back offers. -/
def Plugin.offers (p : Plugin) : Offers :=
  match p.call? with
  | some (.offers makers) => makers
  | _ => []

theorem Offers.addFrom_collects (before : Offers) (name : String) (p : Plugin) :
    ∃ ns after, before.addFrom name p.call? = ⟨ns, .ok after⟩ ∧ Collects before p.offers ns after := by
  unfold Plugin.offers
  match p.call? with
  | none => exact ⟨[], before, rfl, .none before (by simp)⟩
  | some .nothing => exact ⟨[], before, rfl, .none before (by simp)⟩
  | some (.failure m) =>
    exact ⟨[.pluginFailed name], before, rfl, .none before (List.forall_mem_singleton.mpr rfl)⟩
  | some .junk =>
    exact ⟨[.pluginOfferedNoRules name], before, rfl, .none before (List.forall_mem_singleton.mpr rfl)⟩
  | some (.offers makers) => exact Offers.addAll_collects name before makers

theorem Offers.collectFrom_collects (before : Offers) (plugins : List (String × Plugin)) :
    ∃ ns after, before.collectFrom plugins = ⟨ns, .ok after⟩ ∧
      Collects before (plugins.flatMap fun (_, p) => p.offers) ns after := by
  induction plugins generalizing before with
  | nil => exact ⟨[], before, rfl, .none before (by simp)⟩
  | cons np rest ih =>
    obtain ⟨name, p⟩ := np
    obtain ⟨ns, after, hrun, h⟩ := Offers.addFrom_collects before name p
    obtain ⟨ns', last, hrest, h'⟩ := ih after
    refine ⟨ns ++ ns', last, ?_, h.trans h'⟩
    rw [Offers.collectFrom, hrun, Run.bind_of_ok, hrest]

/-- What the plugins offer, in the order in which they are visited. -/
def Plugins.offered (ps : Plugins) : Offers := ps.visited.flatMap fun (_, p) => p.offers

/-! ### Choosing -/

/-- The entry that an offer is, if a registry with a base can take it. -/
def usable? (base : Registry Maker) : Scalar × Offer Maker → Option (String × Maker)
  | (.text s, .callable maker) =>
    if bareName s = "" ∨ base.contains (bareName s) then none else some (s, maker)
  | _ => none

theorem usable?_eq_some_iff {base : Registry Maker} {o : Scalar × Offer Maker} {s : String}
    {maker : Maker} : usable? base o = some (s, maker) ↔ o = (.text s, .callable maker) ∧
      bareName s ≠ "" ∧ base.contains (bareName s) = false := by
  constructor
  · intro h
    unfold usable? at h
    split at h
    · split at h
      · cases h
      · next hgood =>
        cases h
        rw [not_or, Bool.not_eq_true] at hgood
        exact ⟨rfl, hgood⟩
    · cases h
  · rintro ⟨rfl, named, fresh⟩
    simp [usable?, named, fresh]

/-- What choosing says of some offers: each is usable or left out with a notice, and all notices are
warnings. -/
structure Chooses (base : Registry Maker) (offers : Offers) (notices : List Notice) : Prop where
  told : ∀ o ∈ offers, usable? base o = none → ∃ n ∈ notices, n.LeavesOut o.1
  warnings : ∀ n ∈ notices, n.level = .warning

namespace Chooses

variable {base : Registry Maker} {o : Scalar × Offer Maker} {rest : Offers} {ns : List Notice}

theorem skip (h : Chooses base rest ns) {n : Notice} (hout : n.LeavesOut o.1) :
    Chooses base (o :: rest) (n :: ns) := by
  refine ⟨fun o' ho' hnone => ?_, List.forall_mem_cons.mpr ⟨?_, h.warnings⟩⟩
  · rcases List.mem_cons.mp ho' with rfl | ho'
    · exact ⟨n, List.mem_cons_self .., hout⟩
    · obtain ⟨n', hn', hout'⟩ := h.told o' ho' hnone
      exact ⟨n', List.mem_cons_of_mem _ hn', hout'⟩
  · cases hout <;> rfl

theorem keep (h : Chooses base rest ns) (husable : usable? base o ≠ none) :
    Chooses base (o :: rest) ns := by
  refine ⟨fun o' ho' hnone => ?_, h.warnings⟩
  rcases List.mem_cons.mp ho' with rfl | ho'
  · exact absurd hnone husable
  · exact h.told o' ho' hnone

end Chooses

theorem Offers.usable_text (base : Registry Maker) (s : String) (offer : Offer Maker)
    (rest : Offers) : Offers.usable base ((.text s, offer) :: rest) =
      if (bareName s).isEmpty then Run.note (.badOfferName (.text s)) >>= fun _ => usable base rest
      else if base.contains (bareName s) then
        Run.note (.offerConflict s) >>= fun _ => usable base rest
      else
        match offer with
        | .inert => Run.note (.offerNotCallable s) >>= fun _ => usable base rest
        | .callable maker => usable base rest >>= fun more => pure ((s, .callable maker) :: more) :=
  rfl

theorem Offers.usable_chooses (base : Registry Maker) (offers : Offers) : ∃ ns,
    Offers.usable base offers = ⟨ns, .ok (Offer.ofEntries (offers.filterMap (usable? base)))⟩ ∧
      Chooses base offers ns := by
  induction offers with
  | nil => exact ⟨[], rfl, by simp, by simp⟩
  | cons o rest ih =>
    obtain ⟨ns, hrun, h⟩ := ih
    -- an offer that is left out adds its notice and no entry
    have hskip : ∀ n : Notice, usable? base o = none → n.LeavesOut o.1 →
        Offers.usable base (o :: rest) = (Run.note n >>= fun _ => Offers.usable base rest) →
        ∃ ns', Offers.usable base (o :: rest) =
          ⟨ns', .ok (Offer.ofEntries ((o :: rest).filterMap (usable? base)))⟩ ∧
            Chooses base (o :: rest) ns' := by
      intro n hnone hout heq
      refine ⟨n :: ns, ?_, h.skip hout⟩
      rw [heq, hrun, List.filterMap_cons_none hnone]
      rfl
    obtain ⟨name, offer⟩ := o
    cases name with
    | text s =>
      cases hblank : (bareName s).isEmpty with
      | true =>
        refine hskip (.badOfferName (.text s)) ?_ .badName ?_
        · cases offer <;> simp [usable?, String.isEmpty_iff.mp hblank]
        · rw [usable_text, if_pos hblank]
      | false =>
        have hnot : ¬ (bareName s).isEmpty = true := by simp [hblank]
        cases htaken : base.contains (bareName s) with
        | true =>
          refine hskip (.offerConflict s) ?_ (.conflict rfl) ?_
          · cases offer <;> simp [usable?, htaken]
          · rw [usable_text, if_neg hnot, if_pos htaken]
        | false =>
          have hfresh : ¬ base.contains (bareName s) = true := by simp [htaken]
          cases offer with
          | inert =>
            refine hskip (.offerNotCallable s) rfl (.inert rfl) ?_
            rw [usable_text, if_neg hnot, if_neg hfresh]
          | callable maker =>
            have husable : usable? base (.text s, .callable maker) = some (s, maker) :=
              usable?_eq_some_iff.mpr ⟨rfl, fun h => hnot (String.isEmpty_iff.mpr h), htaken⟩
            refine ⟨ns, ?_, h.keep (by simp [husable])⟩
            rw [usable_text, if_neg hnot, if_neg hfresh, List.filterMap_cons_some husable]
            dsimp only
            rw [hrun, Run.bind_of_ok]
            exact congrArg (Run.mk · _) (List.append_nil ns)
    | missing => exact hskip (.badOfferName .missing) rfl .badName rfl
    | null => exact hskip (.badOfferName .null) rfl .badName rfl
    | bool b => exact hskip (.badOfferName (.bool b)) rfl .badName rfl
    | number n => exact hskip (.badOfferName (.number n)) rfl .badName rfl

/-! ### The registry -/

namespace Registry

variable {base : Registry Maker}

/-- New entries with distinct names are taken when their names are distinct bare as well. -/
theorem WellFormed.accepts_iff (h : base.WellFormed) {entries : List (String × Maker)}
    (named : ∀ p ∈ entries, bareName p.1 ≠ "")
    (fresh : ∀ p ∈ entries, base.contains (bareName p.1) = false)
    (nodup : (entries.map (·.1)).Nodup) : base.Accepts entries ↔
      ∀ s ∈ entries.map (·.1), ∀ t ∈ entries.map (·.1), bareName s = bareName t → s = t := by
  have hnames : (base.adding entries).entries.map (·.1) =
      base.entries.map (·.1) ++ (entries.map (·.1)).map bareName := by
    simp [adding, bareEntries]
  have hapart : ∀ a ∈ base.entries.map (·.1), ∀ b ∈ (entries.map (·.1)).map bareName, a ≠ b := by
    rintro a ha b hb rfl
    obtain ⟨s, hs, rfl⟩ := List.mem_map.mp hb
    obtain ⟨p, hp, rfl⟩ := List.mem_map.mp hs
    have htaken := contains_iff.mpr ha
    rw [fresh p hp] at htaken
    cases htaken
  rw [← List.nodup_map_iff_inj_on nodup]
  constructor
  · intro accepts
    have hall := accepts.nodup
    rw [hnames] at hall
    exact (List.nodup_append.mp hall).2.1
  · intro hbare
    refine ⟨named, ?_⟩
    rw [hnames]
    exact List.nodup_append.mpr ⟨h.nodup, hbare, hapart⟩

/-- New entries that are taken give a frozen registry. -/
theorem WellFormed.extend_yields_frozen_iff (h : base.WellFormed) {entries : List (String × Maker)} :
    (∃ r, base.extend (Offer.ofEntries entries) = .ok r ∧ r.frozen = true) ↔
      base.Accepts entries := by
  constructor
  · rintro ⟨r, hr, -⟩
    obtain ⟨entries', heq, accepts, -⟩ := h.extend_ok_iff.mp hr
    rwa [Offer.ofEntries_injective heq]
  · intro accepts
    exact ⟨_, h.extend_ok_iff.mpr ⟨entries, rfl, accepts, rfl⟩, rfl⟩

end Registry

namespace Plugins

variable {ps : Plugins} {base : Registry Maker}

/-- A name is taken from its first offer: a maker, whose bare name is not empty and not in the base. -/
def Takes (ps : Plugins) (base : Registry Maker) (s : String) : Prop :=
  (∃ maker, Ordered.get? (.text s) ps.offered = some (.callable maker)) ∧
    bareName s ≠ "" ∧ base.contains (bareName s) = false

/-- The offers that are chosen, with the notices of choosing them. -/
theorem exists_chosen (ps : Plugins) (base : Registry Maker) : ∃ ns entries,
    ps.buildRegistry base = (if entries = [] then ⟨ns, .ok base⟩
      else ⟨ns ++ [.extending (sortTexts (entries.map (·.1)))],
        base.extend (Offer.ofEntries entries)⟩) ∧
    (entries.map (·.1)).Nodup ∧ (∀ s, s ∈ entries.map (·.1) ↔ ps.Takes base s) ∧
    (∀ o ∈ ps.offered, (∃ p ∈ entries, o = (.text p.1, .callable p.2)) ∨
      ∃ n ∈ ns, n.LeavesOut o.1) ∧
    ∀ n ∈ ns, n.level = .warning := by
  obtain ⟨ns, collected, hcollect, hcollects⟩ := Offers.collectFrom_collects [] ps.visited
  obtain ⟨ns', husable, hchooses⟩ := Offers.usable_chooses base collected
  have hapart : collected.Apart := hcollects.apart List.Pairwise.nil
  refine ⟨ns ++ ns', collected.filterMap (usable? base), ?_, ?_, fun s => ?_, fun o ho => ?_, ?_⟩
  · have hcollect' : ps.collect = ⟨ns, .ok collected⟩ := hcollect
    unfold buildRegistry
    rw [hcollect', Run.bind_of_ok, husable, Run.bind_of_ok]
    cases collected.filterMap (usable? base) with
    | nil =>
      show (⟨ns ++ (ns' ++ []), .ok base⟩ : Run _) = _
      rw [List.append_nil, if_pos rfl]
    | cons p rest =>
      have hnames : (Offer.ofEntries (p :: rest)).map (·.1) = (p :: rest).map (·.1) := by
        simp [Offer.ofEntries]
      rw [if_neg (List.cons_ne_nil p rest), ← hnames, List.append_assoc]
      rfl
  · refine List.pairwise_map.mpr (List.Pairwise.filterMap _ ?_ hapart)
    rintro a b hab ⟨s, maker⟩ ha ⟨t, maker'⟩ hb rfl
    obtain ⟨rfl, -, -⟩ := usable?_eq_some_iff.mp ha
    obtain ⟨rfl, -, -⟩ := usable?_eq_some_iff.mp hb
    exact hab _ rfl rfl
  · have hfirst : ∀ maker, (.text s, .callable maker) ∈ collected ↔
        Ordered.get? (.text s) ps.offered = some (.callable maker) := by
      intro maker
      rw [← hapart.get?_text_iff, hcollects.first]
      rfl
    rw [List.mem_map]
    constructor
    · rintro ⟨⟨s, maker⟩, hmem, rfl⟩
      obtain ⟨o, ho, hchosen⟩ := List.mem_filterMap.mp hmem
      obtain ⟨rfl, hgood⟩ := usable?_eq_some_iff.mp hchosen
      exact ⟨⟨maker, (hfirst maker).mp ho⟩, hgood⟩
    · rintro ⟨⟨maker, hget⟩, hgood⟩
      refine ⟨(s, maker), List.mem_filterMap.mpr ⟨_, (hfirst maker).mpr hget, ?_⟩, rfl⟩
      exact usable?_eq_some_iff.mpr ⟨rfl, hgood⟩
  · rcases hcollects.told o ho with hkept | ⟨n, hn, hout⟩
    · cases hchosen : usable? base o with
      | none =>
        obtain ⟨n, hn, hout⟩ := hchooses.told o hkept hchosen
        exact .inr ⟨n, List.mem_append_right _ hn, hout⟩
      | some p =>
        obtain ⟨rfl, -⟩ := usable?_eq_some_iff.mp hchosen
        exact .inl ⟨p, List.mem_filterMap.mpr ⟨_, hkept, hchosen⟩, rfl⟩
    · exact .inr ⟨n, List.mem_append_left _ hn, hout⟩
  · intro n hn
    exact (List.mem_append.mp hn).elim (hcollects.warnings n) (hchooses.warnings n)

/-- Building a registry gives back a frozen one exactly when no two names that it can take are bare the
same and the base is frozen unless a name is taken. Whether or not it does, what is left out has a
warning, and the only notice that is no warning tells what the base is extended with. -/
theorem buildRegistry_yields_frozen_iff (h : base.WellFormed) (ps : Plugins) :
    ((ps.buildRegistry base).Yields (fun r => r.frozen = true) ↔
      (∀ s t, ps.Takes base s → ps.Takes base t → bareName s = bareName t → s = t) ∧
        (base.frozen = true ∨ ∃ s, ps.Takes base s)) ∧
    (∀ n ∈ (ps.buildRegistry base).notices, n.level = .warning ∨ ∃ names, n = .extending names) ∧
    ∀ o ∈ ps.offered, (∃ s maker, o = (.text s, .callable maker) ∧ ps.Takes base s) ∨
      ∃ n ∈ (ps.buildRegistry base).notices, n.LeavesOut o.1 := by
  obtain ⟨ns, entries, hbuild, nodup, htakes, htold, hwarn⟩ := ps.exists_chosen base
  have hns : ∀ n ∈ ns, n ∈ (ps.buildRegistry base).notices := by
    intro n hn
    rw [hbuild]
    split
    · exact hn
    · exact List.mem_append_left _ hn
  refine ⟨?_, fun n hn => ?_, fun o ho => ?_⟩
  · rw [hbuild]
    by_cases hnone : entries = []
    · -- nothing is taken, and the base itself comes back
      have hno : ∀ s, ¬ ps.Takes base s := by
        intro s hs
        have hmem := (htakes s).mpr hs
        rw [hnone] at hmem
        cases hmem
      rw [if_pos hnone]
      show (Run.Yields _ ⟨ns, .ok base⟩) ↔ _
      simp [Run.Yields, hno]
    · -- something is taken, so the base is extended or the extension stops
      obtain ⟨p, hp⟩ := List.exists_mem_of_ne_nil _ hnone
      have hsome : ∃ s, ps.Takes base s := ⟨p.1, (htakes p.1).mp (List.mem_map_of_mem hp)⟩
      have hgood : ∀ q ∈ entries, bareName q.1 ≠ "" ∧ base.contains (bareName q.1) = false :=
        fun q hq => ((htakes q.1).mp (List.mem_map_of_mem hq)).2
      have haccepts := h.accepts_iff (fun q hq => (hgood q hq).1) (fun q hq => (hgood q hq).2) nodup
      simp only [htakes] at haccepts
      rw [if_neg hnone, and_iff_left (Or.inr hsome)]
      refine h.extend_yields_frozen_iff.trans (haccepts.trans ⟨?_, ?_⟩)
      · exact fun hall s t hs => hall s hs t
      · exact fun hall s hs t => hall s t hs
  · rw [hbuild] at hn
    split at hn
    · exact .inl (hwarn n hn)
    · rcases List.mem_append.mp hn with hn | hn
      · exact .inl (hwarn n hn)
      · exact .inr ⟨_, List.mem_singleton.mp hn⟩
  · rcases htold o ho with ⟨p, hp, rfl⟩ | ⟨n, hn, hout⟩
    · exact .inl ⟨p.1, p.2, rfl, (htakes p.1).mp (List.mem_map_of_mem hp)⟩
    · exact .inr ⟨n, hns n hn, hout⟩

/-- One plugin that offers makers. -/
def offering (makers : Offers) : Plugins :=
  ⟨[("parity", ⟨⟨"parity", some (.offers makers), true, .fresh, none, fun _ => none⟩, 0, true⟩)], false⟩

theorem offered_offering (makers : Offers) : (offering makers).offered = makers := by
  unfold offered visited offering
  rw [List.mergeSort_singleton, List.flatMap_singleton]
  rfl

/-- Beside the keywords a plugin has its rule in a frozen registry. -/
theorem buildRegistry_yields_frozen_even :
    Registry.builtin.WellFormed ∧
      ((offering [(.text "even", .callable (.keyword .multipleOf))]).buildRegistry
        Registry.builtin).Yields (fun r => r.frozen = true) := by
  refine ⟨Registry.wellFormed_builtin, ?_⟩
  refine (buildRegistry_yields_frozen_iff Registry.wellFormed_builtin _).1.mpr ⟨?_, .inl rfl⟩
  have honly : ∀ s, (offering [(.text "even", .callable (.keyword .multipleOf))]).Takes
      Registry.builtin s → s = "even" := by
    rintro s ⟨⟨maker, hget⟩, -⟩
    rw [offered_offering] at hget
    obtain ⟨name, hmem, hname⟩ := Ordered.mem_of_get? hget
    cases List.mem_singleton.mp hmem
    exact (Scalar.text.inj ((Scalar.text_beq _ _).mp hname)).symm
  intro s t hs ht _
  rw [honly s hs, honly t ht]

/-- A blank before a name that is offered as well stops the building, and a base that is not frozen
comes back when there are no plugins. -/
theorem buildRegistry_not_frozen :
    let even : Offer Maker := .callable (.keyword .multipleOf)
    Registry.builtin.WellFormed ∧ (Registry.empty : Registry Maker).WellFormed ∧
      ((offering [(.text "even", even), (.text " even", even)]).buildRegistry
        Registry.builtin).result = .error (.alreadyRegistered "even") ∧
      ¬ (empty.buildRegistry Registry.empty).Yields (fun r => r.frozen = true) := by
  intro even
  refine ⟨Registry.wellFormed_builtin, Registry.wellFormed_empty, ?_, ?_⟩
  · have hvisited : (offering [(.text "even", even), (.text " even", even)]).visited =
        (offering [(.text "even", even), (.text " even", even)]).entries :=
      List.mergeSort_singleton _
    unfold buildRegistry collect
    rw [hvisited]
    rfl
  · rintro ⟨r, hr, hfrozen⟩
    have hvisited : empty.visited = [] := List.mergeSort_nil
    unfold buildRegistry collect at hr
    rw [hvisited] at hr
    cases hr
    cases hfrozen

end Plugins

end Rulebook
