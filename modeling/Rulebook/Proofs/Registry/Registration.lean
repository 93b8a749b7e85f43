import Mathlib
import Rulebook.Registry.Basic
import Rulebook.Proofs.Run
import Rulebook.Proofs.Value.Ordered

/-!
Registration. A registry that is not frozen takes an entry unless the bare name is empty or taken or
there is nothing to call. Names are kept bare, and a bare name is its own bare name; so the entries of
a registry register again as they are, and an extension is stopped only by an offer of its own.
-/

namespace Rulebook

/-! ### Bare names -/

/-- A trimmed text starts with no blank, because trimming its end keeps its start. -/
theorem dropWhile_trimBlanks (cs : List Char) :
    (trimBlanks cs).dropWhile isBlank = trimBlanks cs := by
  rw [List.dropWhile_eq_self_iff]
  intro hl
  have hpre : trimBlanks cs <+: cs.dropWhile isBlank := List.rdropWhile_prefix isBlank _
  show ¬ isBlank ((trimBlanks cs)[0]) = true
  rw [hpre.getElem hl]
  exact List.dropWhile_get_zero_not isBlank cs (hl.trans_le hpre.length_le)

theorem trimBlanks_trimBlanks (cs : List Char) : trimBlanks (trimBlanks cs) = trimBlanks cs := by
  show ((trimBlanks cs).dropWhile isBlank).rdropWhile isBlank = _
  rw [dropWhile_trimBlanks]
  exact List.rdropWhile_idempotent isBlank _

theorem bareName_bareName (name : String) : bareName (bareName name) = bareName name := by
  unfold bareName
  rw [String.toList_ofList, trimBlanks_trimBlanks]

variable {α : Type}

/-- Entries put forward to be registered. -/
def Offer.ofEntries (entries : List (String × α)) : List (String × Offer α) :=
  entries.map fun (name, entry) => (name, .callable entry)

theorem Offer.ofEntries_injective : Function.Injective (Offer.ofEntries (α := α)) := by
  refine List.map_injective_iff.mpr ?_
  rintro ⟨name, entry⟩ ⟨name', entry'⟩ ⟨⟩
  rfl

/-- Entries under their bare names. -/
def bareEntries (entries : List (String × α)) : List (String × α) :=
  entries.map fun (name, entry) => (bareName name, entry)

namespace Registry

variable {r r' : Registry α} {name : String} {offer : Offer α}

theorem contains_iff : r.contains name = true ↔ name ∈ r.entries.map (·.1) := by
  have hnone := Ordered.get?_eq_none_iff (k := name) (Ordered.told_of_lawful r.entries)
  unfold contains lookup?
  rw [← not_iff_not, ← hnone]
  cases Ordered.get? name r.entries <;> simp

/-- Names are bare and not empty and stand once each. -/
structure WellFormed (r : Registry α) : Prop where
  bare : ∀ p ∈ r.entries, bareName p.1 = p.1
  named : ∀ p ∈ r.entries, p.1 ≠ ""
  nodup : (r.entries.map (·.1)).Nodup

theorem wellFormed_empty : (empty : Registry α).WellFormed :=
  ⟨by simp [empty], by simp [empty], by simp [empty]⟩

theorem WellFormed.bareEntries_eq (h : r.WellFormed) : bareEntries r.entries = r.entries := by
  unfold bareEntries
  conv_rhs => rw [← List.map_id r.entries]
  exact List.map_congr_left fun p hp => Prod.ext (h.bare p hp) rfl

/-! ### One offer -/

/-- Why a registry that is not frozen refuses an offer. -/
inductive Refuses (r : Registry α) (name : String) : Offer α → Fault → Prop
  | blank {offer : Offer α} (blank : bareName name = "") : Refuses r name offer .emptyRuleName
  | inert (named : bareName name ≠ "") : Refuses r name .inert (.notCallable (bareName name))
  | taken {entry : α} (named : bareName name ≠ "") (mem : bareName name ∈ r.entries.map (·.1)) :
      Refuses r name (.callable entry) (.alreadyRegistered (bareName name))

/-- A refusal is about the entries. -/
theorem Refuses.of_entries {f : Fault} (h : r.Refuses name offer f) (entries : r'.entries = r.entries) :
    r'.Refuses name offer f := by
  cases h with
  | blank blank => exact .blank blank
  | inert named => exact .inert named
  | taken named mem => exact .taken named (entries ▸ mem)

theorem isEmpty_bareName : (bareName name).isEmpty = true ↔ bareName name = "" :=
  String.isEmpty_iff

/-- A registry takes a callable entry under a bare name that is not empty and new. -/
theorem register_ok_iff : r.register name offer = .ok r' ↔
    r.frozen = false ∧ bareName name ≠ "" ∧ bareName name ∉ r.entries.map (·.1) ∧
      ∃ entry, offer = .callable entry ∧
        r' = { r with entries := r.entries ++ [(bareName name, entry)] } := by
  unfold register
  rw [← contains_iff, ne_eq, ← isEmpty_bareName]
  constructor
  · intro h
    split at h
    · cases h
    · next hopen =>
      dsimp only at h
      split at h
      · cases h
      · next named =>
        split at h
        · cases h
        · next entry =>
          split at h
          · cases h
          · next hnew =>
            cases h
            exact ⟨Bool.not_eq_true _ ▸ hopen, named, hnew, entry, rfl, rfl⟩
  · rintro ⟨hopen, named, hnew, entry, rfl, rfl⟩
    simp [hopen, named, hnew]

theorem register_error_iff {f : Fault} : r.register name offer = .error f ↔
    (r.frozen = true ∧ f = .registryFrozen name) ∨ (r.frozen = false ∧ r.Refuses name offer f) := by
  unfold register
  constructor
  · intro h
    split at h
    · next hfrozen =>
      cases h
      exact .inl ⟨hfrozen, rfl⟩
    · next hopen =>
      refine .inr ⟨Bool.not_eq_true _ ▸ hopen, ?_⟩
      dsimp only at h
      split at h
      · next hblank =>
        cases h
        exact .blank (isEmpty_bareName.mp hblank)
      · next hnamed =>
        have named : bareName name ≠ "" := fun h => hnamed (isEmpty_bareName.mpr h)
        split at h
        · cases h
          exact .inert named
        · split at h
          · next htaken =>
            cases h
            exact .taken named (contains_iff.mp htaken)
          · cases h
  · rintro (⟨hfrozen, rfl⟩ | ⟨hopen, hrefuses⟩)
    · rw [if_pos hfrozen]
    · cases hrefuses with
      | blank blank => simp [hopen, blank]
      | inert named => simp [hopen, named]
      | taken named mem => simp [hopen, named, contains_iff.mpr mem]

/-! ### Several offers -/

/-- A registry with some more entries under their bare names. -/
def adding (r : Registry α) (entries : List (String × α)) : Registry α :=
  { r with entries := r.entries ++ bareEntries entries }

theorem adding_nil (r : Registry α) : r.adding [] = r := by
  simp [adding, bareEntries]

theorem adding_cons (r : Registry α) (p : String × α) (entries : List (String × α)) :
    r.adding (p :: entries) = (r.adding [p]).adding entries := by
  simp [adding, bareEntries]

/-- Entries that a registry takes one after another. -/
structure Accepts (r : Registry α) (entries : List (String × α)) : Prop where
  named : ∀ p ∈ entries, bareName p.1 ≠ ""
  nodup : ((r.adding entries).entries.map (·.1)).Nodup

theorem Accepts.nil (nodup : (r.entries.map (·.1)).Nodup) : r.Accepts [] := by
  refine ⟨by simp, ?_⟩
  rwa [adding_nil]

/-- Names with one more stand once each when they do and it is new. -/
theorem nodup_adding_iff {p : String × α} (nodup : (r.entries.map (·.1)).Nodup) :
    ((r.adding [p]).entries.map (·.1)).Nodup ↔ bareName p.1 ∉ r.entries.map (·.1) := by
  have hnames : (r.adding [p]).entries.map (·.1) = r.entries.map (·.1) ++ [bareName p.1] := by
    simp [adding, bareEntries]
  rw [hnames, List.nodup_append]
  constructor
  · rintro ⟨-, -, hnew⟩ hmem
    exact hnew _ hmem _ (List.mem_singleton_self _) rfl
  · intro hnew
    refine ⟨nodup, List.nodup_singleton _, fun a ha b hb => ?_⟩
    rintro rfl
    exact hnew (List.mem_singleton.mp hb ▸ ha)

/-- Entries are taken when the first is and the others are taken after it. -/
theorem accepts_cons_iff {p : String × α} {entries : List (String × α)}
    (nodup : (r.entries.map (·.1)).Nodup) : r.Accepts (p :: entries) ↔
      bareName p.1 ≠ "" ∧ bareName p.1 ∉ r.entries.map (·.1) ∧ (r.adding [p]).Accepts entries := by
  constructor
  · rintro ⟨named, hall⟩
    rw [adding_cons] at hall
    obtain ⟨hp, hentries⟩ := List.forall_mem_cons.mp named
    refine ⟨hp, (nodup_adding_iff nodup).mp ?_, hentries, hall⟩
    rw [adding, List.map_append] at hall
    exact (List.nodup_append.mp hall).1
  · rintro ⟨hp, -, hentries, hall⟩
    refine ⟨List.forall_mem_cons.mpr ⟨hp, hentries⟩, ?_⟩
    rwa [adding_cons]

/-- Offers are all registered when they are entries that the registry takes. -/
theorem registerAll_ok_iff {offers : List (String × Offer α)} (hopen : r.frozen = false)
    (nodup : (r.entries.map (·.1)).Nodup) : r.registerAll offers = .ok r' ↔
      ∃ entries, offers = Offer.ofEntries entries ∧ r.Accepts entries ∧ r' = r.adding entries := by
  induction offers generalizing r with
  | nil =>
    constructor
    · rintro ⟨⟩
      exact ⟨[], rfl, .nil nodup, (adding_nil _).symm⟩
    · rintro ⟨entries, hentries, -, rfl⟩
      rw [List.map_eq_nil_iff.mp hentries.symm, adding_nil]
      rfl
  | cons o rest ih =>
    obtain ⟨name, offer⟩ := o
    rw [registerAll, Except.bind_ok_iff]
    constructor
    · rintro ⟨r₁, h₁, hrest⟩
      obtain ⟨-, named, hnew, entry, rfl, rfl⟩ := register_ok_iff.mp h₁
      have nodup₁ := (nodup_adding_iff (p := (name, entry)) nodup).mpr hnew
      obtain ⟨entries, rfl, accepts, rfl⟩ := (ih (r := r.adding [(name, entry)]) hopen nodup₁).mp hrest
      exact ⟨(name, entry) :: entries, rfl, (accepts_cons_iff nodup).mpr ⟨named, hnew, accepts⟩,
        (adding_cons r _ entries).symm⟩
    · rintro ⟨_ | ⟨p, entries⟩, hoffers, accepts, rfl⟩
      · cases hoffers
      · cases hoffers
        obtain ⟨named, hnew, accepts⟩ := (accepts_cons_iff nodup).mp accepts
        refine ⟨r.adding [p], register_ok_iff.mpr ⟨hopen, named, hnew, p.2, rfl, rfl⟩, ?_⟩
        have nodup₁ := (nodup_adding_iff nodup).mpr hnew
        exact (ih (r := r.adding [p]) hopen nodup₁).mpr ⟨entries, rfl, accepts, adding_cons r p entries⟩

/-- Offers are stopped by the first that is refused after those before it are taken. -/
theorem registerAll_error_iff {offers : List (String × Offer α)} {f : Fault} :
    r.registerAll offers = .error f ↔ ∃ before name offer after r₁,
      offers = before ++ (name, offer) :: after ∧ r.registerAll before = .ok r₁ ∧
        r₁.register name offer = .error f := by
  induction offers generalizing r with
  | nil =>
    constructor
    · rintro ⟨⟩
    · rintro ⟨before, _, _, _, _, hoffers, -⟩
      cases before <;> cases hoffers
  | cons o rest ih =>
    obtain ⟨name, offer⟩ := o
    rw [registerAll]
    cases hfirst : r.register name offer with
    | error f' =>
      constructor
      · rintro ⟨⟩
        exact ⟨[], name, offer, rest, r, rfl, rfl, hfirst⟩
      · rintro ⟨_ | ⟨o, before⟩, name', offer', after, r₁, hoffers, hbefore, hlast⟩
        · cases hoffers
          cases hbefore
          rw [hfirst] at hlast
          cases hlast
          rfl
        · cases hoffers
          rw [registerAll, hfirst] at hbefore
          cases hbefore
    | ok r₂ =>
      show r₂.registerAll rest = .error f ↔ _
      rw [ih]
      constructor
      · rintro ⟨before, name', offer', after, r₁, rfl, hbefore, hlast⟩
        refine ⟨(name, offer) :: before, name', offer', after, r₁, rfl, ?_, hlast⟩
        rw [registerAll, hfirst]
        exact hbefore
      · rintro ⟨_ | ⟨o, before⟩, name', offer', after, r₁, hoffers, hbefore, hlast⟩
        · cases hoffers
          cases hbefore
          rw [hfirst] at hlast
          cases hlast
        · cases hoffers
          rw [registerAll, hfirst] at hbefore
          exact ⟨before, name', offer', after, r₁, rfl, hbefore, hlast⟩

/-- What is taken keeps a registry well formed. -/
theorem WellFormed.of_accepts {entries : List (String × α)} (h : r.WellFormed)
    (accepts : r.Accepts entries) : (r.adding entries).WellFormed := by
  have hnew : ∀ p ∈ bareEntries entries, bareName p.1 = p.1 ∧ p.1 ≠ "" := by
    intro p hp
    obtain ⟨q, hq, rfl⟩ := List.mem_map.mp hp
    exact ⟨bareName_bareName q.1, accepts.named q hq⟩
  refine ⟨fun p hp => ?_, fun p hp => ?_, accepts.nodup⟩
  · exact (List.mem_append.mp hp).elim (h.bare p) fun hp => (hnew p hp).1
  · exact (List.mem_append.mp hp).elim (h.named p) fun hp => (hnew p hp).2

theorem WellFormed.register (h : r.WellFormed) (hr : r.register name offer = .ok r') :
    r'.WellFormed := by
  obtain ⟨-, named, hnew, entry, -, rfl⟩ := register_ok_iff.mp hr
  have accepts : r.Accepts [(name, entry)] :=
    (accepts_cons_iff h.nodup).mpr ⟨named, hnew, .nil ((nodup_adding_iff h.nodup).mpr hnew)⟩
  exact h.of_accepts accepts

/-! ### Extension -/

/-- The entries of a well-formed registry are registered again as they are. -/
theorem WellFormed.ofList_entries (h : r.WellFormed) :
    ofList (Offer.ofEntries r.entries) = .ok ⟨r.entries, false⟩ := by
  have hadding : (empty : Registry α).adding r.entries = ⟨r.entries, false⟩ := by
    rw [adding, h.bareEntries_eq]
    rfl
  refine (registerAll_ok_iff rfl wellFormed_empty.nodup).mpr
    ⟨r.entries, rfl, ⟨fun p hp => ?_, ?_⟩, hadding.symm⟩
  · rw [h.bare p hp]
    exact h.named p hp
  · rw [hadding]
    exact h.nodup

/-- An extension copies the entries, registers the new offers and freezes. -/
theorem WellFormed.extend_eq (h : r.WellFormed) (extra : List (String × Offer α)) :
    r.extend extra = (registerAll ⟨r.entries, false⟩ extra).map freeze := by
  unfold extend
  show (ofList (Offer.ofEntries r.entries) >>= fun copy => _) = _
  rw [h.ofList_entries]
  rfl

/-- A copy that is not frozen registers offers that are entries the registry takes. -/
theorem WellFormed.registerAll_copy_iff (h : r.WellFormed) {offers : List (String × Offer α)} :
    registerAll ⟨r.entries, false⟩ offers = .ok r' ↔ ∃ entries, offers = Offer.ofEntries entries ∧
      r.Accepts entries ∧ r' = ⟨r.entries ++ bareEntries entries, false⟩ := by
  refine (registerAll_ok_iff rfl (by exact h.nodup)).trans ?_
  refine exists_congr fun entries => and_congr_right fun _ => and_congr ?_ Iff.rfl
  constructor
  · intro accepts
    exact ⟨accepts.named, accepts.nodup⟩
  · intro accepts
    exact ⟨accepts.named, accepts.nodup⟩

/-- A well-formed registry is extended by offers that are entries it takes. -/
theorem WellFormed.extend_ok_iff (h : r.WellFormed) {extra : List (String × Offer α)} :
    r.extend extra = .ok r' ↔ ∃ entries, extra = Offer.ofEntries entries ∧ r.Accepts entries ∧
      r' = (r.adding entries).freeze := by
  rw [h.extend_eq]
  constructor
  · intro hextend
    cases hr : registerAll ⟨r.entries, false⟩ extra with
    | error f => rw [hr] at hextend; cases hextend
    | ok r₁ =>
      rw [hr] at hextend
      cases hextend
      obtain ⟨entries, hextra, accepts, rfl⟩ := h.registerAll_copy_iff.mp hr
      exact ⟨entries, hextra, accepts, rfl⟩
  · rintro ⟨entries, hextra, accepts, rfl⟩
    rw [h.registerAll_copy_iff.mpr ⟨entries, hextra, accepts, rfl⟩]
    rfl

/-- Only an offer of its own stops the extension of a well-formed registry: the first that is refused
after those before it are taken. -/
theorem WellFormed.extend_error_iff (h : r.WellFormed) {extra : List (String × Offer α)} {f : Fault} :
    r.extend extra = .error f ↔ ∃ entries name offer after,
      extra = Offer.ofEntries entries ++ (name, offer) :: after ∧ r.Accepts entries ∧
        (r.adding entries).Refuses name offer f := by
  have hstops : r.extend extra = .error f ↔ registerAll ⟨r.entries, false⟩ extra = .error f := by
    rw [h.extend_eq]
    cases registerAll ⟨r.entries, false⟩ extra <;> simp [Except.map]
  rw [hstops, registerAll_error_iff]
  constructor
  · rintro ⟨before, name, offer, after, r₁, rfl, hbefore, hlast⟩
    obtain ⟨entries, rfl, accepts, rfl⟩ := h.registerAll_copy_iff.mp hbefore
    refine ⟨entries, name, offer, after, rfl, accepts, ?_⟩
    obtain ⟨hfrozen, -⟩ | ⟨-, hrefuses⟩ := register_error_iff.mp hlast
    · cases hfrozen
    · exact hrefuses.of_entries rfl
  · rintro ⟨entries, name, offer, after, rfl, accepts, hrefuses⟩
    refine ⟨_, name, offer, after, _, rfl,
      h.registerAll_copy_iff.mpr ⟨entries, rfl, accepts, rfl⟩, ?_⟩
    exact register_error_iff.mpr (.inr ⟨rfl, hrefuses.of_entries rfl⟩)

theorem WellFormed.extend (h : r.WellFormed) {extra : List (String × Offer α)}
    (hr : r.extend extra = .ok r') : r'.WellFormed := by
  obtain ⟨entries, -, accepts, rfl⟩ := h.extend_ok_iff.mp hr
  have hadding := h.of_accepts accepts
  exact ⟨hadding.bare, hadding.named, hadding.nodup⟩

end Registry

end Rulebook
