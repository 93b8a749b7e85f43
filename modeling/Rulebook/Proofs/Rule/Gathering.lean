import Rulebook.Rule.Gathering
import Rulebook.Proofs.Rule.Nesting

/-!
Gatherings complete in any order. After the rules in some places have completed, those slots are filled
with what their rules come to and the others are as they were: this holds at the start and each
completion keeps it. So once all have completed, in whatever order, the slots hold the outcomes of all
rules in the order of the list, and merged these are the outcome of the composition.
-/

namespace Rulebook

/-- A slot once its rule has completed. -/
def Slot.filled (v : Value) (s : Slot) : Slot := { s with outcome? := some (s.check v false).value }

namespace Gathering

/-! ### Slots -/

theorem slotsFrom_checks (index : Nat) (checks : List (Option Check)) :
    (slotsFrom index checks).map (·.check) = Check.present checks := by
  induction checks generalizing index with
  | nil => rfl
  | cons c rest ih =>
    cases c with
    | none => exact ih (index + 1)
    | some c => exact congrArg (c :: ·) (ih (index + 1))

theorem slotsFrom_unfilled (index : Nat) (checks : List (Option Check)) :
    ∀ s ∈ slotsFrom index checks, s.outcome? = none := by
  induction checks generalizing index with
  | nil => exact nofun
  | cons c rest ih =>
    cases c with
    | none => exact ih (index + 1)
    | some c => exact List.forall_mem_cons.mpr ⟨rfl, ih (index + 1)⟩

/-- The slots have the indexes of the rules that are given. -/
theorem mem_slotsFrom_indexes {index i : Nat} {checks : List (Option Check)} :
    i ∈ (slotsFrom index checks).map (·.index) ↔
      ∃ j c, i = index + j ∧ checks[j]? = some (some c) := by
  induction checks generalizing index with
  | nil => simp [slotsFrom]
  | cons c rest ih =>
    have hrest : (∃ j c', i = index + 1 + j ∧ rest[j]? = some (some c')) ↔
        ∃ j c', i = index + (j + 1) ∧ (c :: rest)[j + 1]? = some (some c') := by
      simp only [List.getElem?_cons_succ, Nat.add_assoc, Nat.add_comm 1]
    rw [← Nat.or_exists_add_one, ← hrest, ← ih]
    cases c with
    | none => simp [slotsFrom]
    | some c => simp [slotsFrom]

theorem slotsFrom_indexes_nodup (index : Nat) (checks : List (Option Check)) :
    ((slotsFrom index checks).map (·.index)).Nodup := by
  induction checks generalizing index with
  | nil => exact List.nodup_nil
  | cons c rest ih =>
    cases c with
    | none => exact ih (index + 1)
    | some c =>
      refine List.nodup_cons.mpr ⟨fun hmem => ?_, ih (index + 1)⟩
      obtain ⟨j, c', hj, -⟩ := mem_slotsFrom_indexes.mp hmem
      have hlt : index < index + 1 + j := by omega
      exact absurd hj hlt.ne

/-- The slots in some places. -/
def slotsAt (slots : List Slot) (places : List Nat) : List Slot := places.filterMap (slots[·]?)

theorem slotsAt_append (slots : List Slot) (places more : List Nat) :
    slotsAt slots (places ++ more) = slotsAt slots places ++ slotsAt slots more :=
  List.filterMap_append

theorem slotsAt_cons {slots : List Slot} {place : Nat} {s : Slot} (hs : slots[place]? = some s)
    (places : List Nat) : slotsAt slots (place :: places) = s :: slotsAt slots places :=
  List.filterMap_cons_some hs

theorem slotsAt_range (slots : List Slot) : slotsAt slots (List.range slots.length) = slots := by
  induction slots with
  | nil => rfl
  | cons s rest ih =>
    rw [slotsAt, List.length_cons, List.range_succ_eq_map, List.filterMap_cons, List.filterMap_map]
    exact congrArg (s :: ·) ih

/-! ### Completions -/

/-- How far a gathering has come when the rules in some places have completed, one after another. -/
structure Reached (v : Value) (slots : List Slot) (places : List Nat) (g : Gathering) : Prop where
  slot : ∀ i, g.slots[i]? = slots[i]?.map fun s => if i ∈ places then s.filled v else s
  ran : g.ran = (slotsAt slots places).map (·.index)

namespace Reached

variable {v : Value} {slots : List Slot} {places : List Nat} {g : Gathering}

theorem start (v : Value) (slots : List Slot) : Reached v slots [] ⟨slots, []⟩ := by
  refine ⟨fun i => ?_, rfl⟩
  simp

/-- A rule that completes fills its slot, leaves the others and sends what it sends. -/
theorem complete (h : Reached v slots places g) {place : Nat} {s : Slot}
    (hs : slots[place]? = some s) (unfilled : s.outcome? = none) (new : place ∉ places)
    (returns : (s.check v false).Returns) :
    ∃ g', g.complete v place = ⟨(s.check v false).notices, .ok g'⟩ ∧
      Reached v slots (places ++ [place]) g' := by
  obtain ⟨index, check, _⟩ := s
  subst unfilled
  have hslot : g.slots[place]? = some ⟨index, check, none⟩ := by
    rw [h.slot, hs, Option.map_some, if_neg new]
  obtain ⟨o, ho⟩ := returns
  have hcheck : check v false = ⟨(check v false).notices, .ok o⟩ := by rw [← ho]
  have hvalue : (check v false).value = o := Run.value_of_ok ho
  refine ⟨⟨g.slots.set place ⟨index, check, some o⟩, g.ran ++ [index]⟩, ?_, ?_⟩
  · unfold Gathering.complete
    rw [hslot]
    dsimp only
    rw [hcheck, Run.bind_of_ok]
    simp [pure, Run.ret]
  · constructor
    · intro i
      dsimp only
      rw [List.getElem?_set]
      by_cases hi : place = i
      · subst hi
        have hlt : place < g.slots.length := (List.getElem?_eq_some_iff.mp hslot).1
        simp [hlt, hs, Slot.filled, hvalue]
      · rw [if_neg hi, h.slot]
        simp [Ne.symm hi]
    · rw [h.ran, slotsAt_append, List.map_append]
      simp [slotsAt, hs]

/-- Rules that complete one after another, each once, are reached in that order and send what each of
them sends, also where some of them fail. -/
theorem completeAll {order : List Nat} (h : Reached v slots places g)
    (unfilled : ∀ s ∈ slots, s.outcome? = none) (returns : ∀ s ∈ slots, (s.check v false).Returns)
    (within : ∀ i ∈ order, i < slots.length) (nodup : (places ++ order).Nodup) :
    ∃ g', g.completeAll v order =
        ⟨(slotsAt slots order).flatMap fun s => (s.check v false).notices, .ok g'⟩ ∧
      Reached v slots (places ++ order) g' := by
  induction order generalizing places g with
  | nil =>
    refine ⟨g, rfl, ?_⟩
    rw [List.append_nil]
    exact h
  | cons place rest ih =>
    obtain ⟨hplace, hrest⟩ := List.forall_mem_cons.mp within
    have hs : slots[place]? = some slots[place] := List.getElem?_eq_getElem hplace
    have hmem : slots[place] ∈ slots := List.getElem_mem hplace
    have hsplit : places ++ place :: rest = places ++ [place] ++ rest := by simp
    have new : place ∉ places := by
      intro hmem'
      exact (List.nodup_append.mp nodup).2.2 _ hmem' _ (List.mem_cons_self ..) rfl
    obtain ⟨g₁, hg₁, h₁⟩ := h.complete hs (unfilled _ hmem) new (returns _ hmem)
    obtain ⟨g', hg', h'⟩ := ih h₁ hrest (hsplit ▸ nodup)
    refine ⟨g', ?_, hsplit ▸ h'⟩
    rw [Gathering.completeAll, hg₁, Run.bind_of_ok, hg', slotsAt_cons hs]
    rfl

/-- Once all rules have completed, each slot is filled. -/
theorem slots_eq (h : Reached v slots places g) (all : ∀ i < slots.length, i ∈ places) :
    g.slots = slots.map (Slot.filled v) := by
  refine List.ext_getElem? fun i => ?_
  rw [h.slot, List.getElem?_map]
  by_cases hi : i < slots.length
  · rw [List.getElem?_eq_getElem hi, Option.map_some, Option.map_some, if_pos (all i hi)]
  · rw [List.getElem?_eq_none (Nat.le_of_not_lt hi), Option.map_none, Option.map_none]

end Reached

theorem outcomes?_filled (v : Value) (slots : List Slot) :
    outcomes? (slots.map (Slot.filled v)) = some (slots.map fun s => (s.check v false).value) := by
  induction slots with
  | nil => rfl
  | cons s rest ih =>
    rw [List.map_cons, outcomes?, ih]
    rfl

/-- Rules that are gathered come to what they come to as a composition, with the same failures in the
same order, whatever the order in which they complete. Each rule that is given runs once, whether others
fail or not, and no rule runs twice. -/
theorem run_any_order (checks : List (Option Check)) (v : Value)
    (returns : ∀ c, some c ∈ checks → (c v false).Returns) (order : List Nat)
    (all : order.Perm (List.range (Check.present checks).length)) :
    ∃ g o, (run order checks v).result = .ok g ∧ g.outcome? = some o ∧
      (Check.combine .compose checks v false).result = .ok o ∧
      g.ran.Nodup ∧ (∀ i, i ∈ g.ran ↔ ∃ c, checks[i]? = some (some c)) ∧
      (run order checks v).notices.Perm
        ((Check.present checks).flatMap fun c => (c v false).notices) := by
  have hpresent : ∀ c ∈ Check.present checks, (c v false).Returns :=
    fun c hc => returns c (Check.mem_present_iff.mp hc)
  have hchecks : (slotsFrom 0 checks).map (·.check) = Check.present checks := slotsFrom_checks 0 checks
  have hlength : (slotsFrom 0 checks).length = (Check.present checks).length := by
    rw [← hchecks, List.length_map]
  have hslots : ∀ s ∈ slotsFrom 0 checks, (s.check v false).Returns := by
    intro s hs
    exact hpresent _ (hchecks ▸ List.mem_map_of_mem hs)
  rw [← hlength] at all
  have within : ∀ i ∈ order, i < (slotsFrom 0 checks).length :=
    fun i hi => List.mem_range.mp (all.mem_iff.mp hi)
  have hplaces : (slotsAt (slotsFrom 0 checks) order).Perm (slotsFrom 0 checks) := by
    have h := all.filterMap ((slotsFrom 0 checks)[·]?)
    rwa [← slotsAt, ← slotsAt, slotsAt_range] at h
  obtain ⟨g, hrun, hreached⟩ := (Reached.start v (slotsFrom 0 checks)).completeAll
    (slotsFrom_unfilled 0 checks) hslots within (all.nodup_iff.mpr List.nodup_range)
  have hrun' : run order checks v = _ := hrun
  have hran : g.ran.Perm ((slotsFrom 0 checks).map (·.index)) := by
    rw [hreached.ran]
    exact hplaces.map _
  refine ⟨g, _, ?_, ?_, Check.compose_plain_ok_iff.mpr ⟨hpresent, rfl⟩, ?_, fun i => ?_, ?_⟩
  · rw [hrun']
  · rw [outcome?, hreached.slots_eq fun i hi => all.mem_iff.mpr (List.mem_range.mpr hi),
      outcomes?_filled, Check.outcomes, ← hchecks, List.map_map]
    rfl
  · exact hran.nodup_iff.mpr (slotsFrom_indexes_nodup 0 checks)
  · rw [hran.mem_iff, mem_slotsFrom_indexes]
    simp
  · rw [hrun', ← hchecks, List.flatMap_map]
    exact hplaces.flatMap_right _

/-- A bound on a length, a format that is unknown and a stricter bound complete in reverse order: the
text fails both bounds, and the last in the list is reported. -/
theorem run_any_order_reversed :
    let short := Rule.leaf (.size .least .length (.int 3))
    let format := Rule.leaf (.format (.text "slug"))
    let long := Rule.leaf (.size .least .length (.int 5))
    let checks : List (Option Check) := [some short.check, none, some format.check, some long.check]
    ∃ g o, (run [2, 1, 0] checks (.text "ab")).result = .ok g ∧ g.outcome? = some o ∧
      (Check.combine .compose checks (.text "ab") false).result = .ok o ∧ g.ran = [3, 2, 0] ∧
      o.errors = [("minLength", Leaf.detail (.size .least .length (.int 5)) (.text "ab"))] := by
  intro short format long checks
  have returns : ∀ c, some c ∈ checks → (c (.text "ab") false).Returns := by
    intro c hc
    have hmem : c = short.check ∨ c = format.check ∨ c = long.check := by
      simpa [checks] using hc
    rcases hmem with rfl | rfl | rfl <;> exact ⟨_, rfl⟩
  have all : [2, 1, 0].Perm (List.range (Check.present checks).length) :=
    (by decide : [2, 1, 0].Perm (List.range 3))
  obtain ⟨g, o, hrun, ho, hcompose, -, -, -⟩ := run_any_order checks (.text "ab") returns _ all
  refine ⟨g, o, hrun, ho, hcompose, ?_, ?_⟩
  · cases hrun
    rfl
  · cases hcompose
    rfl

end Gathering

end Rulebook
