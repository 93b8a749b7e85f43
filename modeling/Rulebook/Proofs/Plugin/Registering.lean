import Rulebook.Plugin.Calls
import Rulebook.Proofs.Plugin.Walking

/-!
Whose offer is taken. After any history of registrations and their ends, the plugins that are registered
are those of the registrations that last, in the order of the history. Offers are collected in another
order, that of the places of the plugins: of several plugins that offer a rule the one of the first
place has its offer taken. That is the one registered first unless another has a place before it.
-/

namespace Rulebook

namespace Plugins

/-! ### Histories -/

/-- The plugins after some registrations and ends of registrations. -/
def history (changes : List Change) : Plugins := afterAll empty (changes.map .change)

/-- A plugin is taken in under a name when neither the name nor the plugin is there. -/
def Admits (ps : Plugins) (name : String) (p : Plugin) : Prop :=
  ps.contains name = false ∧ ps.holds p = false

/-- A registration that lasts: a change of the history registers the plugin under the name, is not
refused, and no later change ends it. -/
structure Lasts (changes : List Change) (i : Nat) (name : String) (p : Plugin) : Prop where
  registers : ∃ given, changes[i]? = some (.register given p) ∧ p.nameOr given = name
  admitted : (history (changes.take i)).Admits name p
  kept : ∀ j q, i < j → changes[j]? = some (.unregister q) → q.same p = false

theorem history_concat (changes : List Change) (c : Change) :
    history (changes ++ [c]) = (history changes).after (.change c) := by
  simp [history, afterAll]

theorem after_of_ok {ps ps' : Plugins} {call : Call} (h : (ps.perform call).result = .ok ps') :
    ps.after call = ps' := by
  unfold after
  rw [h]

/-- A registration leaves the same whether it returns or not: its plugin is added before it is looked
through. -/
theorem after_register (ps : Plugins) (given : Option String) (p : Plugin) :
    ps.after (.change (.register given p)) = ps.enter (p.nameOr given) p := by
  have hperform : ps.perform (.change (.register given p)) = ps.register (p.nameOr given) p := rfl
  unfold after
  rw [hperform, register, left, enter]
  cases ps.insert (p.nameOr given) p with
  | error f => rfl
  | ok entered => cases p.flaw <;> rfl

theorem after_register_entries (ps : Plugins) (given : Option String) (p : Plugin) :
    (ps.after (.change (.register given p))).entries =
      if ps.contains (p.nameOr given) || ps.holds p then ps.entries
      else ps.entries ++ [(p.nameOr given, p)] := by
  rw [after_register, enter, insert]
  cases ps.contains (p.nameOr given) with
  | true => rfl
  | false => cases ps.holds p <;> rfl

theorem after_unregister_entries (ps : Plugins) (q : Plugin) :
    (ps.after (.change (.unregister q))).entries = ps.entries.filter fun e => !q.same e.2 := by
  have hperform : (ps.perform (.change (.unregister q))).result = ps.unregister q := rfl
  unfold after left
  rw [hperform, unregister]
  cases hholds : ps.holds q with
  | true => rfl
  | false =>
    -- a plugin that is not registered is that of no entry
    have hnone : ∀ e ∈ ps.entries, (!q.same e.2) = true := by
      simpa [holds] using hholds
    exact (List.filter_eq_self.mpr hnone).symm

/-- What is at a place of a list with one item more. -/
theorem getElem?_concat_iff {α : Type} {xs : List α} {x a : α} {i : Nat} :
    (xs ++ [x])[i]? = some a ↔ xs[i]? = some a ∨ (i = xs.length ∧ x = a) := by
  rcases lt_trichotomy i xs.length with hlt | rfl | hgt
  · rw [List.getElem?_append_left hlt]
    simp [hlt.ne]
  · simp
  · have hend : (xs ++ [x]).length ≤ i := by
      rw [List.length_append, List.length_singleton]
      exact hgt
    rw [List.getElem?_eq_none hend, List.getElem?_eq_none hgt.le]
    simp [hgt.ne']

section

variable {changes : List Change} {c : Change} {i : Nat} {name : String} {p : Plugin}

theorem Lasts.lt_length (h : Lasts changes i name p) : i < changes.length := by
  obtain ⟨given, hcall, -⟩ := h.registers
  exact (List.getElem?_eq_some_iff.mp hcall).1

/-- One change more keeps the registrations that it does not end, and may add its own. -/
theorem lasts_concat_iff : Lasts (changes ++ [c]) i name p ↔
    (Lasts changes i name p ∧ ∀ q, c = .unregister q → q.same p = false) ∨
      (i = changes.length ∧ (∃ given, c = .register given p ∧ p.nameOr given = name) ∧
        (history changes).Admits name p) := by
  constructor
  · rintro ⟨⟨given, hcall, hname⟩, hadmitted, hkept⟩
    rcases getElem?_concat_iff.mp hcall with hcall | ⟨rfl, rfl⟩
    · have hlt := (List.getElem?_eq_some_iff.mp hcall).1
      rw [List.take_append_of_le_length hlt.le] at hadmitted
      refine .inl ⟨⟨⟨given, hcall, hname⟩, hadmitted, fun j q hj hq => ?_⟩, fun q hc => ?_⟩
      · exact hkept j q hj (getElem?_concat_iff.mpr (.inl hq))
      · exact hkept changes.length q hlt (getElem?_concat_iff.mpr (.inr ⟨rfl, hc⟩))
    · rw [List.take_left] at hadmitted
      exact .inr ⟨rfl, ⟨given, rfl, hname⟩, hadmitted⟩
  · rintro (⟨h, hends⟩ | ⟨rfl, ⟨given, rfl, hname⟩, hadmitted⟩)
    · obtain ⟨given, hcall, hname⟩ := h.registers
      refine ⟨⟨given, getElem?_concat_iff.mpr (.inl hcall), hname⟩, ?_, fun j q hj hq => ?_⟩
      · rw [List.take_append_of_le_length h.lt_length.le]
        exact h.admitted
      · rcases getElem?_concat_iff.mp hq with hq | ⟨-, hc⟩
        · exact h.kept j q hj hq
        · exact hends q hc
    · refine ⟨⟨given, getElem?_concat_iff.mpr (.inr ⟨rfl, rfl⟩), hname⟩, ?_, fun j q hj hq => ?_⟩
      · rw [List.take_left]
        exact hadmitted
      · -- nothing comes after the last change
        rcases getElem?_concat_iff.mp hq with hq | ⟨rfl, -⟩
        · exact absurd hj (List.getElem?_eq_some_iff.mp hq).1.not_gt
        · exact absurd hj (lt_irrefl _)

/-- The registrations that last with their places in the history: they are the entries, in order. -/
structure Timed (changes : List Change) (timed : List (Nat × String × Plugin)) : Prop where
  entries : timed.map (·.2) = (history changes).entries
  inOrder : (timed.map (·.1)).Pairwise (· < ·)
  mem_iff : ∀ i name p, (i, name, p) ∈ timed ↔ Lasts changes i name p

namespace Timed

variable {timed : List (Nat × String × Plugin)}

theorem nil : Timed [] [] := by
  refine ⟨rfl, List.Pairwise.nil, fun i name p => ⟨fun h => ?_, fun h => ?_⟩⟩
  · cases h
  · exact absurd h.lt_length (Nat.not_lt_zero i)

theorem admitted (h : Timed changes timed) {given : Option String}
    (admits : (history changes).Admits (p.nameOr given) p) :
    Timed (changes ++ [.register given p]) (timed ++ [(changes.length, p.nameOr given, p)]) := by
  refine ⟨?_, ?_, fun i name q => ?_⟩
  · rw [history_concat, after_register_entries, admits.1, admits.2]
    simp [h.entries]
  · rw [List.map_append, List.pairwise_append]
    refine ⟨h.inOrder, List.pairwise_singleton _ _, fun i hi j hj => ?_⟩
    obtain ⟨⟨i, name, q⟩, hmem, rfl⟩ := List.mem_map.mp hi
    obtain rfl : j = changes.length := by simpa using hj
    exact ((h.mem_iff i name q).mp hmem).lt_length
  · rw [List.mem_append, h.mem_iff, lasts_concat_iff]
    constructor
    · rintro (hlasts | hnew)
      · exact .inl ⟨hlasts, by simp⟩
      · cases List.mem_singleton.mp hnew
        exact .inr ⟨rfl, ⟨given, rfl, rfl⟩, admits⟩
    · rintro (⟨hlasts, -⟩ | ⟨rfl, ⟨given', hcall, rfl⟩, -⟩)
      · exact .inl hlasts
      · cases hcall
        exact .inr (List.mem_singleton_self _)

theorem refused (h : Timed changes timed) {given : Option String}
    (refuses : ¬ (history changes).Admits (p.nameOr given) p) :
    Timed (changes ++ [.register given p]) timed := by
  refine ⟨?_, h.inOrder, fun i name q => ?_⟩
  · rw [history_concat, after_register_entries, h.entries, if_pos]
    simpa [Admits, Bool.or_eq_true, imp_iff_not_or] using refuses
  · rw [h.mem_iff, lasts_concat_iff]
    constructor
    · exact fun hlasts => .inl ⟨hlasts, by simp⟩
    · rintro (⟨hlasts, -⟩ | ⟨rfl, ⟨given', hcall, rfl⟩, hadmits⟩)
      · exact hlasts
      · cases hcall
        exact absurd hadmits refuses

theorem ended (h : Timed changes timed) (q : Plugin) :
    Timed (changes ++ [.unregister q]) (timed.filter fun t => !q.same t.2.2) := by
  refine ⟨?_, h.inOrder.sublist (List.filter_sublist.map _), fun i name p => ?_⟩
  · rw [history_concat, after_unregister_entries, ← h.entries, List.filter_map]
    rfl
  · rw [List.mem_filter, h.mem_iff, lasts_concat_iff]
    simp

end Timed

/-- What is registered after a history are the registrations that last, in the order of the history. -/
theorem exists_timed (changes : List Change) : ∃ timed, Timed changes timed := by
  induction changes using List.reverseRecOn with
  | nil => exact ⟨[], .nil⟩
  | append_singleton changes c ih =>
    obtain ⟨timed, h⟩ := ih
    cases c with
    | unregister q => exact ⟨_, h.ended q⟩
    | register given p =>
      by_cases hadmits : (history changes).Admits (p.nameOr given) p
      · exact ⟨_, h.admitted hadmits⟩
      · exact ⟨timed, h.refused hadmits⟩

end

/-! ### The offer that is taken -/

end Plugins

/-- What a plugin offers under a name. -/
def Plugin.offer? (p : Plugin) (rule : String) : Option (Offer Maker) :=
  Ordered.get? (.text rule) p.offers

/-- The first offer of a name is that of the first plugin that has one. -/
theorem Offers.get?_flatMap_offers (rule : String) (walk : List (String × Plugin)) :
    Ordered.get? (.text rule) (walk.flatMap fun e => e.2.offers) =
      (walk.filter fun e => (e.2.offer? rule).isSome).head?.bind fun e => e.2.offer? rule := by
  induction walk with
  | nil => rfl
  | cons e rest ih =>
    rw [List.flatMap_cons, Ordered.get?_append, ih]
    cases hoffer : e.2.offer? rule with
    | none =>
      rw [Plugin.offer?] at hoffer
      rw [List.filter_cons_of_neg (by simp [Plugin.offer?, hoffer]), hoffer, Option.none_or]
    | some offer =>
      rw [List.filter_cons_of_pos (by simp [hoffer]), List.head?_cons, Option.bind_some, hoffer]
      rw [Plugin.offer?] at hoffer
      rw [hoffer, Option.some_or]

namespace Plugins

variable {rule : String}

/-- Of the plugins that offer a rule one of the first place has its offer taken, and it is the one that
was registered first if that is of the first place. -/
theorem collect_takes_first_place {ps : Plugins} {first : String × Plugin}
    {others : List (String × Plugin)}
    (h : (ps.entries.filter fun e => (e.2.offer? rule).isSome) = first :: others) :
    ∃ collected winner, ps.collect.result = .ok collected ∧ winner ∈ first :: others ∧
      Ordered.get? (.text rule) collected = winner.2.offer? rule ∧
      (∀ e ∈ first :: others, winner.2.created ≤ e.2.created) ∧
      ((∀ e ∈ others, first.2.created ≤ e.2.created) → winner = first) := by
  obtain ⟨ns, collected, hcollect, hcollects⟩ := Offers.collectFrom_collects [] ps.visited
  have hfirst := hcollects.first rule
  rw [List.nil_append, Offers.get?_flatMap_offers, filter_visited, h] at hfirst
  have hmem : ∀ e, e ∈ Plugins.visited ⟨first :: others, ps.loaded⟩ ↔ e ∈ first :: others :=
    fun e => mem_visited_iff
  have hsorted := List.pairwise_mergeSort
    (Sorting.key_trans fun e : String × Plugin => e.2.created) (Sorting.key_total _) (first :: others)
  cases hvisited : Plugins.visited ⟨first :: others, ps.loaded⟩ with
  | nil =>
    have hnone := (hmem first).mpr (List.mem_cons_self ..)
    rw [hvisited] at hnone
    cases hnone
  | cons winner rest =>
    rw [hvisited, List.head?_cons, Option.bind_some] at hfirst
    change (Plugins.visited ⟨first :: others, ps.loaded⟩).Pairwise _ at hsorted
    rw [hvisited, List.pairwise_cons] at hsorted
    refine ⟨collected, winner, congrArg Run.result hcollect, ?_, hfirst, fun e he => ?_, fun hleast => ?_⟩
    · exact (hmem winner).mp (hvisited ▸ List.mem_cons_self ..)
    · have he' := (hmem e).mpr he
      rw [hvisited] at he'
      rcases List.mem_cons.mp he' with rfl | hrest
      · exact le_rfl
      · exact of_decide_eq_true (hsorted.1 e hrest)
    · have hhead : Plugins.visited ⟨first :: others, ps.loaded⟩ =
          first :: Plugins.visited ⟨others, ps.loaded⟩ :=
        Sorting.mergeSort_cons_of_least (Sorting.key_trans fun e : String × Plugin => e.2.created)
          (Sorting.key_total _) fun e he => decide_eq_true (hleast e he)
      rw [hhead] at hvisited
      exact (List.cons.inj hvisited).1.symm

/-- A registration that lasts, of a plugin that offers a rule. -/
structure Provides (changes : List Change) (rule : String) (i : Nat) (name : String) (p : Plugin) :
    Prop where
  lasts : Lasts changes i name p
  offers : (p.offer? rule).isSome = true

/-- The plugin that is registered first among those that offer a rule is the first of the entries that
offer it. -/
theorem provides_first {changes : List Change} {i : Nat} {name : String} {p : Plugin}
    (provides : Provides changes rule i name p)
    (earliest : ∀ j name' q, Provides changes rule j name' q → i ≤ j) :
    ∃ others, ((history changes).entries.filter fun e => (e.2.offer? rule).isSome) = (name, p) :: others ∧
      (∀ e ∈ (name, p) :: others, ∃ j, Provides changes rule j e.1 e.2) ∧
      ∀ j name' q, Provides changes rule j name' q → (name', q) ∈ (name, p) :: others := by
  obtain ⟨timed, h⟩ := exists_timed changes
  have hfilter : (history changes).entries.filter (fun e => (e.2.offer? rule).isSome) =
      (timed.filter fun t => (t.2.2.offer? rule).isSome).map (·.2) := by
    rw [← h.entries, List.filter_map]
    rfl
  have hmem : ∀ j name' q, (j, name', q) ∈ timed.filter (fun t => (t.2.2.offer? rule).isSome) ↔
      Provides changes rule j name' q := by
    intro j name' q
    rw [List.mem_filter, h.mem_iff]
    exact ⟨fun ⟨lasts, offers⟩ => ⟨lasts, offers⟩, fun ⟨lasts, offers⟩ => ⟨lasts, offers⟩⟩
  have hinOrder : ((timed.filter fun t => (t.2.2.offer? rule).isSome).map (·.1)).Pairwise (· < ·) :=
    h.inOrder.sublist (List.filter_sublist.map _)
  rw [hfilter]
  cases htimed : timed.filter (fun t => (t.2.2.offer? rule).isSome) with
  | nil =>
    have hnone := (hmem i name p).mpr provides
    rw [htimed] at hnone
    cases hnone
  | cons t rest =>
    rw [htimed] at hmem hinOrder
    -- the first of the list is registered no later than any other, so it is the earliest
    have hhead : t = (i, name, p) := by
      rcases List.mem_cons.mp ((hmem i name p).mpr provides) with heq | hrest
      · exact heq.symm
      · obtain ⟨j, name', q⟩ := t
        have hle := earliest j name' q ((hmem j name' q).mp (List.mem_cons_self ..))
        rw [List.map_cons, List.pairwise_cons] at hinOrder
        have hlt : j < i := hinOrder.1 i (List.mem_map.mpr ⟨_, hrest, rfl⟩)
        omega
    subst hhead
    refine ⟨rest.map (·.2), rfl, fun e he => ?_, fun j name' q hprovides => ?_⟩
    · obtain ⟨⟨j, name', q⟩, hj, rfl⟩ : ∃ t ∈ (i, name, p) :: rest, t.2 = e := List.mem_map.mp he
      exact ⟨j, (hmem j name' q).mp hj⟩
    · exact List.mem_map_of_mem (f := fun t : Nat × String × Plugin => t.2)
        ((hmem j name' q).mpr hprovides)

/-- After any history of registrations and their ends the offers that are collected have, for a rule that
registered plugins offer, what the one of the first place offers. That is the one registered earliest
exactly when no other has a place before it. -/
theorem collect_earliest_iff {changes : List Change} {i : Nat} {name : String} {p : Plugin}
    (provides : Provides changes rule i name p)
    (earliest : ∀ j name' q, Provides changes rule j name' q → i ≤ j) :
    ∃ collected j name' winner, (history changes).collect.result = .ok collected ∧
      Provides changes rule j name' winner ∧
      Ordered.get? (.text rule) collected = winner.offer? rule ∧
      (∀ k other q, Provides changes rule k other q → winner.created ≤ q.created) ∧
      (j = i ↔ ∀ k other q, Provides changes rule k other q → p.created ≤ q.created) := by
  obtain ⟨others, hentries, hprovides, hmem⟩ := provides_first provides earliest
  obtain ⟨collected, ⟨name', winner⟩, hcollect, hwinner, htaken, hleast, hfirst⟩ :=
    collect_takes_first_place hentries
  have hbest : ∀ k other q, Provides changes rule k other q → winner.created ≤ q.created :=
    fun k other q hq => hleast _ (hmem k other q hq)
  by_cases hplace : ∀ k other q, Provides changes rule k other q → p.created ≤ q.created
  · have heq : (name', winner) = (name, p) := by
      refine hfirst fun e he => ?_
      obtain ⟨k, hk⟩ := hprovides e (List.mem_cons_of_mem _ he)
      exact hplace k e.1 e.2 hk
    cases heq
    exact ⟨collected, i, name, p, hcollect, provides, htaken, hbest, iff_of_true rfl hplace⟩
  · obtain ⟨j, hj⟩ := hprovides _ hwinner
    refine ⟨collected, j, name', winner, hcollect, hj, htaken, hbest, iff_of_false ?_ hplace⟩
    -- one change registers one plugin, so the earliest one is not the one of the first place
    rintro rfl
    obtain ⟨given, hcall, -⟩ := provides.lasts.registers
    obtain ⟨given', hcall', -⟩ := hj.lasts.registers
    cases hcall.symm.trans hcall'
    exact hplace hbest

/-- A plugin at a place with a rule that one keyword makes. -/
def limiting (place : Nat) (k : Keyword) : Plugin :=
  ⟨⟨"limits", some (.offers [(.text "size", .callable (.keyword k))]), true, .fresh, none, fun _ => none⟩, place, true⟩

/-- A plugin is registered, another one is, and the first is taken out and registered again. -/
def rejoining (x y : Plugin) : List Change :=
  [.register (some "x") x, .register (some "y") y, .unregister x, .register (some "x") x]

/-- The plugin that stayed was registered first then. -/
theorem lasts_rejoining {x y q : Plugin} {j : Nat} {name : String}
    (h : Lasts (rejoining x y) j name q) :
    (j = 1 ∧ name = "y" ∧ q = y) ∨ (j = 3 ∧ name = "x" ∧ q = x) := by
  obtain ⟨given, hcall, hname⟩ := h.registers
  match j with
  | 0 =>
    cases hcall
    have hgone := h.kept 2 x (by decide) rfl
    simp [Plugin.same] at hgone
  | 1 =>
    cases hcall
    exact .inl ⟨rfl, hname.symm, rfl⟩
  | 2 => cases hcall
  | 3 =>
    cases hcall
    exact .inr ⟨rfl, hname.symm, rfl⟩
  | j + 4 => cases hcall

/-- The plugin that stayed lasts from the second change on, unless it is the one that was taken out. -/
theorem rejoining_lasts {x y : Plugin} (hxy : x.same y = false) (hyx : y.same x = false) :
    Lasts (rejoining x y) 1 "y" y := by
  have hentries : (history ((rejoining x y).take 1)).entries = [("x", x)] :=
    after_register_entries empty (some "x") x
  refine ⟨⟨some "y", rfl, rfl⟩, ⟨?_, ?_⟩, fun j q hj hq => ?_⟩
  · rw [contains, hentries]
    rfl
  · rw [holds, hentries]
    show (y.same x || false) = false
    rw [hyx, Bool.or_false]
  · match j with
    | 0 | 1 => exact absurd hj (by decide)
    | 2 =>
      cases hq
      exact hxy
    | 3 => cases hq
    | j + 4 => cases hq

/-- The plugin that stayed has the first place: its offer is taken. -/
theorem collect_earliest_stayed :
    Provides (rejoining (limiting 1 .maxLength) (limiting 0 .minLength)) "size" 1 "y"
        (limiting 0 .minLength) ∧
      ∃ collected, (history (rejoining (limiting 1 .maxLength) (limiting 0 .minLength))).collect.result =
          .ok collected ∧
        Ordered.get? (.text "size") collected = some (.callable (.keyword .minLength)) := by
  have provides : Provides (rejoining (limiting 1 .maxLength) (limiting 0 .minLength)) "size" 1 "y"
      (limiting 0 .minLength) := ⟨rejoining_lasts rfl rfl, rfl⟩
  have earliest : ∀ j name q, Provides (rejoining (limiting 1 .maxLength) (limiting 0 .minLength)) "size"
      j name q → 1 ≤ j := by
    intro j name q h
    rcases lasts_rejoining h.lasts with ⟨rfl, -⟩ | ⟨rfl, -⟩ <;> decide
  obtain ⟨collected, j, name, winner, hcollect, hwinner, htaken, -, hj⟩ :=
    collect_earliest_iff provides earliest
  refine ⟨provides, collected, hcollect, ?_⟩
  obtain rfl : j = 1 := hj.mpr fun k other q _ => Nat.zero_le _
  rcases lasts_rejoining hwinner.lasts with ⟨-, -, rfl⟩ | ⟨hthree, -⟩
  · exact htaken
  · cases hthree

/-- Of two plugins the one of the first place has its offer taken, in whatever order they are registered. -/
theorem collect_first_place {ps : Plugins} {name other : String}
    (h : ps.entries = [(name, limiting 1 .maxLength), (other, limiting 0 .minLength)]) :
    ∃ collected, ps.collect.result = .ok collected ∧
      Ordered.get? (.text "size") collected = some (.callable (.keyword .minLength)) := by
  have hoffers : (ps.entries.filter fun e => (e.2.offer? "size").isSome) =
      [(name, limiting 1 .maxLength), (other, limiting 0 .minLength)] := by
    rw [h]
    rfl
  obtain ⟨collected, winner, hcollect, hwinner, htaken, hleast, -⟩ := collect_takes_first_place hoffers
  refine ⟨collected, hcollect, ?_⟩
  have hplace := hleast (other, limiting 0 .minLength) (by simp)
  rcases List.mem_cons.mp hwinner with rfl | hlast
  · simp [limiting] at hplace
  · rw [htaken, List.mem_singleton.mp hlast]
    rfl

/-- A plugin of the first place has its offer taken although another one was registered before it: it was
taken out and registered again, or it was registered as a class, which a search replaces by an
instance. -/
theorem collect_not_earliest :
    let late := limiting 0 .minLength
    let early := limiting 1 .maxLength
    let searched := afterAll empty [.change (.register (some "late") { late with instantiated := false }),
      .change (.register (some "early") early), .discover 2 none]
    Provides (rejoining late early) "size" 1 "y" early ∧
      (∀ j name q, Provides (rejoining late early) "size" j name q → 1 ≤ j) ∧
      (∃ collected, (history (rejoining late early)).collect.result = .ok collected ∧
        Ordered.get? (.text "size") collected = late.offer? "size" ∧
        Ordered.get? (.text "size") collected ≠ early.offer? "size") ∧
      searched.entries = [("early", early), ("late", late)] ∧
      ∃ collected, searched.collect.result = .ok collected ∧
        Ordered.get? (.text "size") collected = late.offer? "size" := by
  intro late early searched
  have hsearched : searched.entries = [("early", early), ("late", late)] := by
    let both : Plugins := ⟨[("late", { late with instantiated := false }), ("early", early)], false⟩
    have hvisited : both.visited = both.entries :=
      List.mergeSort_of_pairwise (List.pairwise_pair.mpr rfl)
    have hperform : (both.perform (.discover 2 none)).result =
        .ok ⟨[("early", early), ("late", late)], true⟩ := by
      unfold perform discover search
      rw [hvisited]
      rfl
    exact congrArg entries (after_of_ok hperform)
  refine ⟨⟨rejoining_lasts rfl rfl, rfl⟩, fun j name q h => ?_, ?_, hsearched, ?_⟩
  · rcases lasts_rejoining h.lasts with ⟨rfl, -⟩ | ⟨rfl, -⟩ <;> decide
  · obtain ⟨collected, hcollect, htaken⟩ :=
      @collect_first_place (history (rejoining late early)) "y" "x" rfl
    refine ⟨collected, hcollect, htaken, fun heq => ?_⟩
    cases htaken.symm.trans heq
  · exact collect_first_place hsearched

end Plugins

end Rulebook
