import Rulebook.Proofs.Plugin.Walking

/-!
What one plugin costs another. Names are settled before offers are judged: of the offers under one name the first
counts, whether or not it can be taken. So a registry that is built has a name exactly when the first offer of
it, or of another name that is bare the same, can be called, and an offer that can be called is lost when one
that cannot comes before it under its name.
-/

namespace Rulebook.Plugins

variable {ps : Plugins} {base registry : Registry Maker}

theorem mem_offered_iff {o : Scalar × Offer Maker} : o ∈ ps.offered ↔ ∃ e ∈ ps.entries, o ∈ e.2.offers := by
  unfold offered
  rw [List.mem_flatMap]
  exact exists_congr fun e => and_congr_left' mem_visited_iff

/-- A registry that is built has the names of the base and, bare, the names that are taken. -/
theorem contains_buildRegistry_iff (h : base.WellFormed) (returns : (ps.buildRegistry base).result = .ok registry)
    (name : String) : registry.contains name = true ↔
      base.contains name = true ∨ ∃ t, ps.Takes base t ∧ bareName t = name := by
  obtain ⟨ns, entries, hbuild, -, htakes, -, -⟩ := ps.exists_chosen base
  have hchosen : (∃ p ∈ entries, bareName p.1 = name) ↔ ∃ t, ps.Takes base t ∧ bareName t = name := by
    constructor
    · rintro ⟨p, hp, rfl⟩
      exact ⟨p.1, (htakes p.1).mp (List.mem_map_of_mem hp), rfl⟩
    · rintro ⟨t, ht, rfl⟩
      obtain ⟨p, hp, rfl⟩ := List.mem_map.mp ((htakes t).mpr ht)
      exact ⟨p, hp, rfl⟩
  rw [← hchosen]
  rw [hbuild] at returns
  split at returns
  · next hnone =>
    cases returns
    simp [hnone]
  · obtain ⟨entries', heq, -, rfl⟩ := h.extend_ok_iff.mp returns
    obtain rfl := Offer.ofEntries_injective heq
    have hnames : (base.adding entries).freeze.entries.map (·.1) =
        base.entries.map (·.1) ++ entries.map fun p => bareName p.1 := by
      simp [Registry.freeze, Registry.adding, bareEntries]
    rw [Registry.contains_iff, hnames, List.mem_append, ← Registry.contains_iff, List.mem_map]

/-- An offer that can be called, under a name that is not empty bare and not in the base, has its name in the
registry exactly when the first offer of that name, or of another one that is bare the same, can be called. If
the name is lost, the first offer of it cannot be called, and a warning has the name. -/
theorem contains_usable_iff (h : base.WellFormed) (returns : (ps.buildRegistry base).result = .ok registry)
    {e : String × Plugin} (he : e ∈ ps.entries) {s : String} {maker : Maker}
    (offer : (.text s, .callable maker) ∈ e.2.offers) (named : bareName s ≠ "")
    (fresh : base.contains (bareName s) = false) :
    (registry.contains (bareName s) = true ↔ ∃ t first, bareName t = bareName s ∧
      Ordered.get? (.text t) ps.offered = some (.callable first)) ∧
    (registry.contains (bareName s) = false → Ordered.get? (.text s) ps.offered = some .inert ∧
      ∃ n ∈ (ps.buildRegistry base).notices, n.LeavesOut (.text s)) := by
  have hcontains : registry.contains (bareName s) = true ↔ ∃ t first, bareName t = bareName s ∧
      Ordered.get? (.text t) ps.offered = some (.callable first) := by
    rw [contains_buildRegistry_iff h returns, or_iff_right (by rw [fresh]; exact Bool.false_ne_true)]
    constructor
    · rintro ⟨t, ⟨⟨first, hfirst⟩, -, -⟩, hbare⟩
      exact ⟨t, first, hbare, hfirst⟩
    · rintro ⟨t, first, hbare, hfirst⟩
      exact ⟨t, ⟨⟨first, hfirst⟩, by rwa [hbare], by rwa [hbare]⟩, hbare⟩
  have hoffered : (Scalar.text s, Offer.callable maker) ∈ ps.offered := mem_offered_iff.mpr ⟨e, he, offer⟩
  refine ⟨hcontains, fun hlost => ?_⟩
  have hfirst (first : Maker) : Ordered.get? (.text s) ps.offered ≠ some (.callable first) := fun hget =>
    Bool.false_ne_true (hlost.symm.trans (hcontains.mpr ⟨s, first, rfl, hget⟩))
  constructor
  · cases hget : Ordered.get? (.text s) ps.offered with
    | none => exact absurd rfl (Offers.get?_text_eq_none_iff.mp hget _ hoffered)
    | some first =>
      cases first with
      | callable first => exact absurd hget (hfirst first)
      | inert => rfl
  · obtain ⟨ns, entries, hbuild, -, htakes, htold, -⟩ := ps.exists_chosen base
    have hns : ns ⊆ (ps.buildRegistry base).notices := by
      rw [hbuild]
      split
      · exact List.Subset.refl ns
      · exact List.subset_append_left ns _
    rcases htold _ hoffered with ⟨p, hp, heq⟩ | ⟨n, hn, hout⟩
    · cases heq
      obtain ⟨⟨first, hget⟩, -⟩ := (htakes p.1).mp (List.mem_map_of_mem hp)
      exact absurd hget (hfirst first)
    · exact ⟨n, hns hn, hout⟩

/-- Two plugins, of which the one that is visited first offers a name with something that cannot be called. -/
def contested (makers : Offers) : Plugins :=
  ⟨[("first", ⟨⟨"first", some (.offers [(.text "even", .inert)]), true, .fresh, none, fun _ => none⟩, 0, true⟩),
    ("second", ⟨⟨"second", some (.offers makers), true, .fresh, none, fun _ => none⟩, 1, true⟩)], false⟩

theorem visited_contested (makers : Offers) : (contested makers).visited = (contested makers).entries :=
  List.mergeSort_of_pairwise (by simp [contested])

/-- A blank before the contested name: the offer is taken under the bare name. -/
theorem contains_usable_even :
    let even : Offers := [(.text " even", .callable (.keyword .multipleOf))]
    ∃ registry, ((contested even).buildRegistry .builtin).result = .ok registry ∧
      registry.contains "even" = true := by
  intro even
  obtain ⟨registry, returns⟩ : ((contested even).buildRegistry .builtin).Returns := by
    unfold buildRegistry collect
    rw [visited_contested]
    exact ⟨_, rfl⟩
  have hfirst : Ordered.get? (.text " even") (contested even).offered =
      some (.callable (.keyword .multipleOf)) := by
    unfold offered
    rw [visited_contested]
    rfl
  have hcontains := (contains_usable_iff Registry.wellFormed_builtin returns (s := " even")
    (List.mem_cons_of_mem _ (List.mem_singleton_self _)) (List.mem_singleton_self _) (by decide) rfl).1
  exact ⟨registry, returns, hcontains.mpr ⟨" even", _, rfl, hfirst⟩⟩

/-- The contested name itself: the offer that can be called is lost, and the base comes back. -/
theorem contested_even_lost :
    let even : Offers := [(.text "even", .callable (.keyword .multipleOf))]
    (∃ e ∈ (contested even).entries, (.text "even", .callable (.keyword .multipleOf)) ∈ e.2.offers) ∧
      bareName "even" ≠ "" ∧ Registry.builtin.contains (bareName "even") = false ∧
      ((contested even).buildRegistry .builtin).result = .ok .builtin := by
  intro even
  refine ⟨⟨_, List.mem_cons_of_mem _ (List.mem_singleton_self _), List.mem_singleton_self _⟩, by decide, rfl,
    ?_⟩
  unfold buildRegistry collect
  rw [visited_contested]
  rfl

end Rulebook.Plugins
