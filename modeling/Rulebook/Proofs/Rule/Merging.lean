import Rulebook.Proofs.Rule.Making
import Rulebook.Proofs.Value.Ordered

/-!
Merged reports. Where each of some outcomes reports under a name of its own, merging loses nothing:
the merged outcome is valid when all are, and its failures are theirs written one after another. A
composition of rules is such a merge of the plain outcomes; inverted, of the inverted ones, and only
when all rules pass.
-/

namespace Rulebook

namespace Failures

/-- A first map that is not given counts as an empty one. -/
theorem mergeGiven_cons (first : Option Failures) (maps : List Failures) :
    mergeGiven (first :: maps.map some) = merge (first.getD [] :: maps) := by
  cases first <;> simp [mergeGiven, merge, Ordered.union]

/-- Merging puts all failures into one map, from left to right. -/
theorem merge_eq_ofList (maps : List Failures) : merge maps = Ordered.ofList maps.flatten := by
  have hfold : ∀ acc : Failures, maps.foldl Ordered.union acc = Ordered.union acc maps.flatten := by
    induction maps with
    | nil => exact fun acc => rfl
    | cons m rest ih =>
      intro acc
      rw [List.foldl_cons, ih, List.flatten_cons, Ordered.union_append]
  exact hfold []

/-- Maps with no name in common are merged by writing them one after another. -/
theorem merge_eq_flatten {maps : List Failures} (nodup : (maps.flatten.map (·.1)).Nodup) :
    merge maps = maps.flatten := by
  rw [merge_eq_ofList]
  exact Ordered.union_eq_append (m := []) (Ordered.told_of_lawful _) nodup

theorem merge_concat (maps : List Failures) (m : Failures) :
    merge (maps ++ [m]) = Ordered.union (merge maps) m := List.foldl_append

/-- Maps can be merged in groups, and then the merged groups. -/
theorem merge_groups (groups : List (List Failures)) :
    merge (groups.map merge) = merge groups.flatten := by
  induction groups using List.reverseRecOn with
  | nil => rfl
  | append_singleton groups last ih =>
    have hlast (m : Failures) : Ordered.union m (merge last) = Ordered.union m last.flatten := by
      rw [merge_eq_ofList, Ordered.union_ofList]
    rw [List.map_append, List.map_singleton, merge_concat, ih, hlast, merge_eq_ofList, merge_eq_ofList,
      List.flatten_append, List.flatten_singleton, List.flatten_append]
    exact (Ordered.union_append [] _ _).symm

/-- Merged maps are merged as the maps that they are made of. -/
theorem merge_merge (maps more : List Failures) :
    merge [merge maps, merge more] = merge (maps ++ more) := by
  simpa using merge_groups [maps, more]

/-- Merging loses no name and adds none. -/
theorem mem_names_merge {maps : List Failures} {name : String} :
    name ∈ (merge maps).map (·.1) ↔ ∃ m ∈ maps, name ∈ m.map (·.1) := by
  rw [merge_eq_ofList, Ordered.ofList, Ordered.mem_keys_union, List.map_flatten, List.mem_flatten]
  simp

/-- What is merged last under a name is its detail, whatever was reported under it before. -/
theorem get?_merge_concat (maps : List Failures) (name : String) (detail : Value) :
    Ordered.get? name (merge (maps ++ [[(name, detail)]])) = some detail := by
  have hname := Ordered.get?_insert (Ordered.apart_of_lawful name) name detail (merge maps)
  rw [if_pos (beq_self_eq_true name)] at hname
  rw [merge_concat]
  exact hname

end Failures

namespace Outcome

theorem Under.errors_sublist {name : String} {o : Outcome} (h : o.Under name) :
    (o.errors.map (·.1)).Sublist [name] := by
  cases h with
  | pass => exact List.nil_sublist _
  | fail detail => exact List.Sublist.refl _

theorem Under.errors_of_valid {name : String} {o : Outcome} (h : o.Under name)
    (hvalid : o.valid = true) : o.errors = [] := by
  cases h with
  | pass => rfl
  | fail detail => cases hvalid

theorem merge_eq (os : List Outcome) : Outcome.merge os =
    if os.all (·.valid) then .pass else .fail (Failures.merge (Connective.failures os)) := by
  have hnone : (os.filter (!·.valid)).isEmpty = os.all (·.valid) := by
    induction os with
    | nil => rfl
    | cons o rest ih =>
      rw [List.filter_cons, List.all_cons, ← ih]
      cases o.valid <;> rfl
  unfold merge
  simp only [hnone]
  rfl

theorem merge_valid (os : List Outcome) : (Outcome.merge os).valid = os.all (·.valid) := by
  rw [merge_eq]
  cases os.all (·.valid) <;> rfl

theorem Under.get?_isSome_iff {name : String} {o : Outcome} (h : o.Under name) :
    (Ordered.get? name o.errors).isSome = true ↔ o.valid = false := by
  cases h with
  | pass => simp [Outcome.pass, Ordered.get?]
  | fail detail => simp [Outcome.fail, Ordered.get?]

/-- Outcomes with the names under which they report. -/
abbrev Named := List (String × Outcome)

/-- Each outcome reports under its name, and no name stands twice. -/
structure Named.Apart (named : Named) : Prop where
  under : ∀ p ∈ named, p.2.Under p.1
  nodup : (named.map (·.1)).Nodup

/-- What some outcomes report, one after another. -/
def Named.errors (named : Named) : Failures := named.flatMap (·.2.errors)

namespace Named

theorem errors_sublist {named : Named} (under : ∀ p ∈ named, p.2.Under p.1) :
    (named.errors.map (·.1)).Sublist (named.map (·.1)) := by
  unfold errors
  induction named with
  | nil => exact List.Sublist.refl _
  | cons p rest ih =>
    rw [List.flatMap_cons, List.map_append, List.map_cons]
    have hp := (under p (List.mem_cons_self ..)).errors_sublist
    exact hp.append (ih fun q hq => under q (List.mem_cons_of_mem _ hq))

theorem Apart.errors_nodup {named : Named} (h : named.Apart) : (named.errors.map (·.1)).Nodup :=
  (errors_sublist h.under).nodup h.nodup

/-- The failures of the outcomes that fail are those of all. -/
theorem failures_flatten {named : Named} (under : ∀ p ∈ named, p.2.Under p.1) :
    (Connective.failures (named.map (·.2))).flatten = named.errors := by
  unfold Connective.failures errors
  induction named with
  | nil => rfl
  | cons p rest ih =>
    have hrest := ih fun q hq => under q (List.mem_cons_of_mem _ hq)
    rw [List.map_cons, List.filter_cons, List.flatMap_cons]
    cases hvalid : p.2.valid with
    | true =>
      have hp := (under p (List.mem_cons_self ..)).errors_of_valid hvalid
      simpa [hp] using hrest
    | false => simpa using hrest

theorem Apart.merge_failures {named : Named} (h : named.Apart) :
    Failures.merge (Connective.failures (named.map (·.2))) = named.errors := by
  have hflatten := failures_flatten h.under
  rw [Failures.merge_eq_flatten (hflatten ▸ h.errors_nodup), hflatten]

/-- Merged, outcomes that report apart are valid when all are and report what each does. -/
theorem Apart.merge {named : Named} (h : named.Apart) :
    Outcome.merge (named.map (·.2)) = ⟨named.all (·.2.valid), named.errors⟩ := by
  rw [merge_eq, h.merge_failures, List.all_map]
  show (if named.all (·.2.valid) = true then _ else _) = _
  cases hall : named.all (·.2.valid) with
  | true =>
    have herrors : named.errors = [] := by
      refine List.flatMap_eq_nil_iff.mpr fun p hp => ?_
      exact (h.under p hp).errors_of_valid (List.all_eq_true.mp hall p hp)
    rw [herrors]
    rfl
  | false => rfl

/-- A name has a detail when the outcome of that name reports it. -/
theorem Apart.mem_errors_iff {named : Named} (h : named.Apart) {name : String} {o : Outcome}
    (hmem : (name, o) ∈ named) {detail : Value} :
    (name, detail) ∈ named.errors ↔ (name, detail) ∈ o.errors := by
  constructor
  · intro hd
    obtain ⟨⟨name', o'⟩, hmem', hd⟩ := List.mem_flatMap.mp hd
    have hname : name = name' := by
      have hsub := (h.under _ hmem').errors_sublist.subset (List.mem_map_of_mem hd)
      exact List.mem_singleton.mp hsub
    subst hname
    have ho := (Ordered.get?_eq_some_iff (Ordered.told_of_lawful _) h.nodup).mpr hmem
    rw [(Ordered.get?_eq_some_iff (Ordered.told_of_lawful _) h.nodup).mpr hmem'] at ho
    exact Option.some.inj ho ▸ hd
  · intro hd
    exact List.mem_flatMap.mpr ⟨_, hmem, hd⟩

theorem Apart.get?_errors {named : Named} (h : named.Apart) {name : String} {o : Outcome}
    (hmem : (name, o) ∈ named) : Ordered.get? name named.errors = Ordered.get? name o.errors := by
  have ho : (o.errors.map (·.1)).Nodup :=
    (h.under _ hmem).errors_sublist.nodup (List.nodup_singleton name)
  ext detail
  rw [Ordered.get?_eq_some_iff (Ordered.told_of_lawful _) h.errors_nodup, h.mem_errors_iff hmem,
    Ordered.get?_eq_some_iff (Ordered.told_of_lawful _) ho]

/-- The names that are reported are those of the outcomes that fail. -/
theorem Apart.get?_isSome_iff {named : Named} (h : named.Apart) {name : String} :
    (Ordered.get? name named.errors).isSome = true ↔
      ∃ o, (name, o) ∈ named ∧ o.valid = false := by
  constructor
  · intro hname
    obtain ⟨detail, hget⟩ := Option.isSome_iff_exists.mp hname
    rw [Ordered.get?_eq_some_iff (Ordered.told_of_lawful _) h.errors_nodup] at hget
    obtain ⟨p, hp, rfl⟩ :=
      List.mem_map.mp ((errors_sublist h.under).subset (List.mem_map_of_mem hget))
    rw [h.get?_errors hp] at hname
    exact ⟨p.2, hp, (h.under p hp).get?_isSome_iff.mp hname⟩
  · rintro ⟨o, hmem, hfailed⟩
    rw [h.get?_errors hmem]
    exact (h.under _ hmem).get?_isSome_iff.mpr hfailed

end Named

end Outcome

namespace Connective

/-- What passing parts report when inverted. -/
theorem explain_ok_iff {v : Value} {parts : List (Check × Outcome)} {fs : List Failures}
    (passing : ∀ p ∈ parts, p.2.valid = true) :
    (explain v parts).result = .ok fs ↔
      (∀ p ∈ parts, (p.1 v true).Returns) ∧ fs = failures (parts.map fun p => (p.1 v true).value) := by
  induction parts generalizing fs with
  | nil => simp [explain, failures, eq_comm]
  | cons p rest ih =>
    obtain ⟨hp, hrest⟩ := List.forall_mem_cons.mp passing
    rw [explain, if_pos hp, Run.bind_ok_iff, List.forall_mem_cons, List.map_cons]
    constructor
    · rintro ⟨o, ho, h⟩
      obtain ⟨more, hmore, h⟩ := Run.bind_ok_iff.mp h
      obtain ⟨hreturns, rfl⟩ := (ih hrest).mp hmore
      cases h
      rw [Run.value_of_ok ho]
      refine ⟨⟨⟨o, ho⟩, hreturns⟩, ?_⟩
      cases hvalid : o.valid <;> simp [failures, hvalid]
    · rintro ⟨⟨hc, hreturns⟩, rfl⟩
      refine ⟨_, hc.result_eq, Run.bind_ok_iff.mpr ⟨_, (ih hrest).mpr ⟨hreturns, rfl⟩, ?_⟩⟩
      cases hvalid : (p.1 v true).value.valid <;> simp [failures, hvalid]

/-- A composition passes or fails by whether all parts pass, and only then asks what to report. -/
theorem compose_ok_iff {checks : List Check} {v : Value} {invert : Bool} {o : Outcome} :
    (compose.check checks v invert).result = .ok o ↔
      (∀ c ∈ checks, (c v false).Returns) ∧
        if differ (checks.all fun c => (c v false).value.valid) invert then o = .pass
        else ∃ passing, (compose.explanation v invert
              (checks.map fun c => (c, (c v false).value))).result = .ok passing ∧
            o = .fail (Failures.merge
              (compose.complaint invert (checks.map fun c => (c v false).value) ++ passing)) := by
  have hmark : compose.mark invert = [] := rfl
  rw [check_ok_iff, compose_accepted, hmark]
  simp only [List.append_nil]

/-- A composition merges the outcomes of its parts. -/
theorem compose_plain_ok_iff {checks : List Check} {v : Value} {o : Outcome} :
    (compose.check checks v false).result = .ok o ↔
      (∀ c ∈ checks, (c v false).Returns) ∧
        o = Outcome.merge (checks.map fun c => (c v false).value) := by
  rw [compose_ok_iff, Outcome.merge_eq, List.all_map]
  refine and_congr_right fun _ => ?_
  show _ ↔ o = if checks.all (fun c => (c v false).value.valid) = true then _ else _
  cases checks.all fun c => (c v false).value.valid with
  | true => rfl
  | false => simp [explanation, complaint, differ]

/-- Inverted, a composition passes unless all parts do, and then merges their inverted outcomes. -/
theorem compose_inverted_ok_iff {checks : List Check} {v : Value} {o : Outcome} :
    (compose.check checks v true).result = .ok o ↔
      (∀ c ∈ checks, (c v false).Returns) ∧
        if checks.all fun c => (c v false).value.valid then
          (∀ c ∈ checks, (c v true).Returns) ∧
            o = .fail (Failures.merge (failures (checks.map fun c => (c v true).value)))
        else o = .pass := by
  rw [compose_ok_iff]
  refine and_congr_right fun _ => ?_
  cases hall : checks.all fun c => (c v false).value.valid with
  | false => rfl
  | true =>
    have hpassing : ∀ p ∈ checks.map fun c => (c, (c v false).value), p.2.valid = true := by
      simpa using hall
    have hexplain : ∀ fs, (explain v (checks.map fun c => (c, (c v false).value))).result = .ok fs ↔ _ :=
      fun fs => explain_ok_iff (v := v) hpassing
    simp [explanation, complaint, differ, hexplain, Function.comp_def, and_assoc]

end Connective

namespace Check

variable {parts : List (Option Check)} {v : Value} {o : Outcome}

/-- What some parts come to, plain or inverted. -/
def outcomes (v : Value) (invert : Bool) (cs : List Check) : List Outcome :=
  cs.map fun c => (c v invert).value

/-- A composition merges the outcomes of the parts that are given. -/
theorem compose_plain_ok_iff : (combine .compose parts v false).result = .ok o ↔
    (∀ c ∈ present parts, (c v false).Returns) ∧
      o = Outcome.merge (outcomes v false (present parts)) := by
  by_cases hnone : present parts = []
  · have hmerge : Outcome.merge (outcomes v false []) = .pass := rfl
    rw [combine_of_none hnone, hnone, hmerge]
    simp [eq_comm]
  · rw [combine_of_some hnone]
    exact Connective.compose_plain_ok_iff

/-- Inverted, a composition with parts merges what they report inverted, if all of them pass. -/
theorem compose_inverted_ok_iff (hsome : present parts ≠ []) :
    (combine .compose parts v true).result = .ok o ↔
      (∀ c ∈ present parts, (c v false).Returns) ∧
        if (outcomes v false (present parts)).all (·.valid) then
          (∀ c ∈ present parts, (c v true).Returns) ∧
            o = .fail (Failures.merge (Connective.failures (outcomes v true (present parts))))
        else o = .pass := by
  rw [combine_of_some hsome, outcomes, List.all_map]
  exact Connective.compose_inverted_ok_iff

end Check

/-! ### Rules with names -/

/-- The outcomes of some rules on a value. -/
def Outcome.Named.of (v : Value) (invert : Bool) (rules : List (String × Rule)) : Named :=
  rules.map fun (name, r) => (name, (r.check v invert).value)

theorem Outcome.Named.names_of (v : Value) (invert : Bool) (rules : List (String × Rule)) :
    (Outcome.Named.of v invert rules).map (·.1) = rules.map (·.1) := by
  rw [Outcome.Named.of, List.map_map]
  rfl

theorem Outcome.Named.outcomes_of (v : Value) (invert : Bool) (rules : List (String × Rule)) :
    (Outcome.Named.of v invert rules).map (·.2) =
      Check.outcomes v invert (rules.map fun p => p.2.check) := by
  rw [Outcome.Named.of, Check.outcomes, List.map_map, List.map_map]
  rfl

/-- Each rule reports under its name, and no name stands twice. -/
structure NamedApart (rules : List (String × Rule)) : Prop where
  reports : ∀ p ∈ rules, p.2.ReportsAs p.1
  nodup : (rules.map (·.1)).Nodup

namespace NamedApart

variable {rules rules' : List (String × Rule)} {v : Value} {invert : Bool}

theorem perm (h : NamedApart rules) (hp : rules.Perm rules') : NamedApart rules' :=
  ⟨fun p hmem => h.reports p (hp.mem_iff.mpr hmem), (hp.map _).nodup_iff.mp h.nodup⟩

theorem outcomes_apart (h : NamedApart rules)
    (returns : ∀ p ∈ rules, (p.2.check v invert).Returns) :
    (Outcome.Named.of v invert rules).Apart := by
  constructor
  · intro q hq
    obtain ⟨p, hp, rfl⟩ := List.mem_map.mp hq
    exact (h.reports p hp).check_under v invert _ (returns p hp).result_eq
  · rw [Outcome.Named.names_of]
    exact h.nodup

end NamedApart

/-- Rules with names as one. -/
abbrev Rule.composition (rules : List (String × Rule)) : Rule :=
  .combine .compose (rules.map fun (_, r) => some r)

theorem Rule.check_composition (rules : List (String × Rule)) :
    (Rule.composition rules).check =
      Check.combine .compose ((rules.map fun p => p.2.check).map some) := by
  rw [Rule.check_combine, List.map_map, List.map_map]
  rfl

namespace NamedApart

variable {rules rules' : List (String × Rule)} {v : Value} {invert : Bool} {o : Outcome}

/-- A composition of rules that report apart reports what each does. -/
theorem plain_ok_iff (h : NamedApart rules) :
    ((Rule.composition rules).check v false).result = .ok o ↔
      (∀ p ∈ rules, (p.2.check v false).Returns) ∧
        o = ⟨(Outcome.Named.of v false rules).all (·.2.valid),
          (Outcome.Named.of v false rules).errors⟩ := by
  rw [Rule.check_composition, Check.compose_plain_ok_iff, Check.present_map_some,
    List.forall_mem_map, ← Outcome.Named.outcomes_of]
  refine and_congr_right fun returns => ?_
  rw [(h.outcomes_apart returns).merge]

theorem inverted_ok_iff (h : NamedApart rules) :
    ((Rule.composition rules).check v true).result = .ok o ↔
      (∀ p ∈ rules, (p.2.check v false).Returns) ∧
        if !rules.isEmpty && (Outcome.Named.of v false rules).all (·.2.valid) then
          (∀ p ∈ rules, (p.2.check v true).Returns) ∧
            o = .fail (Outcome.Named.of v true rules).errors
        else o = .pass := by
  rw [Rule.check_composition]
  cases rules with
  | nil => simp [Check.combine, eq_comm]
  | cons p rest =>
    have hpresent := Check.present_map_some ((p :: rest).map fun p => p.2.check)
    have hsome : Check.present (((p :: rest).map fun p => p.2.check).map some) ≠ [] := by
      rw [hpresent]
      exact List.cons_ne_nil _ _
    rw [Check.compose_inverted_ok_iff hsome, hpresent, List.forall_mem_map, List.forall_mem_map,
      ← Outcome.Named.outcomes_of, ← Outcome.Named.outcomes_of, List.all_map, List.isEmpty_cons,
      Bool.not_false, Bool.true_and]
    refine and_congr_right fun _ => ?_
    show (if (Outcome.Named.of v false (p :: rest)).all (·.2.valid) = true then _ else _) ↔ _
    split
    · refine and_congr_right fun returns => ?_
      rw [(h.outcomes_apart returns).merge_failures]
    · rfl

/-- The order of rules that report apart decides only the order in which they report. -/
theorem check_perm (h : NamedApart rules) (hp : rules.Perm rules')
    (ho : ((Rule.composition rules).check v invert).result = .ok o) :
    ∃ o', ((Rule.composition rules').check v invert).result = .ok o' ∧ o'.valid = o.valid ∧
      o.errors.Perm o'.errors ∧ (o.errors.map (·.1)).Nodup := by
  have hall : ∀ i, (Outcome.Named.of v i rules).all (·.2.valid) =
      (Outcome.Named.of v i rules').all (·.2.valid) := fun i => (hp.map _).all_eq
  have herrors : ∀ i, (Outcome.Named.of v i rules).errors.Perm (Outcome.Named.of v i rules').errors :=
    fun i => (hp.map _).flatMap_right _
  have hreturns : ∀ i, (∀ p ∈ rules, (p.2.check v i).Returns) → ∀ p ∈ rules', (p.2.check v i).Returns :=
    fun i returns p hmem => returns p (hp.mem_iff.mpr hmem)
  have hempty : rules.isEmpty = rules'.isEmpty := hp.isEmpty_eq
  cases invert with
  | false =>
    obtain ⟨returns, rfl⟩ := h.plain_ok_iff.mp ho
    refine ⟨_, (h.perm hp).plain_ok_iff.mpr ⟨hreturns false returns, rfl⟩, (hall false).symm,
      herrors false, (h.outcomes_apart returns).errors_nodup⟩
  | true =>
    obtain ⟨returns, hif⟩ := h.inverted_ok_iff.mp ho
    split at hif
    · next hpass =>
      obtain ⟨returns', rfl⟩ := hif
      rw [hempty, hall] at hpass
      refine ⟨.fail (Outcome.Named.of v true rules').errors,
        (h.perm hp).inverted_ok_iff.mpr ⟨hreturns false returns, ?_⟩, rfl, herrors true,
        (h.outcomes_apart returns').errors_nodup⟩
      rw [if_pos hpass]
      exact ⟨hreturns true returns', rfl⟩
    · next hpass =>
      subst hif
      rw [hempty, hall] at hpass
      refine ⟨.pass, (h.perm hp).inverted_ok_iff.mpr ⟨hreturns false returns, ?_⟩, rfl, .refl _,
        List.nodup_nil⟩
      rw [if_neg hpass]

end NamedApart

end Rulebook
