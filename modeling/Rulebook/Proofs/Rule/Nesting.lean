import Rulebook.Proofs.Rule.Merging

/-!
Nested compositions. Parts can be composed in groups: the composition of two compositions reports what
the composition of all parts does, in the same order. Plain, a group that passes has nothing to report
and any other reports the merged failures of its parts; inverted, the same holds of a group that has
parts, and a group without parts is passed over. So either way a group sums up its parts.
-/

namespace Rulebook

/-! ### Outcomes of groups -/

/-- An outcome passes where there is nothing to report, or reports some failures merged. -/
inductive Outcome.SumsUp (maps : List Failures) : Outcome → Prop
  | pass (nothing : maps = []) : SumsUp maps .pass
  | fail : SumsUp maps (.fail (Failures.merge maps))

theorem Connective.failures_append (os more : List Outcome) :
    failures (os ++ more) = failures os ++ failures more := by
  rw [failures, List.filter_append, List.map_append]
  rfl

theorem Connective.failures_of_valid {os : List Outcome} (hall : os.all (·.valid) = true) :
    failures os = [] := by
  rw [failures, List.map_eq_nil_iff, List.filter_eq_nil_iff]
  intro o ho
  simp [List.all_eq_true.mp hall o ho]

theorem Outcome.merge_sumsUp (os : List Outcome) : (merge os).SumsUp (Connective.failures os) := by
  rw [merge_eq]
  split
  · next hall => exact .pass (Connective.failures_of_valid hall)
  · exact .fail

/-- What two groups report merged is what their parts report merged. -/
theorem Outcome.SumsUp.merge_failures {maps more : List Failures} {o o' : Outcome}
    (h : o.SumsUp maps) (h' : o'.SumsUp more) :
    Failures.merge (Connective.failures [o, o']) = Failures.merge (maps ++ more) := by
  rw [← Failures.merge_merge]
  cases h with
  | pass nothing =>
    subst nothing
    cases h' with
    | pass nothing =>
      subst nothing
      rfl
    | fail => rfl
  | fail =>
    cases h' with
    | pass nothing =>
      subst nothing
      rfl
    | fail => rfl

/-- Outcomes can be merged in groups. -/
theorem Outcome.merge_merge (os more : List Outcome) :
    merge [merge os, merge more] = merge (os ++ more) := by
  have hfailures := (merge_sumsUp os).merge_failures (merge_sumsUp more)
  have hvalid : [merge os, merge more].all (·.valid) = (os ++ more).all (·.valid) := by
    simp [merge_valid]
  rw [merge_eq, merge_eq (os ++ more), hvalid, hfailures, Connective.failures_append]

/-! ### Groups of parts -/

namespace Check

variable {parts xs ys : List (Option Check)} {v : Value} {o : Outcome}

theorem present_append : present (xs ++ ys) = present xs ++ present ys := List.filterMap_append

theorem compose_plain_returns_iff : (combine .compose parts v false).Returns ↔
    ∀ c ∈ present parts, (c v false).Returns := by
  constructor
  · rintro ⟨o, ho⟩
    exact (compose_plain_ok_iff.mp ho).1
  · intro returns
    exact ⟨_, compose_plain_ok_iff.mpr ⟨returns, rfl⟩⟩

theorem compose_plain_value (returns : ∀ c ∈ present parts, (c v false).Returns) :
    (combine .compose parts v false).value = Outcome.merge (outcomes v false (present parts)) :=
  Run.value_of_ok (compose_plain_ok_iff.mpr ⟨returns, rfl⟩)

section

variable (returns : ∀ c ∈ present parts, (c v false).Returns)
  (passing : (outcomes v false (present parts)).all (·.valid) = true)

include returns passing

/-- Inverted, a group whose parts all pass returns when they do and sums up what they report. -/
theorem compose_inverted_sumsUp (inverted : ∀ c ∈ present parts, (c v true).Returns) :
    (combine .compose parts v true).Yields fun o =>
      o.SumsUp (Connective.failures (outcomes v true (present parts))) := by
  by_cases hnone : present parts = []
  · rw [combine_of_none hnone, hnone]
    exact ⟨.pass, rfl, .pass rfl⟩
  · refine ⟨_, (compose_inverted_ok_iff hnone).mpr ⟨returns, ?_⟩, .fail⟩
    rw [if_pos passing]
    exact ⟨inverted, rfl⟩

theorem compose_inverted_returns_iff : (combine .compose parts v true).Returns ↔
    ∀ c ∈ present parts, (c v true).Returns := by
  constructor
  · rintro ⟨o, ho⟩
    by_cases hnone : present parts = []
    · rw [hnone]
      exact nofun
    · have h := (compose_inverted_ok_iff hnone).mp ho
      rw [if_pos passing] at h
      exact h.2.1
  · intro inverted
    obtain ⟨o, ho, -⟩ := compose_inverted_sumsUp returns passing inverted
    exact ⟨o, ho⟩

end

/-! ### Associativity -/

/-- Two compositions as one. -/
def composeTwo (xs ys : List (Option Check)) : Check :=
  combine .compose [some (combine .compose xs), some (combine .compose ys)]

theorem present_two (a b : Check) : present [some a, some b] = [a, b] := rfl

theorem forall_mem_two {a b : Check} {p : Check → Prop} : (∀ c ∈ [a, b], p c) ↔ p a ∧ p b := by
  simp

theorem composeTwo_plain_ok_iff : (composeTwo xs ys v false).result = .ok o ↔
    (combine .compose (xs ++ ys) v false).result = .ok o := by
  rw [composeTwo, compose_plain_ok_iff, compose_plain_ok_iff, present_two, present_append,
    List.forall_mem_append, forall_mem_two, compose_plain_returns_iff, compose_plain_returns_iff]
  refine and_congr_right fun hreturns => ?_
  obtain ⟨hxs, hys⟩ := hreturns
  rw [outcomes, List.map_cons, List.map_cons, List.map_nil, compose_plain_value hxs,
    compose_plain_value hys, Outcome.merge_merge, outcomes, outcomes, outcomes, List.map_append]

theorem composeTwo_inverted_ok_iff (hsome : present (xs ++ ys) ≠ []) :
    (composeTwo xs ys v true).result = .ok o ↔
      (combine .compose (xs ++ ys) v true).result = .ok o := by
  have htwo : present [some (combine .compose xs), some (combine .compose ys)] ≠ [] :=
    List.cons_ne_nil _ _
  rw [composeTwo, compose_inverted_ok_iff htwo, compose_inverted_ok_iff hsome, present_two,
    present_append]
  simp only [List.forall_mem_append, forall_mem_two, compose_plain_returns_iff]
  refine and_congr_right fun hreturns => ?_
  obtain ⟨hxs, hys⟩ := hreturns
  have hvalid : (outcomes v false [combine .compose xs, combine .compose ys]).all (·.valid) =
      (outcomes v false (present xs ++ present ys)).all (·.valid) := by
    simp [outcomes, compose_plain_value hxs, compose_plain_value hys, Outcome.merge_valid]
  rw [hvalid]
  split
  · next hall =>
    rw [outcomes, List.map_append, List.all_append, Bool.and_eq_true_iff] at hall
    obtain ⟨hpx, hpy⟩ := hall
    rw [compose_inverted_returns_iff hxs hpx, compose_inverted_returns_iff hys hpy]
    refine and_congr_right fun hinverted => ?_
    obtain ⟨hix, hiy⟩ := hinverted
    -- both groups sum up their parts, one without parts by passing
    obtain ⟨a, ha, hsumx⟩ := compose_inverted_sumsUp hxs hpx hix
    obtain ⟨b, hb, hsumy⟩ := compose_inverted_sumsUp hys hpy hiy
    have hgroups : outcomes v true [combine .compose xs, combine .compose ys] = [a, b] := by
      rw [outcomes, List.map_cons, List.map_cons, List.map_nil, Run.value_of_ok ha, Run.value_of_ok hb]
    rw [hgroups, hsumx.merge_failures hsumy, ← Connective.failures_append, outcomes, outcomes,
      outcomes, List.map_append]
  · exact Iff.rfl

/-- Compositions can be grouped: that of two compositions has the outcome of that of all their parts,
whatever it is and in the same order, and returns it where no part stops. -/
theorem compose_assoc (xs ys : List (Option Check)) (given : ∃ c, some c ∈ xs ++ ys) (v : Value)
    (invert : Bool) :
    (∀ o, (composeTwo xs ys v invert).result = .ok o ↔
      (combine .compose (xs ++ ys) v invert).result = .ok o) ∧
    ((∀ c, some c ∈ xs ++ ys → ∀ i, (c v i).Returns) →
      ∃ o, (composeTwo xs ys v invert).result = .ok o ∧
        (combine .compose (xs ++ ys) v invert).result = .ok o) := by
  have hsome : present (xs ++ ys) ≠ [] := by
    obtain ⟨c, hc⟩ := given
    exact List.ne_nil_of_mem (mem_present_iff.mpr hc)
  have hsame : ∀ o, (composeTwo xs ys v invert).result = .ok o ↔
      (combine .compose (xs ++ ys) v invert).result = .ok o := by
    intro o
    cases invert with
    | false => exact composeTwo_plain_ok_iff
    | true => exact composeTwo_inverted_ok_iff hsome
  refine ⟨hsame, fun returns => ?_⟩
  obtain ⟨o, ho⟩ := combine_returns .compose returns invert
  exact ⟨o, (hsame o).mpr ho, ho⟩

/-- Two bounds on a length, in different groups and with a kind between them, that a text fails: the
later bound is reported in the place of the earlier. -/
theorem compose_assoc_lengths :
    let short := Rule.leaf (.size .least .length (.int 3))
    let kind := Rule.leaf (.kind (.text "number") ["number"])
    let long := Rule.leaf (.size .least .length (.int 5))
    let xs : List (Option Check) := [some short.check, none, some kind.check]
    let ys : List (Option Check) := [some long.check]
    ∃ o, (composeTwo xs ys (.text "ab") false).result = .ok o ∧
      (combine .compose (xs ++ ys) (.text "ab") false).result = .ok o ∧
      o.errors.map (·.1) = ["minLength", "type"] ∧
      Ordered.get? "minLength" o.errors = some (Leaf.detail (.size .least .length (.int 5)) (.text "ab")) := by
  intro short kind long xs ys
  have given : ∃ c, some c ∈ xs ++ ys := ⟨short.check, by simp [xs]⟩
  have returns : ∀ c, some c ∈ xs ++ ys → ∀ i, (c (.text "ab") i).Returns := by
    intro c hc i
    have hmem : c = short.check ∨ c = kind.check ∨ c = long.check := by
      simpa [xs, ys, or_assoc] using hc
    rcases hmem with rfl | rfl | rfl <;> exact ⟨_, rfl⟩
  obtain ⟨o, hnested, hflat⟩ := (compose_assoc xs ys given (.text "ab") false).2 returns
  refine ⟨o, hnested, hflat, ?_⟩
  cases hflat
  exact ⟨rfl, rfl⟩

end Check

end Rulebook
