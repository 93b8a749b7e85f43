import Rulebook.Proofs.Report.Checking

/-!
Independence of the entries of a requirement document. A check reports of each name what a check
against the entry of that name alone reports, and fails when one of these does; so the order of the
entries matters neither for the verdict nor for what is reported.
-/

namespace Rulebook

/-- What a rule of a document reports is reported by a check against its entry alone. -/
theorem Requirements.check_alone {q : Requirements} {v : Value} {b : Built}
    (hb : (Registry.builtin.build q.document).result = .ok b) {name : String} {r : Rule}
    (hr : (name, r) ∈ b.rules) (returns : (r.check v false).Returns) :
    ∃ b', (Registry.builtin.check v (q.alone name).document false false).result =
      .ok (checkReport b' (r.check v false).value) := by
  obtain ⟨b', hb', hrules⟩ := build_alone hb name
  rw [Ordered.filter_key (rules_apart hb).nodup hr] at hrules
  have hone : ((Rule.composition b'.rules).check v false).result = .ok (r.check v false).value := by
    refine (rules_apart hb').plain_ok_iff.mpr ?_
    rw [hrules]
    refine ⟨by simpa using returns, ?_⟩
    simp [Outcome.Named.of, Outcome.Named.errors]
  exact ⟨b', Registry.check_lenient_ok_iff.mpr ⟨b', _, hb', hone, rfl⟩⟩

instance : Inhabited Report := ⟨.success "" [] []⟩

/-- The reports of all entries alone. -/
theorem Requirements.exists_lone {q : Requirements} {v : Value} {b : Built}
    (hb : (Registry.builtin.build q.document).result = .ok b)
    (returns : ∀ p ∈ b.rules, (p.2.check v false).Returns) :
    ∃ lone : String → Report, ∀ p ∈ b.rules,
      (Registry.builtin.check v (q.alone p.1).document false false).result = .ok (lone p.1) ∧
        (lone p.1).ok = (p.2.check v false).value.valid ∧
        (lone p.1).failure? p.1 = Ordered.get? p.1 (p.2.check v false).value.errors := by
  refine ⟨fun k => (Registry.builtin.check v (q.alone k).document false false).value, ?_⟩
  intro p hp
  obtain ⟨b', hlone⟩ := check_alone hb hp (returns p hp)
  dsimp only
  rw [Run.value_of_ok hlone]
  exact ⟨hlone, checkReport_ok _ _, checkReport_failure? _ _ _⟩

/-- A check succeeds when the checks against its entries alone do, and reports what they report. It
does not depend on the order of the entries, plain or inverted. -/
theorem Registry.check_of_alone (v : Value) (q : Requirements) :
    (∀ report, (Registry.builtin.check v q.document false false).result = .ok report →
      ∃ (names : List String) (lone : String → Report),
        report.get? "rules" = some (.texts names) ∧
        (∀ k ∈ names,
          (Registry.builtin.check v (q.alone k).document false false).result = .ok (lone k)) ∧
        (report.ok = true ↔ ∀ k ∈ names, (lone k).ok = true) ∧
        (∀ k, (report.failure? k).isSome = true ↔ k ∈ names ∧ (lone k).ok = false) ∧
        (∀ k ∈ names, report.failure? k = (lone k).failure? k)) ∧
    (∀ (invert : Bool) (q' : Requirements), q.members.Perm q'.members → ∀ report,
      (Registry.builtin.check v q.document invert false).result = .ok report →
      ∃ report', (Registry.builtin.check v q'.document invert false).result = .ok report' ∧
        report'.ok = report.ok ∧
        report'.problem.map (·.code) = report.problem.map (·.code) ∧
        report'.problem.map (·.message) = report.problem.map (·.message) ∧
        ∀ k, report'.failure? k = report.failure? k) := by
  constructor
  · intro report h
    obtain ⟨b, o, hb, ho, rfl⟩ := check_lenient_ok_iff.mp h
    have apart := Requirements.rules_apart hb
    obtain ⟨returns, rfl⟩ := apart.plain_ok_iff.mp ho
    have outcomes := apart.outcomes_apart returns
    have hnamed : ∀ p ∈ b.rules,
        (p.1, (p.2.check v false).value) ∈ Outcome.Named.of v false b.rules :=
      fun p hp => List.mem_map.mpr ⟨p, hp, rfl⟩
    obtain ⟨lone, hlone⟩ := Requirements.exists_lone hb returns
    refine ⟨b.rules.map (·.1), lone, checkReport_rules _ _, ?_, ?_, ?_, ?_⟩
    · rw [List.forall_mem_map]
      exact fun p hp => (hlone p hp).1
    · rw [checkReport_ok, List.forall_mem_map]
      show (Outcome.Named.of v false b.rules).all (·.2.valid) = true ↔ _
      rw [Outcome.Named.of, List.all_map, List.all_eq_true]
      refine forall₂_congr fun p hp => ?_
      rw [(hlone p hp).2.1]
      rfl
    · intro k
      rw [checkReport_failure?, outcomes.get?_isSome_iff]
      constructor
      · rintro ⟨o, hmem, hfailed⟩
        obtain ⟨p, hp, heq⟩ := List.mem_map.mp hmem
        cases heq
        refine ⟨List.mem_map_of_mem hp, ?_⟩
        rw [(hlone p hp).2.1]
        exact hfailed
      · rintro ⟨hk, hfailed⟩
        obtain ⟨p, hp, rfl⟩ := List.mem_map.mp hk
        rw [(hlone p hp).2.1] at hfailed
        exact ⟨_, hnamed p hp, hfailed⟩
    · intro k hk
      obtain ⟨p, hp, rfl⟩ := List.mem_map.mp hk
      rw [checkReport_failure?, (hlone p hp).2.2]
      exact outcomes.get?_errors (hnamed p hp)
  · intro invert q' hp report h
    obtain ⟨b, o, hb, ho, rfl⟩ := check_lenient_ok_iff.mp h
    obtain ⟨b', hb', hrules⟩ := Requirements.build_perm hp hb
    obtain ⟨o', ho', hvalid, herrors, hnodup⟩ :=
      (Requirements.rules_apart hb).check_perm hrules ho
    exact ⟨checkReport b' o', check_lenient_ok_iff.mpr ⟨b', o', hb', ho', rfl⟩,
      checkReport_congr hvalid herrors hnodup⟩

/-- A bound with its flag and a kind, which a number fails both of, and the same in another order. -/
theorem Registry.check_of_alone_bound :
    let q : Requirements :=
      ⟨[("minimum", .int 5), ("exclusiveMinimum", .bool true), ("type", .text "string")], by decide⟩
    let q' : Requirements :=
      ⟨[("type", .text "string"), ("exclusiveMinimum", .bool true), ("minimum", .int 5)], by decide⟩
    ∃ report, (Registry.builtin.check (.int 5) q.document false false).result = .ok report ∧
      (∃ (names : List String) (lone : String → Report),
        report.get? "rules" = some (.texts names) ∧
        (report.ok = true ↔ ∀ k ∈ names, (lone k).ok = true) ∧
        ∀ k ∈ names, report.failure? k = (lone k).failure? k) ∧
      ∃ report', (Registry.builtin.check (.int 5) q'.document false false).result = .ok report' ∧
        report'.ok = report.ok ∧ ∀ k, report'.failure? k = report.failure? k := by
  intro q q'
  have perm : q.members.Perm q'.members := (List.reverse_perm q.members).symm
  refine ⟨_, rfl, ?_, ?_⟩
  · obtain ⟨names, lone, hnames, -, hok, -, hfailures⟩ :=
      (Registry.check_of_alone (.int 5) q).1 _ rfl
    exact ⟨names, lone, hnames, hok, hfailures⟩
  · obtain ⟨report', hreport', hok, -, -, hfailures⟩ :=
      (Registry.check_of_alone (.int 5) q).2 false q' perm _ rfl
    exact ⟨report', hreport', hok, hfailures⟩

end Rulebook
