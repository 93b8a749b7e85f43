import Rulebook.Proofs.Report.Neutrality
import Rulebook.Proofs.Rule.Bounds

/-!
Limits in all their forms. A limit can be made by its own keyword, plain or with the flag beside it, by the keyword
that excludes the bound, and by the keyword of a bound that cannot be inverted. These agree: a limit and the
opposite one that excludes the bound divide the numbers between them, the flag and the excluding keyword come to
one verdict also in a check of a document, and a bound that cannot be inverted decides as the limit at the number
that it spells.
-/

namespace Rulebook

/-- Only the verdict matters for whether a value passes. -/
theorem Check.passes_of_verdict {r r' : Rule} {v : Value} (h : r.verdict v false = r'.verdict v false) :
    Check.passes v r.check = Check.passes v r'.check := by
  have hpasses (r : Rule) : Check.passes v r.check = match r.verdict v false with
      | .ok b => b
      | .error _ => true := by
    unfold Check.passes Run.value Rule.verdict
    cases (r.check v false).result <;> rfl
  rw [hpasses, hpasses, h]

namespace Registry

/-- Checks against documents that make one rule each return alike and agree when the two rules do. -/
theorem check_of_one_rule {q q' : Requirements} {name name' : String} {r r' : Rule}
    (built : (builtin.build q.document).result = .ok ⟨[(name, r)], []⟩)
    (built' : (builtin.build q'.document).result = .ok ⟨[(name', r')], []⟩) {v : Value}
    (same : ∀ i, r.verdict v i = r'.verdict v i) (invert strict : Bool) :
    ((builtin.check v q.document invert strict).Returns ↔
      (builtin.check v q'.document invert strict).Returns) ∧
    ∀ report report', (builtin.check v q.document invert strict).result = .ok report →
      (builtin.check v q'.document invert strict).result = .ok report' → report.ok = report'.ok := by
  have hpasses := Check.passes_of_verdict (same false)
  constructor
  · have hreturns (i : Bool) : (r.check v i).Returns ↔ (r'.check v i).Returns := by
      rw [Rule.returns_iff_verdict, Rule.returns_iff_verdict, same i]
    rw [check_returns_iff_of_built built, check_returns_iff_of_built built', reportBuilt_returns_iff,
      reportBuilt_returns_iff, Rule.composition_returns, Rule.composition_returns]
    simp [hreturns, hpasses]
  · intro report report' h h'
    rw [check_verdict built h, check_verdict built' h']
    simp [hpasses]

end Registry

namespace Requirements

variable {bound : Number} (q : Requirements) (side : Side)

/-- The entry of a built-in keyword that makes a rule. -/
theorem entry_of_keyword {k : Keyword} {param : Value} {r : Rule} (entry : isFlag k.name param = false)
    (made : (Maker.keyword k).make builtinMakers (secondFor k.name q.document) param = .ret r) :
    q.entry (k.name, param) = .ret ⟨[(k.name, r)], []⟩ := by
  show entryRun builtinMakers q.document (.text k.name, param) = _
  rw [entryRun_of_maker entry (builtinMakers_get?_name k), made]
  rfl

theorem entry_limit (h : bound.Usable) {on : Bool}
    (hon : on = true ↔ (side.flagName, Value.bool true) ∈ q.members) :
    q.entry (side.keyword.name, .number bound) = .ret
      ⟨[(side.keyword.name, .leaf (.limit side (if on then .flagged else .including) bound))], []⟩ := by
  obtain ⟨on', hsecond, hon'⟩ := q.secondFor_limit side
  obtain rfl : on' = on := Bool.eq_iff_iff.mpr (hon'.trans hon.symm)
  have entry : isFlag side.keyword.name (.number bound) = false := by
    cases side <;> rfl
  refine q.entry_of_keyword entry ?_
  rw [hsecond, Maker.make_limit, Keyword.makeLimit_of_usable on' h]

theorem entry_excluding (h : bound.Usable) :
    q.entry (side.flagName, .number bound) = .ret
      ⟨[(side.flagName, .leaf (.limit side .excluding bound))], []⟩ := by
  have hname : side.flagName = side.excludingKeyword.name := by
    cases side <;> rfl
  have entry : isFlag side.flagName (.number bound) = false := by
    cases side <;> rfl
  have hmake : (Maker.keyword side.excludingKeyword).make builtinMakers
      (secondFor side.excludingKeyword.name q.document) (.number bound) =
        side.excludingKeyword.make false (.number bound) := by
    cases side <;> rfl
  rw [hname] at entry ⊢
  refine q.entry_of_keyword entry ?_
  rw [hmake, Keyword.make_excluding_of_usable h]

theorem entry_flag (on : Bool) : q.entry (side.flagName, .bool on) = .ret ⟨[], []⟩ := by
  refine entryRun_of_flag ?_
  cases side <;> rfl

variable {q} {side}

/-- A limit with its flag on comes to the flagged limit, in either order. -/
theorem build_flagged (h : bound.Usable)
    (hq : q.members.Perm [(side.keyword.name, .number bound), (side.flagName, .bool true)]) :
    (Registry.builtin.build q.document).result =
      .ok ⟨[(side.keyword.name, .leaf (.limit side .flagged bound))], []⟩ := by
  have hon : true = true ↔ (side.flagName, Value.bool true) ∈ q.members := by
    simp [hq.mem_iff]
  have hlimit := q.entry_limit side h hon
  have hflag := q.entry_flag side true
  refine build_ok_iff.mpr ⟨fun m hm => ?_, ?_⟩
  · rcases List.mem_pair.mp (hq.mem_iff.mp hm) with rfl | rfl
    · rw [hlimit]
      exact Run.returns_ret _
    · rw [hflag]
      exact Run.returns_ret _
  · have hrules := hq.flatMap_right fun m => (q.entry m).value.rules
    have hunknown := hq.flatMap_right fun m => (q.entry m).value.unknown
    simp only [List.flatMap_cons, List.flatMap_nil, hlimit, hflag] at hrules hunknown
    congr
    · exact (List.perm_singleton.mp hrules).symm
    · exact (List.perm_nil.mp hunknown).symm

/-- A number under the name of the flag comes to the limit that excludes it. -/
theorem build_excluding (h : bound.Usable) (hq : q.members = [(side.flagName, .number bound)]) :
    (Registry.builtin.build q.document).result =
      .ok ⟨[(side.flagName, .leaf (.limit side .excluding bound))], []⟩ := by
  have hentry := q.entry_excluding side h
  refine build_ok_iff.mpr ?_
  rw [hq]
  simp only [List.mem_singleton, forall_eq, List.flatMap_cons, List.flatMap_nil, hentry]
  exact ⟨Run.returns_ret _, rfl⟩

end Requirements

/-- How the rules that a bound makes on one side go together: the plain limit, the flagged one, the one that
excludes its bound, and the one of the opposite side that does. -/
structure Side.Coherent (side : Side) (bound : Number) (limit flagged excluding opposite : Rule) : Prop where
  /-- Where they return, one alone of a limit and the opposite one admits what is or spells a number, and both
  admit all else. -/
  divides : ∀ (v : Value) (invert : Bool), v.isEmpty = false →
    (limit.check v invert).Returns → (opposite.check v invert).Returns →
      ∃ numeric admitted opposed, v.isNumeric = .ok numeric ∧
        limit.verdict v invert = .ok admitted ∧ opposite.verdict v invert = .ok opposed ∧
        if numeric then opposed = !admitted else admitted = !invert ∧ opposed = !invert
  /-- The flag and the keyword that excludes the bound come to one verdict. -/
  flags : ∀ (v : Value) (invert : Bool), flagged.verdict v invert = excluding.verdict v invert
  /-- So do the checks of a document with the flag, in either order, and of one with that keyword. -/
  documents : ∀ q q' : Requirements,
    q.members.Perm [(side.keyword.name, .number bound), (side.flagName, .bool true)] →
    q'.members = [(side.excludingKeyword.name, .number bound)] → ∀ (v : Value) (invert strict : Bool),
      ((Registry.builtin.check v q.document invert strict).Returns ↔
        (Registry.builtin.check v q'.document invert strict).Returns) ∧
      ∀ report report', (Registry.builtin.check v q.document invert strict).result = .ok report →
        (Registry.builtin.check v q'.document invert strict).result = .ok report' → report.ok = report'.ok
  /-- A bound that cannot be inverted has the plain verdicts of the limit at the number it is taken to. -/
  fixed : ∀ param : Value, param.coerce .number = .ok (some (.number bound)) →
    ∃ rule, side.fixedKeyword.make false param = .ret rule ∧
      ∀ v : Value, rule.verdict v false = limit.verdict v false
  /-- What meets the limit of a tighter bound meets this one. -/
  tighter : ∀ (other : Number) (rule : Rule), other.Usable → side.admits false bound other = true →
    side.keyword.make false (.number other) = .ret rule →
      ∀ v : Value, rule.verdict v false = .ok true → limit.verdict v false = .ok true

theorem Side.make_keyword_of_usable (side : Side) (excluding : Bool) {bound : Number} (h : bound.Usable) :
    side.keyword.make excluding (.number bound) =
      .ret (.leaf (.limit side (if excluding then .flagged else .including) bound)) := by
  have hmake : side.keyword.make excluding (.number bound) =
      Keyword.makeLimit side excluding (.number bound) := by
    cases side <;> rfl
  rw [hmake, Keyword.makeLimit_of_usable excluding h]

theorem Value.isNumeric_of_toNumber? {v : Value} {n? : Option Number} (h : v.toNumber? = .ok n?) :
    v.isNumeric = .ok n?.isSome := by
  show (do return (← v.toNumber?).isSome) = _
  rw [h]
  rfl

/-- The limits of a usable bound, on either side, are made and go together. -/
theorem Registry.limits_coherent (side : Side) (bound : Number) (usable : bound.Usable) :
    ∃ limit flagged excluding opposite : Rule,
      side.keyword.make false (.number bound) = .ret limit ∧
      side.keyword.make true (.number bound) = .ret flagged ∧
      side.excludingKeyword.make false (.number bound) = .ret excluding ∧
      side.opposite.excludingKeyword.make false (.number bound) = .ret opposite ∧
      side.Coherent bound limit flagged excluding opposite := by
  have hflag : side.flagName = side.excludingKeyword.name := by
    cases side <;> rfl
  refine ⟨_, _, _, _, side.make_keyword_of_usable false usable, side.make_keyword_of_usable true usable,
    Keyword.make_excluding_of_usable usable, Keyword.make_excluding_of_usable usable, ?_⟩
  constructor
  · intro v invert hv returns _
    obtain ⟨n?, hread⟩ := (Leaf.limit_returns_iff.mp returns).resolve_left (by simp [hv])
    obtain ⟨admitted, opposed, hadmitted, hopposed, hdivide⟩ :=
      Leaf.limit_opposite usable.isNaN hv hread invert
    exact ⟨_, admitted, opposed, Value.isNumeric_of_toNumber? hread, hadmitted, hopposed, hdivide⟩
  · exact fun v invert => Leaf.flagged_verdict
  · intro q q' hq hq' v invert strict
    rw [← hflag] at hq'
    exact check_of_one_rule (Requirements.build_flagged usable hq) (Requirements.build_excluding usable hq')
      (fun i => Leaf.flagged_verdict) invert strict
  · intro param hparam
    obtain ⟨n, hread, hn⟩ := Value.number_of_coerce_number hparam
    cases hn
    exact ⟨_, Keyword.make_fixed_of_toNumber? hread, fun v => Fixed.bound_verdict side param bound v false⟩
  · intro other rule usable' hother made v accepted
    cases (side.make_keyword_of_usable false usable').symm.trans made
    exact Leaf.limit_verdict_mono hother accepted

/-- A least bound of five, on a text that spells it and on integers around it; the document with its flag and the one
with the excluding keyword; the bound given as a text; and a tighter bound. -/
theorem Registry.limits_coherent_five :
    ∃ limit flagged excluding opposite : Rule,
      Keyword.minimum.make false (.int 5) = .ret limit ∧
      (∃ numeric admitted opposed, (Value.text "5").isNumeric = .ok numeric ∧
        limit.verdict (.text "5") false = .ok admitted ∧ opposite.verdict (.text "5") false = .ok opposed ∧
        if numeric then opposed = !admitted else admitted = true ∧ opposed = true) ∧
      flagged.verdict (.int 5) true = excluding.verdict (.int 5) true ∧
      (∀ report report', (Registry.builtin.check (.int 5)
          [(.text "exclusiveMinimum", .bool true), (.text "minimum", .int 5)] false false).result = .ok report →
        (Registry.builtin.check (.int 5) [(.text "exclusiveMinimum", .int 5)] false false).result = .ok report' →
          report.ok = report'.ok) ∧
      (∃ rule, Keyword.min.make false (.text "5") = .ret rule ∧
        rule.verdict (.int 4) false = limit.verdict (.int 4) false) ∧
      limit.verdict (.int 8) false = .ok true := by
  obtain ⟨limit, flagged, excluding, opposite, hlimit, hflagged, hexcluding, hopposite, coherent⟩ :=
    limits_coherent .least (.int 5) rfl
  have hdivide := coherent.divides (.text "5") false (by decide)
  have hdocuments := coherent.documents ⟨[("exclusiveMinimum", .bool true), ("minimum", .int 5)], by decide⟩
    ⟨[("exclusiveMinimum", .int 5)], by decide⟩ (List.Perm.swap ..) rfl (.int 5) false false
  obtain ⟨rule, hrule, hfixed⟩ := coherent.fixed (.text "5") rfl
  have htighter := coherent.tighter (.int 7) (.leaf (.limit .least .including (.int 7))) rfl rfl rfl (.int 8) rfl
  refine ⟨limit, flagged, excluding, opposite, hlimit, hdivide ?_ ?_, coherent.flags _ _, hdocuments.2,
    ⟨rule, hrule, hfixed _⟩, htighter⟩
  · cases hlimit
    exact ⟨_, rfl⟩
  · cases hopposite
    exact ⟨_, rfl⟩

end Rulebook
