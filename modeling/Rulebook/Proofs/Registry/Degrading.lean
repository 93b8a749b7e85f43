import Rulebook.Proofs.Report.Returning

/-!
Making rules degrades. On JSON the rules of a document are made, one for each entry but the flags, whatever
the parameters are; a parameter that a keyword has no use for makes a rule that does nothing. Only a pattern
whose expression faults, rather than being malformed, stops the making.
-/

namespace Rulebook

/-- Every entry under the name of a keyword, unless it is a flag, has the rule that its maker makes of its
parameter and of the flag beside it. The rule reports under that name. -/
def Built.Covers (b : Built) (q : Requirements) : Prop :=
  ∀ (k : Keyword) (param : Value), (k.name, param) ∈ q.members → isFlag k.name param = false →
    ∃ r, (k.name, r) ∈ b.rules ∧ r.ReportsAs k.name ∧
      ((Maker.keyword k).make builtinMakers (secondFor k.name q.document) param).result = .ok r

namespace Requirements

variable {q : Requirements} {b : Built}

theorem covers_of_build (hb : (Registry.builtin.build q.document).result = .ok b) : b.Covers q := by
  intro k param hmem entry
  obtain ⟨made, entries, rfl⟩ := build_entries hb
  have hbuilt := entries _ hmem
  generalize hmade : made (k.name, param) = here at hbuilt
  cases hbuilt with
  | flag flag => cases entry.symm.trans flag
  | unknown entry absent => cases absent.symm.trans (builtinMakers_get?_name k)
  | @rule entry maker found r result =>
    obtain rfl : maker = .keyword k := Option.some.inj (found.symm.trans (builtinMakers_get?_name k))
    refine ⟨r, List.mem_flatMap.mpr ⟨_, hmem, ?_⟩, k.make_builtin_reportsAs _ param r result, result⟩
    rw [hmade]
    exact List.mem_singleton_self _

/-- The rules of a JSON document are made, one for each entry but the flags, exactly when no expression of a
pattern faults. -/
theorem build_covers_iff (q : Requirements) (hq : q.IsJson) :
    (Registry.builtin.build q.document).Yields (·.Covers q) ↔
      ∀ param, ("pattern", param) ∈ q.members → ¬ PatternFaults param := by
  rw [← build_returns_iff hq]
  constructor
  · rintro ⟨b, hb, -⟩
    exact ⟨b, hb⟩
  · rintro ⟨b, hb⟩
    exact ⟨b, hb, covers_of_build hb⟩

/-- A malformed expression and a bound that is no number are covered. -/
theorem build_covers_unusable :
    let q : Requirements := ⟨[("pattern", .text "("), ("minimum", .text "x"), ("exclusiveMinimum", .bool true)],
      by decide⟩
    (Registry.builtin.build q.document).Yields (·.Covers q) := by
  intro q
  have hq : q.IsJson := by
    intro m hm
    fin_cases hm <;> exact .scalar trivial
  refine (build_covers_iff q hq).mpr ?_
  rintro param hmem ⟨s, f, rfl, -, hfault⟩
  have hmalformed : (match Regex.compile .none "(" with
      | .error (.fault _) => false
      | _ => true) = true := by decide +kernel
  obtain rfl : s = "(" := by simpa [q] using hmem
  rw [hfault] at hmalformed
  cases hmalformed

/-- A count of repetitions that no matcher takes stops the making. -/
theorem build_stops_of_repetition :
    let q : Requirements := ⟨[("pattern", .text "a\x7b4294967295\x7d")], by decide⟩
    q.IsJson ∧ ¬ (Registry.builtin.build q.document).Returns := by
  intro q
  have hq : q.IsJson := List.forall_mem_singleton.mpr (.scalar trivial)
  refine ⟨hq, fun hreturns => ?_⟩
  exact (build_returns_iff hq).mp hreturns _ (List.mem_singleton_self _) patternFaults_of_repetition

end Requirements

end Rulebook
