import Rulebook.Proofs.Rule.Making

/-!
Exact inversion. A leaf decides by its test and turns the decision over when inverted; a connective
does so with the number of passing parts, whatever the parts are; a negation passes the flag down. So
of the trees made of these the inverted verdict is the opposite of the plain one, except on the empty
values that leaves and negations pass unseen.
-/

namespace Rulebook

/-! ### Verdicts of the parts -/

theorem Leaf.skips_empty {l : Leaf} {v : Value} (hl : l.name ≠ "contains")
    (hv : v.isEmpty = false) : l.skips v = false := by
  cases l with
  | required => rfl
  | contains _ => exact absurd rfl hl
  | _ => exact hv

/-- A leaf that does not skip a value decides by its test, or by the opposite if it is inverted. -/
theorem Leaf.check_valid {l : Leaf} {v : Value} {invert : Bool} {o : Outcome}
    (hskip : l.skips v = false) (h : (l.check v invert).result = .ok o) :
    ∃ ok, (l.test v).result = .ok ok ∧ o.valid = differ ok invert := by
  unfold Leaf.check at h
  rw [hskip, if_neg Bool.false_ne_true] at h
  obtain ⟨ok, htest, h⟩ := Run.bind_ok_iff.mp h
  cases h
  exact ⟨ok, htest, l.finish_valid v ok invert⟩

/-- A connective decides by the outcomes of its parts uninverted. -/
theorem Connective.check_valid {c : Connective} {checks : List Check} {v : Value} {invert : Bool}
    {o : Outcome} (h : (c.check checks v invert).result = .ok o) :
    o.valid = differ (c.accepted v checks) invert := by
  obtain ⟨-, h⟩ := check_ok_iff.mp h
  split at h
  · next hpass => rw [h, hpass, Outcome.pass]
  · next hfail =>
    obtain ⟨passing, -, rfl⟩ := h
    exact (Bool.not_eq_true _ ▸ hfail).symm

/-- A negation gives the verdict of its part with the other flag. -/
theorem Check.negate_valid {inner : Check} {v : Value} {invert : Bool} {o : Outcome}
    (hv : v.isEmpty = false) (h : (Check.negate inner v invert).result = .ok o) :
    ∃ p, (inner v !invert).result = .ok p ∧ o.valid = p.valid := by
  obtain ⟨p, hp, rfl⟩ := (Check.negate_ok_iff hv).mp h
  refine ⟨p, hp, ?_⟩
  cases p.valid <;> rfl

theorem differ_not (b : Bool) : differ b true = !differ b false := by
  cases b <;> rfl

theorem differ_false (b : Bool) : differ b false = b := by
  cases b <;> rfl

theorem differ_true (b : Bool) : differ b true = !b := by
  cases b <;> rfl

theorem differ_flip (b invert : Bool) : differ b (!invert) = differ (!b) invert := by
  cases b <;> cases invert <;> rfl

/-! ### Inversion of the parts -/

/-- Inverted, the evaluation gives the opposite verdict. -/
def Check.Inverts (t : Check) (v : Value) : Prop :=
  ∀ plain inverted : Outcome, (t v false).result = .ok plain → (t v true).result = .ok inverted →
    inverted.valid = !plain.valid

theorem Leaf.check_inverts {l : Leaf} {v : Value} (hskip : l.skips v = false) :
    Check.Inverts l.check v := by
  intro plain inverted hp hi
  obtain ⟨ok, htest, hplain⟩ := Leaf.check_valid hskip hp
  obtain ⟨ok', htest', hinverted⟩ := Leaf.check_valid hskip hi
  cases htest.symm.trans htest'
  rw [hplain, hinverted, differ_not]

theorem Connective.check_inverts (c : Connective) (checks : List Check) (v : Value) :
    Check.Inverts (c.check checks) v := by
  intro plain inverted hp hi
  rw [Connective.check_valid hp, Connective.check_valid hi, differ_not]

theorem Check.negate_inverts {inner : Check} {v : Value} (hv : v.isEmpty = false)
    (hinner : inner.Inverts v) : (Check.negate inner).Inverts v := by
  intro plain inverted hp hi
  obtain ⟨o, ho, hplain⟩ := Check.negate_valid hv hp
  obtain ⟨o', ho', hinverted⟩ := Check.negate_valid hv hi
  -- the plain negation runs the part inverted, and the other way round
  have h : o.valid = !o'.valid := hinner o' o ho' ho
  rw [hplain, hinverted, h, Bool.not_not]

theorem Check.combine_inverts {c : Connective} {parts : List (Option Check)}
    (given : ∃ p, some p ∈ parts) (v : Value) : (Check.combine c parts).Inverts v := by
  rw [Check.combine_of_given given]
  exact c.check_inverts _ v

/-! ### Trees -/

/-- The keywords whose rules are leaves that look at every value that is not empty. -/
def Keyword.isInvertible : Keyword → Bool
  | .dependencies | .contains | .min | .max | .requiredTrue | .email => false
  | _ => true

/-- Evaluations made of leaves, negations and connectives. The parts of a connective can be any
evaluations, some of them not given. -/
inductive Check.Tree : Check → Prop
  | keyword {k : Keyword} (invertible : k.isInvertible = true) {excluding : Bool} {param : Value}
      {r : Rule} (made : (k.make excluding param).result = .ok r) (given : r.isNull = false) :
      Tree r.check
  | pattern {whole : Bool} {p : Regex.Compiled} {r : Rule}
      (made : (Keyword.ofPattern whole p).result = .ok r) (given : r.isNull = false) : Tree r.check
  | negation {inner : Check} (h : Tree inner) : Tree (Check.negate inner)
  | several (c : Connective) {parts : List (Option Check)} (given : ∃ p, some p ∈ parts) :
      Tree (Check.combine c parts)

/-- The names under which the rules report that are no such leaves. -/
theorem Keyword.name_of_invertible {k : Keyword} (hk : k.isInvertible = true) :
    k.name ∉ ["dependencies", "contains", "min", "max", "requiredTrue", "email"] := by
  revert hk
  cases k <;> decide

/-- What reports under the name of an invertible keyword is a leaf, if it is anything. -/
theorem Rule.ReportsAs.leaf_of_invertible {k : Keyword} (hk : k.isInvertible = true) {r : Rule}
    (hr : r.ReportsAs k.name) (given : r.isNull = false) :
    ∃ l : Leaf, r = .leaf l ∧ l.name ≠ "contains" := by
  have hnames := Keyword.name_of_invertible hk
  cases hr with
  | null => cases given
  | @leaf l hname =>
    refine ⟨l, rfl, fun hl => hnames ?_⟩
    rw [← hname, hl]
    decide
  | @fixed f hname =>
    refine absurd ?_ hnames
    rw [← hname]
    rcases f with ⟨_ | _, _, _⟩ | _ | _ <;> simp [Fixed.name]
  | demands ds hname =>
    refine absurd ?_ hnames
    rw [← hname]
    decide

theorem Rule.ReportsAs.check_inverts {k : Keyword} (hk : k.isInvertible = true) {r : Rule}
    (hr : r.ReportsAs k.name) (given : r.isNull = false) {v : Value} (hv : v.isEmpty = false) :
    Check.Inverts r.check v := by
  obtain ⟨l, rfl, hl⟩ := hr.leaf_of_invertible hk given
  exact Leaf.check_inverts (Leaf.skips_empty hl hv)

theorem Check.Tree.inverts {t : Check} (h : t.Tree) {v : Value} (hv : v.isEmpty = false) :
    t.Inverts v := by
  induction h with
  | @keyword k hk excluding param r made given =>
    exact (k.make_reportsAs excluding param r made).check_inverts hk given hv
  | @pattern whole p r made given =>
    have hr : r.ReportsAs Keyword.pattern.name := Keyword.compilePattern_reportsAs _ _ r made
    exact hr.check_inverts rfl given hv
  | negation _ ih => exact Check.negate_inverts hv ih
  | several c given => exact Check.combine_inverts given v

/-- The rules of the language that are negations or connectives are trees. -/
theorem Check.Tree.of_negate {r : Rule} (h : Check.Tree r.check) :
    Check.Tree (Rule.negate (some r)).check := by
  rw [Rule.check_negate]
  exact .negation h

theorem Check.Tree.of_combine (c : Connective) {rules : List (Option Rule)}
    (given : ∃ r, some r ∈ rules) : Check.Tree (Rule.combine c rules).check := by
  obtain ⟨r, hr⟩ := given
  rw [Rule.check_combine]
  exact .several c ⟨r.check, List.mem_map.mpr ⟨some r, hr, rfl⟩⟩

/-- On a value that is not empty, the inverted verdict of a tree is the opposite of the plain one; at
the root, a connective with some part has this on every value. -/
theorem Check.inverted_verdict :
    (∀ t : Check, t.Tree → ∀ v : Value, v.isEmpty = false → ∀ plain inverted : Outcome,
      (t v false).result = .ok plain → (t v true).result = .ok inverted →
        inverted.valid = !plain.valid) ∧
    (∀ (c : Connective) (parts : List (Option Check)), (∃ p, some p ∈ parts) →
      ∀ (v : Value) (plain inverted : Outcome),
      (Check.combine c parts v false).result = .ok plain →
      (Check.combine c parts v true).result = .ok inverted →
        inverted.valid = !plain.valid) := by
  refine ⟨fun t ht v hv plain inverted hp hi => ?_, fun c parts given v plain inverted hp hi => ?_⟩
  · exact ht.inverts hv plain inverted hp hi
  · exact Check.combine_inverts given v plain inverted hp hi

/-- A negated bound on the length of a text, and a choice with a rule that cannot be inverted, on a
text and on nothing. -/
theorem Check.inverted_verdict_length :
    let r := Rule.leaf (.size .least .length (.int 3))
    let rules : List (Option Rule) := [none, some (.fixed .isTrue), some r]
    let parts := rules.map (·.map Rule.check)
    (Keyword.minLength.make false (.int 3)).result = .ok r ∧
    (∃ plain inverted, ((Rule.negate (some r)).check (.text "ab") false).result = .ok plain ∧
      ((Rule.negate (some r)).check (.text "ab") true).result = .ok inverted ∧
      inverted.valid = !plain.valid) ∧
    (∃ plain inverted, ((Rule.combine .oneOf rules).check (.text "ab") false).result = .ok plain ∧
      ((Rule.combine .oneOf rules).check (.text "ab") true).result = .ok inverted ∧
      inverted.valid = !plain.valid) ∧
    (∃ plain inverted, (Check.combine .oneOf parts .missing false).result = .ok plain ∧
      (Check.combine .oneOf parts .missing true).result = .ok inverted ∧
      inverted.valid = !plain.valid) := by
  intro r rules parts
  have made : (Keyword.minLength.make false (.int 3)).result = .ok r := by rfl
  refine ⟨made, ⟨_, _, rfl, rfl, ?_⟩, ⟨_, _, rfl, rfl, ?_⟩, ⟨_, _, rfl, rfl, ?_⟩⟩
  · have ht : Check.Tree (Rule.negate (some r)).check := .of_negate (.keyword rfl made rfl)
    exact Check.inverted_verdict.1 _ ht (.text "ab") (by decide) _ _ rfl rfl
  · have ht : Check.Tree (Rule.combine .oneOf rules).check := .of_combine .oneOf ⟨r, by simp [rules]⟩
    exact Check.inverted_verdict.1 _ ht (.text "ab") (by decide) _ _ rfl rfl
  · exact Check.inverted_verdict.2 .oneOf parts ⟨r.check, by simp [parts, rules]⟩ .missing _ _ rfl rfl

end Rulebook
