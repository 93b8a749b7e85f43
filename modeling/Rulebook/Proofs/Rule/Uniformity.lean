import Rulebook.Proofs.Registry.Accounting
import Rulebook.Proofs.Rule.Whole

/-!
Uniform reports. Most keywords make leaves that keep one contract: what is empty passes, and of anything else either
the plain or the inverted evaluation fails, with one error under the name of the keyword and a detail that tells the
parameter and the value. The detail is the same for both, so a failure is read without knowing which of them it is.
-/

namespace Rulebook

/-- The contract of a rule that reports under a name: it passes every empty value unseen, and of any other value just
one of its evaluations fails, plain or inverted, with one error under the name and a detail that is the same for both.
A fault in judging a value stops the two alike. -/
structure Check.Uniform (t : Check) (name : String) (detail : Value → Value) : Prop where
  empty : ∀ v, v.isEmpty = true → ∀ invert, t v invert = .ret .pass
  other : ∀ v, v.isEmpty = false → (∃ fault, ∀ invert, (t v invert).result = .error fault) ∨
    ∃ failing, (t v failing).result = .ok (.fail [(name, detail v)]) ∧ (t v !failing).result = .ok .pass

/-- Where either evaluation of a value that is not empty returns, one fails and the other passes. -/
theorem Check.Uniform.fails_once {t : Check} {name : String} {detail : Value → Value} (h : t.Uniform name detail)
    {v : Value} (hv : v.isEmpty = false) (returns : ∃ invert, (t v invert).Returns) :
    ∃ failing, (t v failing).result = .ok (.fail [(name, detail v)]) ∧ (t v !failing).result = .ok .pass := by
  obtain ⟨fault, hfault⟩ | hfails := h.other v hv
  · obtain ⟨invert, o, ho⟩ := returns
    cases (hfault invert).symm.trans ho
  · exact hfails

/-! ### Leaves -/

namespace Leaf

variable {l : Leaf} {v : Value}

theorem skips_eq_isEmpty (hrequired : l.name ≠ "required") (hcontains : l.name ≠ "contains") (v : Value) :
    l.skips v = v.isEmpty := by
  cases l with
  | required => exact absurd rfl hrequired
  | contains _ => exact absurd rfl hcontains
  | _ => rfl

theorem finish_same (l : Leaf) (v : Value) (ok : Bool) : l.finish v ok ok = .fail [(l.name, l.detail v)] := by
  cases ok <;> rfl

theorem finish_not (l : Leaf) (v : Value) (ok : Bool) : l.finish v ok (!ok) = .pass := by
  cases ok <;> rfl

theorem check_error {fault : Fault} (htest : (l.test v).result = .error fault) (seen : l.skips v = false)
    (invert : Bool) : (l.check v invert).result = .error fault := by
  unfold check
  rw [seen, if_neg Bool.false_ne_true, Run.result_bind, htest]
  rfl

/-- A leaf that skips just the empty values keeps the contract: its test is the same for both evaluations, and the one
that goes against it fails. -/
theorem check_uniform (hskips : ∀ v, l.skips v = v.isEmpty) : Check.Uniform l.check l.name l.detail where
  empty v hv invert := by rw [check, hskips, if_pos hv]
  other v hv := by
    have seen : l.skips v = false := (hskips v).trans hv
    cases htest : (l.test v).result with
    | error fault => exact .inl ⟨fault, check_error htest seen⟩
    | ok ok =>
      refine .inr ⟨ok, ?_, ?_⟩
      · rw [check_ok htest seen, finish_same]
      · rw [check_ok htest seen, finish_not]

end Leaf

/-! ### What the leaves of the keywords report -/

/-- A rule that is a leaf reports a detail. -/
def Rule.Details (detail : Value → Value) (r : Rule) : Prop := ∀ l, r = .leaf l → l.detail = detail

namespace Rule.Details

variable {detail : Value → Value}

theorem null : Rule.null.Details detail := fun _ h => nomatch h

theorem fixed (r : Fixed) : (Rule.fixed r).Details detail := fun _ h => nomatch h

theorem leaf {l : Leaf} (h : l.detail = detail) : (Rule.leaf l).Details detail := by
  rintro _ ⟨⟩
  exact h

end Rule.Details

namespace Keyword

/-- The keywords whose rules are leaves that skip just the empty values. -/
def uniform : List Keyword :=
  [type, enum, const, minLength, maxLength, pattern, format, minimum, exclusiveMinimum, maximum, exclusiveMaximum,
    multipleOf, minProperties, maxProperties, minItems, maxItems, uniqueItems]

theorem ne_required_of_uniform {k : Keyword} (hk : k ∈ uniform) : k ≠ required := by
  rintro rfl
  exact absurd hk (by decide)

theorem isInvertible_of_uniform {k : Keyword} (hk : k ∈ uniform) : k.isInvertible = true := by
  revert hk
  cases k <;> decide

/-- What a pattern reports. -/
def patternReport (source : String) (v : Value) : Value :=
  .record [("required_pattern", .text source), ("current_value", v)]

/-- What the leaf that a keyword makes of a parameter reports of a value. The flag counts for a pattern alone, whose
text it puts between anchors. -/
def report (k : Keyword) (flag : Bool) (param v : Value) : Value :=
  match k with
  | required => .bool true
  | type => .record [("required_type", param), ("current_value", v)]
  | enum => .record [("allowed_values", param), ("current_value", v)]
  | const => .record [("required_value", param), ("current_value", v)]
  | minLength | maxLength => .record [("required_length", param), ("current_length", .int (Measure.length.of v))]
  | pattern =>
    match param with
    | .text s => patternReport (if flag then "^" ++ s ++ "$" else s) v
    | _ => .null
  | format => .record [("required_format", param), ("current_value", v)]
  | minimum => .record [("minimum_value", param), ("current_value", v)]
  | exclusiveMinimum => .record [("exclusive_minimum_value", param), ("current_value", v)]
  | maximum => .record [("maximum_value", param), ("current_value", v)]
  | exclusiveMaximum => .record [("exclusive_maximum_value", param), ("current_value", v)]
  | multipleOf => .record [("multiple_of_value", param), ("current_value", v)]
  | minProperties | maxProperties =>
    .record [("required_properties", param), ("current_properties", .int (Measure.properties.of v))]
  | minItems | maxItems => .record [("required_items", param), ("current_items", .int (Measure.items.of v))]
  | uniqueItems => .record [("duplicate_items", .list (Leaf.duplicates v))]
  | contains => .record [("required_item", param), ("current_items", v)]
  -- these make no leaf
  | dependencies | min | max | requiredTrue | email => .null

/-- Whatever leaf a keyword makes, its report is that of the keyword. -/
theorem make_details (k : Keyword) (flag : Bool) (param : Value) :
    Run.Ensures (Rule.Details (k.report flag param)) (k.make flag param) := by
  cases k with
  | required => exact switched_ensures Rule.Details.null (.leaf rfl) param
  | type => exact makeType_ensures Rule.Details.null fun _ => .leaf rfl
  | enum =>
    refine makeEnum_ensures Rule.Details.null fun items hitems => ?_
    subst hitems
    exact .leaf rfl
  | const => exact .ret (.leaf rfl)
  | pattern =>
    refine makePattern_ensures Rule.Details.null fun s regex hs => ?_
    subst hs
    exact .leaf rfl
  | format => exact makeFormat_ensures Rule.Details.null (.leaf rfl)
  | minimum | maximum =>
    refine bounded_ensures Rule.Details.null (fun n hn => ?_) _
    subst hn
    cases flag <;> exact .leaf rfl
  | minLength | maxLength | minProperties | maxProperties | minItems | maxItems | exclusiveMinimum
  | exclusiveMaximum =>
    refine bounded_ensures Rule.Details.null (fun n hn => ?_) _
    subst hn
    exact .leaf rfl
  | multipleOf =>
    refine makeDivisor_ensures Rule.Details.null fun d hd => ?_
    subst hd
    exact .leaf rfl
  | dependencies => exact .ret .null
  | uniqueItems | contains => exact switched_ensures Rule.Details.null (.leaf rfl) param
  | min | max => exact makeFixedBound_ensures Rule.Details.null (fun _ _ => .fixed _) _ param
  | requiredTrue | email => exact switched_ensures Rule.Details.null (.fixed _) param

/-! ### The contract -/

/-- What reports under the name of a uniform keyword keeps the contract with its detail, unless it is disabled. -/
theorem uniform_of_reportsAs {k : Keyword} (hk : k ∈ uniform) {detail : Value → Value} {r : Rule}
    (hr : r.ReportsAs k.name) (hdetail : r.Details detail) (given : r.isNull = false) :
    Check.Uniform r.check k.name detail := by
  obtain ⟨l, rfl, hcontains⟩ := hr.leaf_of_invertible (isInvertible_of_uniform hk) given
  have hname : l.name = k.name := by
    cases hr with
    | leaf hname => exact hname
  have hrequired : l.name ≠ "required" := by
    rw [hname]
    exact fun h => ne_required_of_uniform hk (name_injective h)
  rw [← hname, ← hdetail l rfl]
  exact Leaf.check_uniform (Leaf.skips_eq_isEmpty hrequired hcontains)

theorem builtin_lookup?_iff {k : Keyword} {name : String} :
    Registry.builtin.lookup? name = some (.keyword k) ↔ name = k.name := by
  constructor
  · intro h
    obtain ⟨_, ⟨⟩, hname⟩ := builtinMakers_get? h
    exact hname.symm
  · rintro rfl
    exact builtinMakers_get?_name k

/-- A rule that a uniform keyword makes of any parameter, unless the parameter disables it, keeps the contract with the
one name under which the keyword is registered and with the report of the parameter; so does the rule of a pattern
that has been made before. -/
theorem uniform_reports :
    (∀ k ∈ uniform, (∀ name, Registry.builtin.lookup? name = some (.keyword k) ↔ name = k.name) ∧
      ∀ (flag : Bool) (param : Value) (r : Rule), (k.make flag param).result = .ok r → r.isNull = false →
        Check.Uniform r.check k.name (k.report flag param)) ∧
    ∀ (whole : Bool) (p : Regex.Compiled) (r : Rule), (ofPattern whole p).result = .ok r → r.isNull = false →
      Check.Uniform r.check pattern.name
        (patternReport (if whole then "^(?:" ++ p.source ++ ")$" else p.source)) := by
  refine ⟨fun k hk => ⟨fun name => builtin_lookup?_iff, fun flag param r made given => ?_⟩,
    fun whole p r made given => ?_⟩
  · exact uniform_of_reportsAs hk (k.make_reportsAs flag param r made) (k.make_details flag param r made) given
  · have hdetail : Run.Ensures (Rule.Details (patternReport _)) (ofPattern whole p) :=
      compilePattern_ensures Rule.Details.null (fun _ => .leaf rfl) _
    exact uniform_of_reportsAs (by decide) (compilePattern_reportsAs _ _ r made) (hdetail r made) given

/-- A least length and a whole pattern, on a list, which has no length and no match. -/
theorem uniform_reports_list :
    let v : Value := .list [.text "abc"]
    (Registry.builtin.lookup? "minLength" = some (.keyword minLength) ∧
      ∃ r, (minLength.make false (.int 3)).result = .ok r ∧ ∃ failing,
        (r.check v failing).result = .ok (.fail [("minLength", minLength.report false (.int 3) v)]) ∧
        (r.check v !failing).result = .ok .pass) ∧
    ∃ p r, Regex.compile .none "a|b" = .ok p ∧ (ofPattern true p).result = .ok r ∧ ∃ failing,
      (r.check v failing).result = .ok (.fail [("pattern", patternReport "^(?:a|b)$" v)]) ∧
      (r.check v !failing).result = .ok .pass := by
  intro v
  constructor
  · obtain ⟨hname, hreports⟩ := uniform_reports.1 minLength (by decide)
    refine ⟨(hname "minLength").mpr rfl, _, rfl, ?_⟩
    exact (hreports false (.int 3) _ rfl rfl).fails_once rfl ⟨false, _, rfl⟩
  · obtain ⟨p, hp, hflags⟩ := exists_of_compiles .none "a|b" (fun p => p.flags == .none) (by decide +kernel)
    obtain ⟨q, hq, -⟩ := exists_of_compiles { Regex.Flags.none with unicode := true } ("^(?:" ++ "a|b" ++ ")$")
      (fun _ => true) (by decide +kernel)
    have hmade := ofPattern_of_ok hp (beq_iff_eq.mp hflags) hq
    have huniform := uniform_reports.2 true p _ hmade rfl
    rw [(Regex.Parser.alternatives_of_compile hp).1] at huniform
    exact ⟨p, _, hp, hmade, huniform.fails_once rfl ⟨false, _, rfl⟩⟩

end Keyword

end Rulebook
