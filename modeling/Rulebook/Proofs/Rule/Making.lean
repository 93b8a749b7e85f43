import Mathlib
import Rulebook.Registry.Build
import Rulebook.Proofs.Rule.Evaluation
import Rulebook.Proofs.Value.Coercion

/-!
What making a rule gives. Whatever its parameter, a keyword makes nothing or one rule that reports
under the name of the keyword and under no other. So an outcome of a made rule is a pass or a single
failure under that name.
-/

namespace Rulebook

/-- The name under which a rule that cannot be inverted reports. -/
def Fixed.name : Fixed → String
  | .bound .least _ _ => "min"
  | .bound .greatest _ _ => "max"
  | .isTrue => "requiredTrue"
  | .email => "email"

/-- Nothing, or a rule without parts that reports under one name only. -/
inductive Rule.ReportsAs (name : String) : Rule → Prop
  | null : ReportsAs name .null
  | leaf {l : Leaf} (h : l.name = name) : ReportsAs name (.leaf l)
  | fixed {r : Fixed} (h : r.name = name) : ReportsAs name (.fixed r)
  | demands (ds : List Demand) (h : "dependencies" = name) : ReportsAs name (.demands ds)

/-- A pass, or one failure under a name. -/
inductive Outcome.Under (name : String) : Outcome → Prop
  | pass : Under name .pass
  | fail (detail : Value) : Under name (.fail [(name, detail)])

/-! ### Outcomes -/

theorem Leaf.finish_under (l : Leaf) (v : Value) (ok invert : Bool) :
    (l.finish v ok invert).Under l.name := by
  unfold Leaf.finish
  split
  · exact .pass
  · exact .fail _

theorem Leaf.check_under (l : Leaf) (v : Value) (invert : Bool) :
    Run.Ensures (Outcome.Under l.name) (l.check v invert) := by
  unfold Leaf.check
  split
  · exact .ret .pass
  · exact .andThen fun ok => .pure (l.finish_under v ok invert)

theorem Fixed.check_under (r : Fixed) (v : Value) (invert : Bool) :
    Run.Ensures (Outcome.Under r.name) (r.check v invert) := by
  cases r with
  | bound side param b =>
    simp only [Fixed.check]
    split
    · exact .ret .pass
    · refine .andThen fun n? => ?_
      cases n? with
      | none => exact .pure .pass
      | some n =>
        dsimp only
        split
        · exact .pure .pass
        · cases side <;> exact .pure (.fail _)
  | isTrue =>
    simp only [Fixed.check]
    split
    · exact .ret .pass
    · exact .ret (.fail _)
  | email =>
    simp only [Fixed.check]
    split
    · exact .ret .pass
    · split
      · split
        · exact .ret .pass
        · exact .ret (.fail _)
      · exact .ret (.fail _)

theorem demandsOutcome_under (failed : List (Scalar × Value)) :
    (demandsOutcome failed).Under "dependencies" := by
  unfold demandsOutcome
  split
  · exact .pass
  · exact .fail _

/-- Plain or inverted, a rule that reports under one name fails under that name or not at all. -/
theorem Rule.ReportsAs.check_under {name : String} {r : Rule} (hr : r.ReportsAs name) (v : Value)
    (invert : Bool) : Run.Ensures (Outcome.Under name) (r.check v invert) := by
  cases hr with
  | null => exact .ret .pass
  | @leaf l hname => exact hname ▸ l.check_under v invert
  | @fixed r hname => exact hname ▸ r.check_under v invert
  | demands ds hname =>
    subst hname
    unfold Rule.check
    split
    · exact .andThen fun failed => .pure (demandsOutcome_under failed)
    · exact .ret .pass

/-! ### The makers -/

/-- A value that is read as a number is that number. -/
theorem Value.number?_ensures (v : Value) :
    Run.Ensures (fun n? => ∀ n, n? = some n → v = .number n) (liftM v.number? : Run (Option Number)) := by
  rintro _ h n rfl
  exact (number?_eq_some_iff.mp h).1

namespace Keyword

theorem usableBound_ensures (rule : String) (bound : Value) :
    Run.Ensures (fun n? => ∀ n, n? = some n → bound = .number n) (usableBound rule bound) := by
  refine .bind bound.number?_ensures fun n? hn => ?_
  cases n? with
  | none => exact .andThen fun _ => .pure fun _ h => nomatch h
  | some n => exact .pure hn

/-! What holds of the disabled rule and of the rules that a maker makes otherwise holds of what it returns. -/

section

variable {P : Rule → Prop} (null : P .null)
include null

theorem switched_ensures {r : Rule} (hr : P r) (param : Value) : Run.Ensures P (switched r param) := by
  refine .ret ?_
  split
  · exact hr
  · exact null

theorem bounded_ensures {leaf : Number → Leaf} {bound : Value}
    (hleaf : ∀ n, bound = .number n → P (.leaf (leaf n))) (rule : String) :
    Run.Ensures P (bounded rule leaf bound) := by
  refine .bind (usableBound_ensures rule bound) fun n? hn => ?_
  cases n? with
  | none => exact .pure null
  | some n => exact .pure (hleaf n (hn n rfl))

theorem makeType_ensures {declared : Value} (hleaf : ∀ names, P (.leaf (.kind declared names))) :
    Run.Ensures P (makeType declared) := by
  unfold makeType
  split
  · exact .ret null
  · dsimp only
    split
    · exact .ret (hleaf _)
    · exact .andThen fun _ => .pure null

theorem makeEnum_ensures {allowed : Value} (hleaf : ∀ items, allowed = .list items → P (.leaf (.choice items))) :
    Run.Ensures P (makeEnum allowed) := by
  unfold makeEnum
  split
  · exact .ret null
  · exact .ret (hleaf _ rfl)
  · exact .andThen fun _ => .pure null

theorem compilePattern_ensures {source : String} (hleaf : ∀ regex, P (.leaf (.pattern source regex)))
    (flags : Regex.Flags) : Run.Ensures P (compilePattern flags source) := by
  unfold compilePattern
  split
  · exact .ret (hleaf _)
  · exact .andThen fun _ => .pure null
  · exact .stop _

theorem makePattern_ensures {whole : Bool} {param : Value} (hleaf : ∀ s regex, param = .text s →
    P (.leaf (.pattern (if whole then "^" ++ s ++ "$" else s) regex))) :
    Run.Ensures P (makePattern whole param) := by
  unfold makePattern
  split
  · exact .ret null
  · split
    · exact compilePattern_ensures null (fun regex => hleaf _ regex rfl) _
    · exact .andThen fun _ => .pure null

theorem makeFormat_ensures {name : Value} (hleaf : P (.leaf (.format name))) :
    Run.Ensures P (makeFormat name) := by
  refine .ret ?_
  split
  · exact hleaf
  · exact null

theorem makeDivisor_ensures {param : Value} (hleaf : ∀ d, param = .number d → P (.leaf (.divisor d))) :
    Run.Ensures P (makeDivisor param) := by
  refine .bind param.number?_ensures fun d? hd => ?_
  cases d? with
  | none => exact .andThen fun _ => .pure null
  | some d =>
    dsimp only
    split
    · exact .pure (hleaf d (hd d rfl))
    · exact .andThen fun _ => .pure null

theorem makeFixedBound_ensures {side : Side} (hfixed : ∀ param n, P (.fixed (.bound side param n)))
    (name : String) (param : Value) : Run.Ensures P (makeFixedBound side name param) := by
  unfold makeFixedBound
  split
  · exact .ret null
  · refine .andThen fun n? => ?_
    cases n? with
    | none => exact .andThen fun _ => .pure null
    | some n => exact .pure (hfixed param n)

end

theorem compilePattern_reportsAs (flags : Regex.Flags) (source : String) :
    Run.Ensures (Rule.ReportsAs "pattern") (compilePattern flags source) :=
  compilePattern_ensures .null (fun _ => .leaf rfl) flags

/-- A keyword makes a rule that reports under the name of the keyword. -/
theorem make_reportsAs (k : Keyword) (excluding : Bool) (param : Value) :
    Run.Ensures (Rule.ReportsAs k.name) (k.make excluding param) := by
  cases k with
  | required => exact switched_ensures .null (.leaf rfl) param
  | type => exact makeType_ensures .null fun _ => .leaf rfl
  | enum => exact makeEnum_ensures .null fun _ _ => .leaf rfl
  | const => exact .ret (.leaf rfl)
  | pattern => exact makePattern_ensures .null fun _ _ _ => .leaf rfl
  | format => exact makeFormat_ensures .null (.leaf rfl)
  | minimum | maximum => exact bounded_ensures .null (fun _ _ => .leaf (by cases excluding <;> rfl)) _
  | multipleOf => exact makeDivisor_ensures .null fun _ _ => .leaf rfl
  | dependencies => exact .ret .null
  | uniqueItems | contains => exact switched_ensures .null (.leaf rfl) param
  | min | max => exact makeFixedBound_ensures .null (fun _ _ => .fixed rfl) _ param
  | requiredTrue | email => exact switched_ensures .null (.fixed rfl) param
  | minLength | maxLength | minProperties | maxProperties | minItems | maxItems | exclusiveMinimum
  | exclusiveMaximum => exact bounded_ensures .null (fun _ _ => .leaf rfl) _

/-- So does the keyword with any second argument. -/
theorem makeWith_reportsAs (k : Keyword) (second : Second) (param : Value) :
    Run.Ensures (Rule.ReportsAs k.name) (k.makeWith second param) := by
  cases second with
  | nothing => exact make_reportsAs k false param
  | flag on =>
    simp only [makeWith]
    split
    · exact make_reportsAs k on param
    · exact .stop _
  | registry =>
    simp only [makeWith]
    split
    · exact make_reportsAs k true param
    · exact .stop _

end Keyword

end Rulebook
