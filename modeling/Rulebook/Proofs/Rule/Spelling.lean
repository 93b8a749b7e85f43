import Rulebook.Proofs.Rule.Duplicates
import Rulebook.Proofs.Rule.Evaluation
import Rulebook.Proofs.Rule.Given
import Rulebook.Proofs.Value.Reading

/-!
Verdicts do not depend on spelling. A rule gives one verdict, plain or inverted, on a value and on
every respelling of it, and so on equal values. The proof goes through the parts of a rule: each leaf
reads a value through readings that respelling keeps, a connective counts verdicts, and demands look at
members, which are respelled with their object. Only of evaluations from outside the program it has to be
assumed.
-/

namespace Rulebook

/-- Two outcomes with one verdict. -/
def Outcome.SameVerdict (o p : Outcome) : Prop := o.valid = p.valid

/-- An evaluation gives one verdict on any two spellings of one value, plain and inverted. -/
def Check.IgnoresSpelling (c : Check) : Prop :=
  ∀ v w, Respelling v w → ∀ invert, Run.Agree Outcome.SameVerdict (c v invert) (c w invert)

namespace Leaf

variable {v w : Value}

theorem anyEqual_agree (h : Respelling v w) (allowed : List Value) :
    Except.Agree Eq (anyEqual allowed v) (anyEqual allowed w) := by
  induction allowed with
  | nil => exact .pure rfl
  | cons a rest ih =>
    refine .bind (h.looselyEqual a) ?_
    rintro b _ rfl
    cases b with
    | false => exact ih
    | true => exact .pure rfl

theorem allAllowed_agree (allowed : List Value) {xs ys : List Value}
    (h : List.Forall₂ Respelling xs ys) :
    Except.Agree Eq (allAllowed allowed xs) (allAllowed allowed ys) := by
  induction h with
  | nil => exact .pure rfl
  | cons hxy _ ih =>
    refine .bind (anyEqual_agree hxy allowed) ?_
    rintro b _ rfl
    cases b with
    | false => exact .pure rfl
    | true => exact ih

theorem anyKind_agree (h : Respelling v w) (names : List String) :
    Except.Agree Eq (anyKind v names) (anyKind w names) := by
  induction names with
  | nil => exact .pure rfl
  | cons name rest ih =>
    refine .bind (h.isKindNamed name) ?_
    rintro b _ rfl
    cases b with
    | false => exact ih
    | true => exact .pure rfl

theorem measure_congr (m : Measure) (h : Respelling v w) : m.of v = m.of w := by
  cases h with
  | scalar s => rfl
  | number _ => cases m <;> rfl
  | list length _ =>
    cases m with
    | items => exact length
    | _ => rfl
  | object _ keys _ =>
    cases m with
    | properties => exact Respelling.length_of_keys keys
    | _ => rfl

theorem admits_congr (side : Side) (excluding : Bool) (bound : Number) {m n : Number}
    (h : m.Alike n) : side.admits excluding bound m = side.admits excluding bound n := by
  cases side <;> cases excluding
  · exact h.compareBy_right bound
  · exact h.compareBy_right bound
  · exact h.compareBy_left bound
  · exact h.compareBy_left bound

theorem isMultiple_agree (d : Number) {m n : Number} (h : m.Alike n) :
    Except.Agree Eq (isMultiple d m) (isMultiple d n) := by
  rcases h with rfl | h
  · exact .refl _ fun _ => rfl
  · intro a b ha hb
    unfold isMultiple at ha hb
    cases hm : m.toBinary64? with
    | none => simp [hm] at ha
    | some x =>
      cases hn : n.toBinary64? with
      | none => simp [hn] at hb
      | some y =>
        cases hd : d.toBinary64? with
        | none => simp [hm, hd] at ha
        | some z =>
          simp only [hm, hn, hd, Number.remainder_toBinary64?_congr z h hm hn] at ha hb
          exact Except.ok.inj (ha.symm.trans hb)

theorem forall₂_of_items {xs ys : List Value} (length : xs.length = ys.length)
    (each : ∀ (i : Nat) (x y : Value), xs[i]? = some x → ys[i]? = some y → Respelling x y) :
    List.Forall₂ Respelling xs ys := by
  refine List.forall₂_iff_get.mpr ⟨length, fun i hx hy => ?_⟩
  exact each i _ _ (List.getElem?_eq_getElem hx) (List.getElem?_eq_getElem hy)

theorem skips_congr (l : Leaf) (h : Respelling v w) : l.skips v = l.skips w := by
  cases l with
  | required => rfl
  | contains _ => exact congrArg (!·) h.isList
  | _ => exact h.isEmpty

/-- Each leaf tests a value and its respellings alike. -/
theorem test_agree (l : Leaf) (h : Respelling v w) : Run.Agree Eq (l.test v) (l.test w) := by
  cases l with
  | required => exact .ret (congrArg (!·) h.isEmpty)
  | kind _ names => exact .lift (anyKind_agree h names)
  | choice allowed =>
    cases h with
    | list length each => exact .lift (allAllowed_agree allowed (forall₂_of_items length each))
    | scalar s => exact .refl _ fun _ => rfl
    | number hab => exact .lift (anyEqual_agree (.number hab) allowed)
    | object keyed keys each => exact .lift (anyEqual_agree (.object keyed keys each) allowed)
  | constant expected => exact .lift (h.looselyEqual expected)
  | size side m bound =>
    refine .ret ?_
    rw [measure_congr m h]
  | pattern _ regex => cases h <;> exact .refl _ fun _ => rfl
  | format name => cases h <;> exact .refl _ fun _ => rfl
  | limit side style bound =>
    refine .bind (.lift h.toNumber?) ?_
    rintro _ _ (hmn | _)
    · exact .pure (admits_congr side _ bound hmn)
    · exact .pure rfl
  | divisor d =>
    refine .bind (.lift h.toNumber?) ?_
    rintro _ _ (hmn | _)
    · exact .lift (isMultiple_agree d hmn)
    · exact .pure rfl
  | unique => exact .ret (duplicates_isEmpty_congr h)
  | contains _ => exact .ret rfl

theorem check_agree (l : Leaf) (h : Respelling v w) (invert : Bool) :
    Run.Agree Outcome.SameVerdict (l.check v invert) (l.check w invert) := by
  unfold check
  rw [skips_congr l h]
  split
  · exact .ret rfl
  · refine .bind (test_agree l h) ?_
    rintro ok _ rfl
    exact .pure (by rw [Outcome.SameVerdict, finish_valid, finish_valid])

end Leaf

/-- The rules that cannot be inverted give one verdict on a value and its respellings. -/
theorem Fixed.check_agree (r : Fixed) {v w : Value} (h : Respelling v w) (invert : Bool) :
    Run.Agree Outcome.SameVerdict (r.check v invert) (r.check w invert) := by
  cases r with
  | bound side param b =>
    simp only [Fixed.check, h.isEmpty]
    split
    · exact .ret rfl
    · refine .bind (.lift h.toNumber?) ?_
      rintro _ _ (@⟨m, n, hmn⟩ | _)
      · dsimp only
        rw [Leaf.admits_congr side false b hmn]
        split
        · exact .pure rfl
        · exact .pure rfl
      · exact .pure rfl
  | isTrue => cases h <;> exact .refl _ fun _ => rfl
  | email => cases h <;> exact .refl _ fun _ => rfl

/-! ### Connectives and negation -/

namespace Connective

variable {v w : Value}

theorem outcomes_agree {checks : List Check}
    (h : ∀ c ∈ checks, ∀ invert, Run.Agree Outcome.SameVerdict (c v invert) (c w invert)) :
    Run.Agree (fun os ps => os.map (·.valid) = ps.map (·.valid)) (outcomes v checks)
      (outcomes w checks) := by
  induction checks with
  | nil => exact .ret rfl
  | cons c rest ih =>
    refine .bind (h c (List.mem_cons_self ..) false) fun o p hop => ?_
    refine .bind (ih fun d hd => h d (List.mem_cons_of_mem _ hd)) fun os ps hos => ?_
    exact .pure (by simp only [List.map_cons, hos]; rw [show o.valid = p.valid from hop])

theorem check_agree (c : Connective) {checks : List Check}
    (h : ∀ d ∈ checks, ∀ invert, Run.Agree Outcome.SameVerdict (d v invert) (d w invert))
    (invert : Bool) : Run.Agree Outcome.SameVerdict (c.check checks v invert) (c.check checks w invert) := by
  rw [check_eq, check_eq]
  refine .bind (outcomes_agree h) fun os ps hos => ?_
  rw [passed_eq_count, passed_eq_count, hos]
  split
  · exact .pure rfl
  · -- both fail, whatever the passing parts report
    refine .bind (R := fun _ _ => True) (fun _ _ _ _ => trivial) fun _ _ _ => ?_
    exact .pure rfl

end Connective

theorem Check.negate_agree {inner : Check} {v w : Value} (h : Respelling v w)
    (hinner : ∀ invert, Run.Agree Outcome.SameVerdict (inner v invert) (inner w invert)) (invert : Bool) :
    Run.Agree Outcome.SameVerdict (Check.negate inner v invert) (Check.negate inner w invert) := by
  unfold Check.negate
  rw [h.isEmpty]
  split
  · exact .ret rfl
  · refine .bind (hinner !invert) fun o p hop => ?_
    rw [show o.valid = p.valid from hop]
    split
    · exact .pure rfl
    · exact .pure rfl

/-! ### Demands -/

/-- Only whether they are empty matters of the required fields. -/
theorem requiredFailures_congr {v w : Value} {fields : List Value}
    (h : ∀ s, .scalar s ∈ fields → (v.member s).isEmpty = (w.member s).isEmpty) (invert : Bool)
    (acc : FieldFailures) :
    requiredFailures v invert fields acc = requiredFailures w invert fields acc := by
  induction fields generalizing acc with
  | nil => rfl
  | cons field rest ih =>
    have hrest := ih fun s hs => h s (List.mem_cons_of_mem _ hs)
    cases field with
    | scalar s => rw [requiredFailures, requiredFailures, h s (List.mem_cons_self ..), hrest]
    | list _ => rfl
    | object _ => rfl

theorem addFailures_isEmpty (field : Scalar) (failed : List Failures) (acc : FieldFailures) :
    (addFailures field failed acc).isEmpty = (failed.isEmpty && acc.isEmpty) := by
  unfold addFailures
  cases failed with
  | nil => rfl
  | cons f rest => exact List.isEmpty_eq_false_iff.mpr (Ordered.insert_ne_nil _ _ _)

/-- Two lists of which both or neither have items. -/
def SameEmptiness {α : Type} (xs ys : List α) : Prop := xs.isEmpty = ys.isEmpty

theorem isEmpty_append {α : Type} (xs ys : List α) :
    (xs ++ ys).isEmpty = (xs.isEmpty && ys.isEmpty) := by
  cases xs <;> rfl

mutual

theorem Rule.check_agree (r : Rule) (given : r.AllGiven Check.IgnoresSpelling) {v w : Value}
    (h : Respelling v w) (invert : Bool) :
    Run.Agree Outcome.SameVerdict (r.check v invert) (r.check w invert) := by
  cases r with
  | null => exact .ret rfl
  | leaf l => exact l.check_agree h invert
  | fixed r => exact r.check_agree h invert
  | given check => exact given v w h invert
  | several c rules => exact c.check_agree (Rule.checks_agree rules given h) invert
  | negation r => exact Check.negate_agree h (fun i => Rule.check_agree r given h i) invert
  | demands ds =>
    simp only [Rule.check, h.isObject]
    split
    · refine .bind (Demand.checks_agree ds given h invert) fun xs ys hxy => ?_
      refine .pure ?_
      unfold demandsOutcome
      rw [show xs.isEmpty = ys.isEmpty from hxy]
      split <;> rfl
    · exact .ret rfl
termination_by structural r

theorem Rule.checks_agree (rules : List Rule) (given : Rule.EachGiven Check.IgnoresSpelling rules)
    {v w : Value} (h : Respelling v w) :
    ∀ c ∈ Rule.checks rules, ∀ invert, Run.Agree Outcome.SameVerdict (c v invert) (c w invert) := by
  cases rules with
  | nil => intro c hc; cases hc
  | cons r rest =>
    intro c hc invert
    rcases List.mem_cons.mp hc with rfl | hc
    · exact Rule.check_agree r given.1 h invert
    · exact Rule.checks_agree rest given.2 h c hc invert
termination_by structural rules

theorem Rule.failures_agree (rules : List Rule) (given : Rule.EachGiven Check.IgnoresSpelling rules)
    {v w : Value} (h : Respelling v w) :
    Run.Agree SameEmptiness (Rule.failures rules v) (Rule.failures rules w) := by
  cases rules with
  | nil => exact .ret rfl
  | cons r rest =>
    refine .bind (Rule.check_agree r given.1 h false) fun o p hop => ?_
    refine .bind (Rule.failures_agree rest given.2 h) fun xs ys hxy => ?_
    refine .pure ?_
    rw [show o.valid = p.valid from hop]
    split
    · exact hxy
    · rfl
termination_by structural rules

theorem Demand.checks_agree (ds : List Demand) (given : Demand.EachGiven Check.IgnoresSpelling ds)
    {v w : Value} (h : Respelling v w) (invert : Bool) :
    Run.Agree SameEmptiness (Demand.checks ds v invert) (Demand.checks ds w invert) := by
  cases ds with
  | nil => exact .ret rfl
  | cons d rest =>
    refine .bind (Demand.check_agree d given.1 h invert) fun xs ys hxy => ?_
    refine .bind (Demand.checks_agree rest given.2 h invert) fun xs' ys' hxy' => ?_
    refine .pure ?_
    rw [SameEmptiness, isEmpty_append, isEmpty_append]
    rw [show xs.isEmpty = ys.isEmpty from hxy, show xs'.isEmpty = ys'.isEmpty from hxy']
termination_by structural ds

theorem Demand.check_agree (d : Demand) (given : d.AllGiven Check.IgnoresSpelling) {v w : Value}
    (h : Respelling v w) (invert : Bool) :
    Run.Agree SameEmptiness (Demand.check d v invert) (Demand.check d w invert) := by
  cases d with
  | mk trigger required plans =>
    simp only [Demand.check, (h.member trigger).isEmpty]
    split
    · exact .ret rfl
    · refine .bind (R := Eq) (.refl _ fun _ => rfl) ?_
      rintro fields _ rfl
      rw [requiredFailures_congr fun s _ => (h.member s).isEmpty]
      refine .bind (R := Eq) (.refl _ fun _ => rfl) ?_
      rintro acc _ rfl
      refine .bind (Plan.addAll_agree plans given h rfl) fun xs ys hxy => ?_
      refine .pure ?_
      rw [show xs.isEmpty = ys.isEmpty from hxy]
      split <;> rfl
termination_by structural d

theorem Plan.addAll_agree (plans : List Plan) (given : Plan.EachGiven Check.IgnoresSpelling plans)
    {v w : Value} (h : Respelling v w) {acc acc' : FieldFailures} (hacc : SameEmptiness acc acc') :
    Run.Agree SameEmptiness (Plan.addAll plans v acc) (Plan.addAll plans w acc') := by
  cases plans with
  | nil => exact .ret hacc
  | cons p rest =>
    refine .bind (Plan.add_agree p given.1 h hacc) fun xs ys hxy => ?_
    exact Plan.addAll_agree rest given.2 h hxy
termination_by structural plans

theorem Plan.add_agree (p : Plan) (given : p.AllGiven Check.IgnoresSpelling) {v w : Value}
    (h : Respelling v w) {acc acc' : FieldFailures} (hacc : SameEmptiness acc acc') :
    Run.Agree SameEmptiness (Plan.add p v acc) (Plan.add p w acc') := by
  cases p with
  | rules field notices rules =>
    refine .bind (R := fun _ _ => True) (fun _ _ _ _ => trivial) fun _ _ _ => ?_
    refine .bind (Rule.failures_agree rules given (h.member field)) fun xs ys hxy => ?_
    refine .pure ?_
    rw [SameEmptiness] at hxy hacc ⊢
    rw [addFailures_isEmpty, addFailures_isEmpty, hxy, hacc]
  | broken field notices fault =>
    refine .bind (R := fun _ _ => True) (fun _ _ _ _ => trivial) fun _ _ _ => ?_
    exact fun a b ha => by cases ha
termination_by structural p

end

/-! ### Verdicts -/

/-- A rule gives one verdict, plain or inverted, on equal values, and on any two spellings of one
value, if the evaluations that are given in it do. What the keywords make has none. -/
theorem Rule.verdict_of_equal {r : Rule} (given : r.AllGiven Check.IgnoresSpelling) (invert : Bool) :
    (∀ v w : Value, v.Keyed → w.Keyed → v.equal w = true → ∀ o p : Outcome,
      (r.check v invert).result = .ok o → (r.check w invert).result = .ok p →
        o.valid = p.valid) ∧
    (∀ v w : Value, Respelling v w → ∀ o p : Outcome,
      (r.check v invert).result = .ok o → (r.check w invert).result = .ok p →
        o.valid = p.valid) := by
  have hspelling : ∀ v w : Value, Respelling v w → ∀ o p : Outcome,
      (r.check v invert).result = .ok o → (r.check w invert).result = .ok p →
        o.valid = p.valid := fun v w h o p ho hp => Rule.check_agree r given h invert o p ho hp
  refine ⟨fun v w hv hw heq => ?_, hspelling⟩
  exact hspelling v w (.of_equal hv hw heq)

/-- A negated demand on an object, and on the same object with its members in another order and its
numbers written as floats. -/
theorem Rule.verdict_of_reordered :
    let r := Rule.negation (.several .compose
      [.demands [.mk (.text "a") (.ok [.text "b"]) [.rules (.text "b") [] [.leaf (.constant (.int 2))]]],
        .leaf (.kind (.text "integer") ["integer"])])
    let v := Value.object [(.text "a", .int 1), (.text "b", .list [.int 0])]
    let w := Value.object
      [(.text "b", .list [.float .negativeZero]), (.text "a", .float (.ofDyadic (.ofInt 1)))]
    ∃ o p, (r.check v true).result = .ok o ∧ (r.check w true).result = .ok p ∧ o.valid = p.valid := by
  intro r v w
  have hv : v.Keyed := by
    refine .pair (.scalar trivial) (.list ?_) (by decide)
    simp [Value.Over.scalar]
  have hw : w.Keyed := by
    refine .pair (.list ?_) (.scalar trivial) (by decide)
    simp [Value.Over.scalar]
  have given : r.AllGiven Check.IgnoresSpelling :=
    ⟨⟨⟨⟨trivial, trivial⟩, trivial⟩, trivial⟩, trivial, trivial⟩
  refine ⟨_, _, rfl, rfl, ?_⟩
  exact (Rule.verdict_of_equal given true).1 v w hv hw (by decide) _ _ rfl rfl

end Rulebook
