import Rulebook.Rule.Keyword
import Rulebook.Proofs.Number.Place
import Rulebook.Proofs.Rule.Evaluation
import Rulebook.Proofs.Value.Json

/-!
When an evaluation returns. On JSON values only three things stop one: a format named by a list or an
object, a text that spells an integer too large for a float where a divisor is asked for, and demands
that cannot be walked through. Inversion has no part in it. All other makers of rules, given a JSON
parameter, make rules that return on every JSON value.
-/

namespace Rulebook

/-- A list or an object, which is no key. -/
def Value.isComposite : Value → Bool
  | .list _ | .object _ => true
  | .scalar _ => false

/-- The evaluation returns on every JSON value, inverted or not. -/
def Rule.Total (r : Rule) : Prop := ∀ v : Value, v.IsJson → ∀ invert, (r.check v invert).Returns

/-! ### Leaves -/

namespace Leaf

variable {l : Leaf} {v : Value} {invert : Bool}

theorem check_returns_iff : (l.check v invert).Returns ↔ l.skips v = true ∨ (l.test v).Returns := by
  unfold check
  cases l.skips v with
  | true => simp
  | false =>
    rw [if_neg Bool.false_ne_true, Run.returns_iff_yields, Run.yields_bind_iff]
    simp [Run.returns_iff_yields]

theorem total_of_test (h : ∀ v : Value, v.IsJson → (l.test v).Returns) : (Rule.leaf l).Total :=
  fun v hv _ => check_returns_iff.mpr (.inr (h v hv))

/-- Where each comparison has an answer, a value is allowed when an allowed value loosely equals it. -/
theorem anyEqual_ok {allowed : List Value} (h : ∀ a ∈ allowed, ∃ b, a.looselyEqual v = .ok b) :
    ∃ b, anyEqual allowed v = .ok b ∧ (b = true ↔ ∃ a ∈ allowed, a.looselyEqual v = .ok true) := by
  induction allowed with
  | nil => exact ⟨false, rfl, by simp⟩
  | cons a rest ih =>
    obtain ⟨⟨b, hb⟩, hrest⟩ := List.forall_mem_cons.mp h
    obtain ⟨b', hb', hiff⟩ := ih hrest
    simp only [List.exists_mem_cons_iff, hb]
    rw [anyEqual, hb]
    cases b with
    | false => exact ⟨b', hb', by simpa using hiff⟩
    | true => exact ⟨true, rfl, by simp⟩

/-- The items of a list are allowed when each of them is. -/
theorem allAllowed_ok {allowed items : List Value}
    (h : ∀ v ∈ items, ∀ a ∈ allowed, ∃ b, a.looselyEqual v = .ok b) :
    ∃ b, allAllowed allowed items = .ok b ∧
      (b = true ↔ ∀ v ∈ items, ∃ a ∈ allowed, a.looselyEqual v = .ok true) := by
  induction items with
  | nil => exact ⟨true, rfl, by simp⟩
  | cons v rest ih =>
    obtain ⟨hv, hrest⟩ := List.forall_mem_cons.mp h
    obtain ⟨b, hb, hany⟩ := anyEqual_ok hv
    obtain ⟨b', hb', hall⟩ := ih hrest
    rw [List.forall_mem_cons, ← hany, ← hall, allAllowed, hb]
    cases b with
    | false => exact ⟨false, rfl, by simp⟩
    | true => exact ⟨b', hb', by simp⟩

theorem anyKind_ok (hv : v.IsJson) (names : List String) : ∃ b, anyKind v names = .ok b := by
  induction names with
  | nil => exact ⟨false, rfl⟩
  | cons name rest ih =>
    obtain ⟨b, hb⟩ := hv.isKindNamed name
    obtain ⟨b', hb'⟩ := ih
    rw [anyKind, hb]
    cases b with
    | false => exact ⟨b', hb'⟩
    | true => exact ⟨true, rfl⟩

theorem total_required : (Rule.leaf .required).Total :=
  total_of_test fun _ _ => Run.returns_ret _

theorem total_kind (declared : Value) (names : List String) :
    (Rule.leaf (.kind declared names)).Total :=
  total_of_test fun _ hv => anyKind_ok hv names

theorem total_choice {allowed : List Value} (hallowed : ∀ a ∈ allowed, a.IsJson) :
    (Rule.leaf (.choice allowed)).Total := by
  have heach {v : Value} (hv : v.IsJson) : ∀ a ∈ allowed, ∃ b, a.looselyEqual v = .ok b :=
    fun a ha => (hallowed a ha).looselyEqual hv
  have hany {v : Value} (hv : v.IsJson) : ∃ b, anyEqual allowed v = .ok b := by
    obtain ⟨b, hb, -⟩ := anyEqual_ok (heach hv)
    exact ⟨b, hb⟩
  refine total_of_test fun v hv => ?_
  cases hv with
  | scalar h => exact hany (Value.Over.scalar h)
  | list each =>
    obtain ⟨b, hb, -⟩ := allAllowed_ok fun v hv => heach (each v hv)
    exact ⟨b, hb⟩
  | object keyed each => exact hany (Value.Over.object keyed each)

theorem total_constant {expected : Value} (h : expected.IsJson) :
    (Rule.leaf (.constant expected)).Total :=
  total_of_test fun _ hv => h.looselyEqual hv

theorem total_size (side : Side) (m : Measure) (bound : Number) :
    (Rule.leaf (.size side m bound)).Total :=
  total_of_test fun _ _ => Run.returns_ret _

theorem total_pattern (source : String) (regex : Regex) :
    (Rule.leaf (.pattern source regex)).Total := by
  refine total_of_test fun v _ => ?_
  simp only [test]
  split <;> exact Run.returns_ret _

theorem total_limit (side : Side) (style : LimitStyle) (bound : Number) :
    (Rule.leaf (.limit side style bound)).Total := by
  refine total_of_test fun v hv => ?_
  rw [Run.returns_iff_yields, test, hv.toNumber?, Run.yields_bind_iff, Run.yields_lift_iff]
  refine ⟨_, rfl, ?_⟩
  cases v.spelled? <;> simp

theorem total_unique : (Rule.leaf .unique).Total :=
  total_of_test fun _ _ => Run.returns_ret _

theorem total_contains (item : Value) : (Rule.leaf (.contains item)).Total :=
  total_of_test fun _ _ => Run.returns_ret _

theorem formatHolds_returns_iff {name : Value} {s : String} :
    (formatHolds name s).Returns ↔ name.isComposite = false := by
  unfold formatHolds
  split
  · simp [Value.isComposite]
  · simp [Value.isComposite]
  · split <;> simp [Value.isComposite, Run.returns_iff_yields]
  · next hlist hobject _ =>
    cases name with
    | list items => exact absurd rfl (hlist items)
    | object members => exact absurd rfl (hobject members)
    | scalar s => simp [Value.isComposite, Run.returns_iff_yields]

/-- A format is looked up for a text that is not empty, and a list or an object cannot be. -/
theorem format_returns_iff {name : Value} : ((Leaf.format name).check v invert).Returns ↔
    ∀ s, v = .text s → s ≠ "" → name.isComposite = false := by
  rw [check_returns_iff]
  cases v with
  | list items => simp [test]
  | object members => simp [test]
  | scalar s =>
    cases s with
    | text s =>
      simp only [skips, test, formatHolds_returns_iff, Value.isEmpty, String.isEmpty_iff,
        Value.scalar.injEq, Scalar.text.injEq, forall_eq']
      by_cases hs : s = "" <;> simp [hs]
    | _ => simp [test]

/-- A JSON divisor goes into or not into every number that has a float near it. -/
theorem isMultiple_ok_iff {d n : Number} (hd : d.IsJson)
    (hn : ∀ negative, n ≠ .float (.infinity negative)) :
    (∃ b, isMultiple d n = .ok b) ↔ n.toBinary64?.isSome = true := by
  have hy : ∃ y, d.toBinary64? = some y := by
    cases d with
    | int m => exact Option.isSome_iff_exists.mp hd
    | float y => exact ⟨y, rfl⟩
  obtain ⟨y, hy⟩ := hy
  unfold isMultiple
  rw [hy]
  cases hx : n.toBinary64? with
  | none => simp
  | some x =>
    have hfinite : ∀ negative, x ≠ .infinity negative := by
      cases n with
      | int m => exact Binary64.ofInt?_ne_infinity hx
      | float z =>
        cases hx
        exact fun negative hz => hn negative (congrArg _ hz)
    obtain ⟨b, hb⟩ := Number.remainderIsZero?_isSome hfinite y
    simp [hb]

/-- A divisor is asked for of the nearest float, and a text can spell an integer that has none. -/
theorem divisor_returns_iff {d : Number} (hd : d.IsJson) (hv : v.IsJson) :
    ((Leaf.divisor d).check v invert).Returns ↔
      ∀ s n, v = .text s → Number.ofText? s = some (.int n) → (Binary64.ofInt? n).isSome = true := by
  have htest : ((Leaf.divisor d).test v).Returns ↔
      ∀ n, v.spelled? = some n → n.toBinary64?.isSome = true := by
    rw [Run.returns_iff_yields, test, hv.toNumber?, Run.yields_bind_iff, Run.yields_lift_iff]
    cases hn : v.spelled? with
    | none => simp
    | some n =>
      have hmultiple := isMultiple_ok_iff hd (hv.spelled?_ne_infinity hn)
      simp [Run.yields_lift_iff, hmultiple]
  rw [check_returns_iff, htest]
  constructor
  · rintro (hskip | htotal) s n rfl hn
    · -- an empty text spells nothing
      have hs : s = "" := String.isEmpty_iff.mp hskip
      subst hs
      cases hn
    · exact htotal (.int n) hn
  · intro h
    refine .inr fun n hn => ?_
    cases n with
    | float x => rfl
    | int m =>
      cases v with
      | list items => cases hn
      | object members => cases hn
      | scalar s =>
        cases s with
        | text s => exact h s m rfl hn
        | number k =>
          cases hn
          exact hv.asScalar
        | _ => cases hn

end Leaf

theorem Fixed.total (r : Fixed) : (Rule.fixed r).Total := by
  intro v hv invert
  show (r.check v invert).Returns
  cases r with
  | bound side param b =>
    simp only [Fixed.check]
    split
    · exact Run.returns_ret _
    · rw [Run.returns_iff_yields, hv.toNumber?, Run.yields_bind_iff, Run.yields_lift_iff]
      refine ⟨_, rfl, ?_⟩
      cases v.spelled? with
      | none => simp
      | some n =>
        dsimp only
        split <;> simp
  | isTrue =>
    simp only [Fixed.check]
    split <;> exact Run.returns_ret _
  | email =>
    simp only [Fixed.check]
    split
    · exact Run.returns_ret _
    · split <;> exact Run.returns_ret _

theorem Rule.total_null : Rule.null.Total := fun _ _ _ => Run.returns_ret _

/-! ### The makers -/

namespace Keyword

variable {param : Value}

theorem switched_total {r : Rule} (hr : r.Total) (param : Value) :
    (switched r param).Yields Rule.Total := by
  refine Run.yields_ret_iff.mpr ?_
  split
  · exact hr
  · exact Rule.total_null

theorem bounded_total {leaf : Number → Leaf} (hleaf : ∀ n, (Rule.leaf (leaf n)).Total)
    (hp : param.IsJson) (rule : String) : (bounded rule leaf param).Yields Rule.Total := by
  unfold bounded usableBound
  rw [hp.number?]
  simp only [Run.yields_bind_iff, Run.yields_lift_iff]
  refine ⟨_, rfl, ?_⟩
  cases param.asNumber? with
  | some n => simpa using hleaf n
  | none => simpa using Rule.total_null

theorem makeType_total (declared : Value) : (makeType declared).Yields Rule.Total := by
  unfold makeType
  split
  · exact Run.yields_ret_iff.mpr Rule.total_null
  · dsimp only
    split
    · exact Run.yields_ret_iff.mpr (Leaf.total_kind _ _)
    · simpa using Rule.total_null

theorem makeEnum_total (hp : param.IsJson) : (makeEnum param).Yields Rule.Total := by
  unfold makeEnum
  split
  · exact Run.yields_ret_iff.mpr Rule.total_null
  · cases hp with
    | list each => exact Run.yields_ret_iff.mpr (Leaf.total_choice each)
  · simpa using Rule.total_null

theorem makeFixedBound_total (hp : param.IsJson) (side : Side) (name : String) :
    (makeFixedBound side name param).Yields Rule.Total := by
  unfold makeFixedBound
  split
  · exact Run.yields_ret_iff.mpr Rule.total_null
  · rw [hp.toNumber?]
    simp only [Run.yields_bind_iff, Run.yields_lift_iff]
    refine ⟨_, rfl, ?_⟩
    cases param.spelled? with
    | some n => simpa using Fixed.total _
    | none => simpa using Rule.total_null

/-- The keywords whose rules nothing stops. -/
def isTotal : Keyword → Bool
  | pattern | format | multipleOf | dependencies => false
  | _ => true

theorem make_total {k : Keyword} (hk : k.isTotal = true) (hp : param.IsJson) (excluding : Bool) :
    (k.make excluding param).Yields Rule.Total := by
  cases k with
  | required => exact switched_total Leaf.total_required param
  | type => exact makeType_total param
  | enum => exact makeEnum_total hp
  | const => exact Run.yields_ret_iff.mpr (Leaf.total_constant hp)
  | minLength | maxLength | minProperties | maxProperties | minItems | maxItems =>
    exact bounded_total (fun n => Leaf.total_size _ _ n) hp _
  | minimum | maximum | exclusiveMinimum | exclusiveMaximum =>
    exact bounded_total (fun n => Leaf.total_limit _ _ n) hp _
  | uniqueItems => exact switched_total Leaf.total_unique param
  | contains => exact switched_total (Leaf.total_contains param) param
  | min => exact makeFixedBound_total hp _ _
  | max => exact makeFixedBound_total hp _ _
  | requiredTrue => exact switched_total (Fixed.total _) param
  | email => exact switched_total (Fixed.total _) param
  | pattern | format | multipleOf | dependencies => cases hk

end Keyword

/-! ### Demands -/

theorem Rule.failures_returns_iff {rules : List Rule} {v : Value} :
    (Rule.failures rules v).Returns ↔ ∀ r ∈ rules, (r.check v false).Returns := by
  induction rules with
  | nil => simp [Rule.failures]
  | cons r rest ih =>
    rw [Rule.failures, Run.returns_bind_iff, List.forall_mem_cons, ← ih]
    constructor
    · rintro ⟨o, ho, h⟩
      obtain ⟨more, hmore, -⟩ := Run.returns_bind_iff.mp h
      exact ⟨⟨o, ho⟩, ⟨more, hmore⟩⟩
    · rintro ⟨⟨o, ho⟩, ⟨more, hmore⟩⟩
      exact ⟨o, ho, Run.returns_bind_iff.mpr ⟨more, hmore, Run.returns_pure _⟩⟩

/-- Required fields are walked through when each is a key. -/
theorem requiredFailures_returns_iff {v : Value} {invert : Bool} {fields : List Value}
    {acc : FieldFailures} :
    (requiredFailures v invert fields acc).Returns ↔ ∀ f ∈ fields, f.isComposite = false := by
  induction fields generalizing acc with
  | nil => simp [requiredFailures]
  | cons field rest ih =>
    cases field with
    | scalar s =>
      rw [requiredFailures, ih, List.forall_mem_cons]
      simp [Value.isComposite]
    | list items => simp [requiredFailures, Value.isComposite]
    | object members => simp [requiredFailures, Value.isComposite]

/-- The rules of the field could be made and return. -/
def Plan.ReturnsOn (v : Value) : Plan → Prop
  | .rules field _ rs => ∀ r ∈ rs, (r.check (v.member field) false).Returns
  | .broken _ _ _ => False

theorem Plan.add_returns_iff {p : Plan} {v : Value} {acc : FieldFailures} :
    (Plan.add p v acc).Returns ↔ p.ReturnsOn v := by
  cases p with
  | rules field notices rules =>
    rw [Plan.ReturnsOn, ← Rule.failures_returns_iff]
    simp [Plan.add, Run.returns_iff_yields]
  | broken field notices fault => simp [Plan.add, Plan.ReturnsOn, Run.returns_iff_yields]

theorem Plan.addAll_returns_iff {plans : List Plan} {v : Value} {acc : FieldFailures} :
    (Plan.addAll plans v acc).Returns ↔ ∀ p ∈ plans, p.ReturnsOn v := by
  induction plans generalizing acc with
  | nil => simp [Plan.addAll]
  | cons p rest ih =>
    rw [Plan.addAll, Run.returns_bind_iff, List.forall_mem_cons, ← Plan.add_returns_iff]
    constructor
    · rintro ⟨acc', hacc', h⟩
      exact ⟨⟨acc', hacc'⟩, ih.mp h⟩
    · rintro ⟨⟨acc', hacc'⟩, h⟩
      exact ⟨acc', hacc', ih.mpr h⟩

/-- A demand is looked at only when its trigger is present. -/
def Demand.ReturnsOn (v : Value) : Demand → Prop
  | .mk trigger required plans => (v.member trigger).isEmpty = false →
    (∃ fields, required = .ok fields ∧ ∀ f ∈ fields, f.isComposite = false) ∧
      ∀ p ∈ plans, p.ReturnsOn v

theorem Demand.check_returns_iff {d : Demand} {v : Value} {invert : Bool} :
    (Demand.check d v invert).Returns ↔ d.ReturnsOn v := by
  cases d with
  | mk trigger required plans =>
    rw [Demand.check, Demand.ReturnsOn]
    cases (v.member trigger).isEmpty with
    | true => simp
    | false =>
      rw [if_neg Bool.false_ne_true, Run.returns_bind_iff]
      simp only [forall_const, Run.result_lift]
      constructor
      · rintro ⟨fields, hrequired, h⟩
        obtain ⟨acc, hacc, h⟩ := Run.returns_bind_iff.mp h
        obtain ⟨acc', hacc', -⟩ := Run.returns_bind_iff.mp h
        exact ⟨⟨fields, hrequired, requiredFailures_returns_iff.mp ⟨acc, hacc⟩⟩,
          Plan.addAll_returns_iff.mp ⟨acc', hacc'⟩⟩
      · rintro ⟨⟨fields, hrequired, hfields⟩, hplans⟩
        obtain ⟨acc, hacc⟩ := requiredFailures_returns_iff.mpr hfields
        obtain ⟨acc', hacc'⟩ := Plan.addAll_returns_iff.mpr hplans
        exact ⟨fields, hrequired, Run.returns_bind_iff.mpr ⟨acc, hacc,
          Run.returns_bind_iff.mpr ⟨acc', hacc', Run.returns_pure _⟩⟩⟩

theorem Demand.checks_returns_iff {ds : List Demand} {v : Value} {invert : Bool} :
    (Demand.checks ds v invert).Returns ↔ ∀ d ∈ ds, d.ReturnsOn v := by
  induction ds with
  | nil => simp [Demand.checks]
  | cons d rest ih =>
    rw [Demand.checks, Run.returns_bind_iff, List.forall_mem_cons, ← ih, ← Demand.check_returns_iff]
    constructor
    · rintro ⟨here, hhere, h⟩
      obtain ⟨more, hmore, -⟩ := Run.returns_bind_iff.mp h
      exact ⟨⟨here, hhere⟩, ⟨more, hmore⟩⟩
    · rintro ⟨⟨here, hhere⟩, ⟨more, hmore⟩⟩
      exact ⟨here, hhere, Run.returns_bind_iff.mpr ⟨more, hmore, Run.returns_pure _⟩⟩

theorem Rule.demands_returns_iff {ds : List Demand} {v : Value} {invert : Bool} :
    ((Rule.demands ds).check v invert).Returns ↔ (v.isObject = true → ∀ d ∈ ds, d.ReturnsOn v) := by
  rw [Rule.check, ← @Demand.checks_returns_iff ds v invert]
  cases v.isObject with
  | false => simp
  | true => simp [Run.returns_iff_yields]

end Rulebook
