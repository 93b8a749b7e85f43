import Rulebook.Proofs.Rule.Returning
import Rulebook.Proofs.Rule.Verdict
import Rulebook.Proofs.Value.Coercion

/-!
Kinds of values. A value is named by a kind, and it is tested for each of the kinds that a rule knows; the two agree.
Of the kinds that are known a value has the one that it is named by, and what is named an integer is a number as
well. Lists and objects are named by kinds that no rule knows, so a rule for the name of their kind refuses them.
-/

namespace Rulebook

/-- The name of a kind. -/
def Kind.name : Kind → String
  | .string => "string"
  | .number => "number"
  | .integer => "integer"
  | .boolean => "boolean"
  | .null => "null"

theorem Kind.ofName?_name (k : Kind) : Kind.ofName? k.name = some k := by
  cases k <;> rfl

theorem Kind.name_ne_empty (k : Kind) : k.name ≠ "" := by
  cases k <;> decide

namespace Value

variable {v : Value} {own : String}

/-- A value is named by a kind: a known one unless it is empty, a list or an object, and a value has just the known
kinds that its name allows. -/
structure NamedBy (v : Value) (own : String) : Prop where
  name : v.kindName = .ok own
  ne_empty : own ≠ ""
  known : v.isEmpty = false → v.isComposite = false → ∃ k : Kind, own = k.name
  unknown : v.isComposite = true → Kind.ofName? own = none
  isKind_iff : ∀ k, ∃ b, v.isKind k = .ok b ∧
    (b = true ↔ own = k.name ∨ own = Kind.integer.name ∧ k = .number)

/-- A usable number is an integer or any other number by the same test, whichever way it is asked. -/
theorem namedBy_number {n : Number} (h : n.Usable) :
    (Value.number n).NamedBy (if n.isIntegral then Kind.integer.name else Kind.number.name) := by
  have hdefinite : n.isDefinite = .ok true := h
  have hnumber : (Value.number n).number? = .ok (some n) := number?_of_usable h
  refine ⟨?_, ?_, fun _ _ => ?_, fun hcomposite => (by cases hcomposite), fun k => ?_⟩
  · show (do if ← n.isDefinite then return if n.isIntegral then _ else _
             return "float" : Except Fault String) = _
    rw [hdefinite]
    rfl
  · split <;> exact Kind.name_ne_empty _
  · split
    · exact ⟨.integer, rfl⟩
    · exact ⟨.number, rfl⟩
  · cases k with
    | string | boolean | null => exact ⟨false, rfl, by split <;> decide⟩
    | number =>
      refine ⟨true, ?_, by split <;> decide⟩
      rw [isKind, isNumber, hnumber]
      rfl
    | integer =>
      refine ⟨n.isIntegral, ?_, by cases n.isIntegral <;> decide⟩
      rw [isKind, hnumber]
      rfl

/-- A value of one known kind other than integers, which are numbers as well. -/
theorem NamedBy.of_known {k : Kind} (hk : k ≠ .integer) (name : v.kindName = .ok k.name)
    (hcomposite : v.isComposite = false) (tests : ∀ k', v.isKind k' = .ok (decide (k' = k))) :
    v.NamedBy k.name := by
  refine ⟨name, k.name_ne_empty, fun _ _ => ⟨k, rfl⟩, fun h => ?_, fun k' => ⟨_, tests k', ?_⟩⟩
  · rw [hcomposite] at h
    cases h
  · rw [decide_eq_true_iff]
    revert hk
    cases k <;> cases k' <;> decide

/-- A value of no known kind: it is empty, a list or an object. -/
theorem NamedBy.of_unknown (name : v.kindName = .ok own) (hown : own ≠ "") (hnone : Kind.ofName? own = none)
    (hv : v.isEmpty = true ∨ v.isComposite = true) (tests : ∀ k, v.isKind k = .ok false) : v.NamedBy own := by
  refine ⟨name, hown, fun hsome hscalar => ?_, fun _ => hnone, fun k => ⟨false, tests k, ?_⟩⟩
  · rcases hv with hv | hv
    · rw [hsome] at hv
      cases hv
    · rw [hscalar] at hv
      cases hv
  · have hother (k' : Kind) : own ≠ k'.name := by
      rintro rfl
      rw [Kind.ofName?_name] at hnone
      cases hnone
    simp [hother]

/-- A value is named by a kind unless it is a number that cannot be used as one. -/
theorem exists_namedBy (v : Value) (usable : ∀ n, v = .number n → n.Usable) : ∃ own, v.NamedBy own := by
  cases v with
  | list items => exact ⟨_, .of_unknown rfl (by decide) rfl (.inr rfl) fun k => by cases k <;> rfl⟩
  | object members => exact ⟨_, .of_unknown rfl (by decide) rfl (.inr rfl) fun k => by cases k <;> rfl⟩
  | scalar s =>
    cases s with
    | number n => exact ⟨_, namedBy_number (usable n rfl)⟩
    | missing => exact ⟨_, .of_unknown rfl (by decide) rfl (.inl rfl) fun k => by cases k <;> rfl⟩
    | null => exact ⟨_, .of_known (k := .null) (by decide) rfl rfl fun k => by cases k <;> rfl⟩
    | bool b => exact ⟨_, .of_known (k := .boolean) (by decide) rfl rfl fun k => by cases k <;> rfl⟩
    | text t => exact ⟨_, .of_known (k := .string) (by decide) rfl rfl fun k => by cases k <;> rfl⟩

end Value

/-- The rule of one kind decides a value that is not empty by whether it is of the kind of that name. -/
theorem Leaf.kind_verdict (declared : Value) (name : String) (v : Value) (invert : Bool) :
    (Rule.leaf (.kind declared [name])).verdict v invert =
      if v.isEmpty then .ok true else (v.isKindNamed name).map (differ · invert) := by
  have htest : ((Leaf.kind declared [name]).test v).result = v.isKindNamed name := by
    show anyKind v [name] = _
    rw [anyKind]
    rcases v.isKindNamed name with f | _ | _ <;> rfl
  rw [Leaf.verdict_eq, htest]
  rfl

namespace Keyword

theorem make_type_text (excluding : Bool) {name : String} (h : name ≠ "") :
    type.make excluding (.text name) = .ret (.leaf (.kind (.text name) [name])) := by
  have htruthy : (Value.text name).truthy = true := by simpa [Value.truthy] using h
  show makeType (.text name) = _
  rw [makeType, htruthy]
  rfl

/-- The rule for the name of a known kind accepts just the values that are of the kind, and the empty ones. -/
theorem verdict_known {v : Value} {own : String} (h : v.NamedBy own) (hv : v.isEmpty = false) (k : Kind) :
    ∃ b, (Rule.leaf (.kind (.text k.name) [k.name])).verdict v false = .ok b ∧
      (b = true ↔ own = k.name ∨ own = Kind.integer.name ∧ k = .number) := by
  obtain ⟨b, hb, hiff⟩ := h.isKind_iff k
  refine ⟨b, ?_, hiff⟩
  rw [Leaf.kind_verdict, hv, Value.isKindNamed, Kind.ofName?_name]
  show (v.isKind k).map (differ · false) = _
  rw [hb]
  exact congrArg Except.ok (differ_false b)

/-- The rule for the kind that a value is named by accepts the value unless it is a list or an object. -/
theorem verdict_own {v : Value} {own : String} (h : v.NamedBy own) :
    (Rule.leaf (.kind (.text own) [own])).verdict v false = .ok !v.isComposite := by
  cases hv : v.isEmpty with
  | true =>
    have hscalar : v.isComposite = false := by
      cases v with
      | scalar s => rfl
      | list _ | object _ => cases hv
    rw [Leaf.kind_verdict, hv, hscalar]
    rfl
  | false =>
    cases hcomposite : v.isComposite with
    | true =>
      rw [Leaf.kind_verdict, hv, Value.isKindNamed, h.unknown hcomposite]
      rfl
    | false =>
      obtain ⟨k, rfl⟩ := h.known hv hcomposite
      obtain ⟨b, hb, hiff⟩ := verdict_known h hv k
      obtain rfl : b = true := hiff.mpr (.inl rfl)
      exact hb

/-- The rule for the kind that a value is named by accepts every value but lists and objects, and of the known kinds
a value that is not empty is accepted by the one that it is named by, and an integer by that of numbers as well. -/
theorem type_accepts_own (v : Value) (usable : ∀ n, v = .number n → n.Usable) :
    ∃ own, v.kindName = .ok own ∧
      (∃ r, type.make false (.text own) = .ret r ∧ r.verdict v false = .ok !v.isComposite) ∧
      ∀ k : Kind, ∃ r, type.make false (.text k.name) = .ret r ∧ (v.isEmpty = false →
        ∃ b, r.verdict v false = .ok b ∧ (b = true ↔ own = k.name ∨ own = Kind.integer.name ∧ k = .number)) := by
  obtain ⟨own, h⟩ := v.exists_namedBy usable
  refine ⟨own, h.name, ⟨_, make_type_text false h.ne_empty, verdict_own h⟩, fun k => ?_⟩
  exact ⟨_, make_type_text false k.name_ne_empty, fun hv => verdict_known h hv k⟩

/-- The float two is named an integer, so the rule of integers accepts it and that of numbers too. -/
theorem type_accepts_own_two : ∃ own, (Value.float (.ofDyadic (.ofInt 2))).kindName = .ok own ∧
    ∃ r, type.make false (.text own) = .ret r ∧
      r.verdict (.float (.ofDyadic (.ofInt 2))) false = .ok true := by
  obtain ⟨own, hname, hown, -⟩ := type_accepts_own (.float (.ofDyadic (.ofInt 2))) fun n hn => by
    cases hn
    exact Number.usable_float_iff.mpr (by decide +kernel)
  exact ⟨own, hname, hown⟩

/-- A list is named by a kind, and the rule for that name refuses it. -/
theorem type_refuses_list :
    let v : Value := .list [.int 1]
    v.IsJson ∧ v.kindName = .ok "array" ∧
      ∃ r, type.make false (.text "array") = .ret r ∧ r.verdict v false = .ok false := by
  intro v
  have hone : (Value.int 1).IsJson := .scalar (by exact rfl)
  exact ⟨.list (List.forall_mem_singleton.mpr hone), rfl, _, make_type_text false (by decide), by decide⟩

end Keyword

end Rulebook
