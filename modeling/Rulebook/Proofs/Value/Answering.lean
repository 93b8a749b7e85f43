import Rulebook.Proofs.Value.Coercion

/-!
Which questions about values are answered. The only fault is an integer that no float is near, and it is
met only where a value is looked at as a number. `Question.numbers` says which values a question looks at
in this way; a question is answered exactly when none of them is such an integer.
-/

namespace Rulebook

/-- An integer that no float is near. -/
def Value.TooLarge (v : Value) : Prop := ∃ z, v = .int z ∧ Binary64.ofInt? z = none

/-- Stopped by an integer that is too large among some values, and by nothing else. -/
def StoppedBy {α : Type} (vs : List Value) (x : Except Fault α) : Prop :=
  ∀ f, x = .error f ↔ f = .integerTooLarge ∧ ∃ v ∈ vs, v.TooLarge

namespace StoppedBy

variable {α β : Type} {vs ws : List Value}

theorem nothing (a : α) : StoppedBy [] (.ok a : Except Fault α) := by
  intro f
  simp

/-- What is no number stops nothing. -/
theorem other {v : Value} (hv : ∀ n, v ≠ .number n) (a : α) : StoppedBy [v] (.ok a : Except Fault α) := by
  refine fun f => iff_of_false (fun h => by cases h) ?_
  rintro ⟨-, w, hw, z, rfl, -⟩
  exact hv _ (List.mem_singleton.mp hw).symm

theorem not_tooLarge {a : α} (h : StoppedBy vs (.ok a : Except Fault α)) : ∀ v ∈ vs, ¬ v.TooLarge := by
  intro v hv hlarge
  cases (h .integerTooLarge).mpr ⟨rfl, v, hv, hlarge⟩

/-- What no integer stops has an answer. -/
theorem exists_ok {x : Except Fault α} (h : StoppedBy vs x) (hvs : ∀ v ∈ vs, ¬ v.TooLarge) : ∃ a, x = .ok a := by
  cases x with
  | ok a => exact ⟨a, rfl⟩
  | error f =>
    obtain ⟨-, v, hv, hlarge⟩ := (h f).mp rfl
    exact absurd hlarge (hvs v hv)

/-- What is made of the result stops nothing. -/
theorem map {x : Except Fault α} (h : StoppedBy vs x) (g : α → β) :
    StoppedBy vs (x >>= fun a => pure (g a)) := by
  intro f
  rw [← h f]
  cases x with
  | error e => exact ⟨fun he => congrArg Except.error (Except.error.inj he), fun he => he ▸ rfl⟩
  | ok a => exact ⟨fun he => (by cases he), fun he => (by cases he)⟩

/-- Of two parts the first is stopped by its values, and then the second by its own. -/
theorem bind {x : Except Fault α} {g : α → Except Fault β} (hx : StoppedBy vs x)
    (hg : ∀ a, x = .ok a → StoppedBy ws (g a)) : StoppedBy (vs ++ ws) (x >>= g) := by
  intro f
  cases x with
  | error e =>
    obtain ⟨rfl, v, hv, hlarge⟩ := (hx e).mp rfl
    refine ⟨fun he => ⟨(Except.error.inj he).symm, v, List.mem_append_left _ hv, hlarge⟩, ?_⟩
    rintro ⟨rfl, -⟩
    rfl
  | ok a =>
    refine (hg a rfl f).trans (and_congr_right fun _ => ?_)
    constructor
    · rintro ⟨v, hv, hlarge⟩
      exact ⟨v, List.mem_append_right _ hv, hlarge⟩
    · rintro ⟨v, hv, hlarge⟩
      exact ⟨v, (List.mem_append.mp hv).resolve_left fun hvs => hx.not_tooLarge v hvs hlarge, hlarge⟩

/-- A second part that nothing stops adds no value. -/
theorem bind_nothing {x : Except Fault α} {g : α → Except Fault β} (hx : StoppedBy vs x)
    (hg : ∀ a, StoppedBy [] (g a)) : StoppedBy vs (x >>= g) := by
  rw [← List.append_nil vs]
  exact hx.bind fun a _ => hg a

end StoppedBy

/-! ### Values as numbers -/

theorem Number.isDefinite_stoppedBy (n : Number) : StoppedBy [.number n] n.isDefinite := by
  intro f
  simp only [List.mem_singleton, exists_eq_left]
  cases n with
  | float x => exact iff_of_false (fun h => by cases h) fun ⟨_, z, hz, _⟩ => by cases hz
  | int z =>
    rw [isDefinite]
    cases hz : Binary64.ofInt? z with
    | none =>
      constructor
      · rintro ⟨⟩
        exact ⟨rfl, z, rfl, hz⟩
      · rintro ⟨rfl, -⟩
        rfl
    | some x =>
      refine iff_of_false (by simp) ?_
      rintro ⟨-, w, hw, hlarge⟩
      cases hw
      rw [hz] at hlarge
      cases hlarge

namespace Value

theorem number?_stoppedBy (v : Value) : StoppedBy [v] v.number? := by
  unfold number?
  split
  · exact (Number.isDefinite_stoppedBy _).map _
  · next h => exact .other h _

/-- A text is read as a number of any size. -/
theorem toNumber?_stoppedBy (v : Value) : StoppedBy [v] v.toNumber? := by
  unfold toNumber?
  split
  · exact .other (fun _ h => by cases h) _
  · exact v.number?_stoppedBy

theorem toTruth?_stoppedBy (v : Value) : StoppedBy [v] v.toTruth? := by
  unfold toTruth?
  split
  · exact .other (fun _ h => by cases h) _
  · exact .other (fun _ h => by cases h) _
  · refine v.number?_stoppedBy.bind_nothing fun n? => ?_
    cases n? <;> exact .nothing _

theorem isKind_stoppedBy (v : Value) (k : Kind) :
    StoppedBy (if k = .number ∨ k = .integer then [v] else []) (v.isKind k) := by
  cases k with
  | number | integer => exact v.number?_stoppedBy.map _
  | string | boolean | null => exact .nothing _

theorem coerce_stoppedBy (v : Value) (k : Kind) :
    StoppedBy (if k = .null then [] else [v]) (v.coerce k) := by
  cases k with
  | number | integer => exact v.toNumber?_stoppedBy.map _
  | boolean => exact v.toTruth?_stoppedBy.map _
  | null => exact .nothing _
  | string =>
    show StoppedBy [v] (v.coerce .string)
    unfold coerce
    dsimp only
    split
    · exact .other (fun _ h => by cases h) _
    · exact .other (fun _ h => by cases h) _
    · exact v.number?_stoppedBy.map _

theorem kindName_stoppedBy (v : Value) : StoppedBy [v] v.kindName := by
  unfold kindName
  split
  case h_7 n =>
    refine (Number.isDefinite_stoppedBy n).bind_nothing fun definite => ?_
    cases definite <;> exact .nothing _
  all_goals exact .other (fun _ h => by cases h) _

/-! ### Loose equality -/

/-- A definite number or a truth value, for which a text can stand. -/
def isSpellable : Value → Bool
  | .number n => !n.isNaN
  | .bool _ => true
  | _ => false

/-- The values that loose equality looks at as numbers, once the two are not equal. -/
def looseNumbers (expected actual : Value) : List Value :=
  if expected.equal actual then []
  else expected :: if expected.isSpellable then [actual] else []

theorem isNaN_of_number?_none {n : Number} (h : (Value.number n).number? = .ok none) : n.isNaN = true := by
  obtain ⟨definite, hdefinite, h⟩ := Except.bind_ok_iff.mp (show (n.isDefinite >>= _) = _ from h)
  cases definite with
  | true => cases h
  | false => simpa using (Number.isDefinite_ok hdefinite).symm

theorem isSpellable_of_number?_none {v : Value} (hnumber : v.number? = .ok none)
    (htruth : ∀ b, v ≠ .bool b) : v.isSpellable = false := by
  unfold isSpellable
  split
  · rw [isNaN_of_number?_none hnumber]
    rfl
  · next b => exact absurd rfl (htruth b)
  · rfl

theorem looselyEqual_stoppedBy (expected actual : Value) :
    StoppedBy (looseNumbers expected actual) (expected.looselyEqual actual) := by
  unfold looselyEqual looseNumbers
  split
  · exact .nothing _
  refine (expected.number?_stoppedBy.bind fun n? hn => ?_ : StoppedBy ([expected] ++ _) _)
  cases n? with
  | some n =>
    obtain ⟨rfl, husable⟩ := number?_eq_some_iff.mp hn
    rw [isSpellable, husable.isNaN]
    exact actual.toNumber?_stoppedBy.map _
  | none =>
    dsimp only
    split
    · exact actual.toTruth?_stoppedBy.map _
    · exact .nothing _
    · next htruth _ =>
      rw [isSpellable_of_number?_none hn htruth]
      exact .nothing _

end Value

/-! ### Questions -/

/-- A question about one or two values. Kinds are named by any text. -/
inductive Question where
  | isEmpty (v : Value)
  | hasValue (v : Value)
  | isList (v : Value)
  | isObject (v : Value)
  /-- Is the value a number? -/
  | isNumber (v : Value)
  /-- Is the value a number, or does it spell one? -/
  | isNumeric (v : Value)
  | isKind (v : Value) (name : String)
  | coerce (v : Value) (name : String)
  | equal (v w : Value)
  | looselyEqual (expected actual : Value)
  | kindName (v : Value)

namespace Question

/-- The answer as a value; null where a value has no counterpart of a kind, and for kinds that are none. -/
def answer : Question → Except Fault Value
  | isEmpty v => .ok (.bool v.isEmpty)
  | hasValue v => .ok (.bool v.hasValue)
  | isList v => .ok (.bool v.isList)
  | isObject v => .ok (.bool v.isObject)
  | isNumber v => return .bool (← v.isNumber)
  | isNumeric v => return .bool (← v.isNumeric)
  | isKind v name => return .bool (← v.isKindNamed name)
  | coerce v name =>
    match Kind.ofName? name with
    | some k => return (← v.coerce k).getD .null
    | none => .ok .null
  | equal v w => .ok (.bool (v.equal w))
  | looselyEqual expected actual => return .bool (← expected.looselyEqual actual)
  | kindName v => return .text (← v.kindName)

/-- The values that a question looks at as numbers. -/
def numbers : Question → List Value
  | isEmpty _ | hasValue _ | isList _ | isObject _ | equal _ _ => []
  | isNumber v | isNumeric v | kindName v => [v]
  | isKind v name => if name ∈ ["number", "integer"] then [v] else []
  | coerce v name => if name ∈ ["number", "integer", "boolean", "string"] then [v] else []
  | looselyEqual expected actual => Value.looseNumbers expected actual

theorem isKindNamed_stoppedBy (v : Value) (name : String) :
    StoppedBy (if name ∈ ["number", "integer"] then [v] else []) (v.isKindNamed name) := by
  unfold Value.isKindNamed
  cases hname : Kind.ofName? name with
  | none =>
    rw [if_neg]
    · exact .nothing _
    · intro h
      fin_cases h <;> cases hname
  | some k =>
    have hkind : name ∈ ["number", "integer"] ↔ k = .number ∨ k = .integer := by
      unfold Kind.ofName? at hname
      split at hname <;> cases hname <;> decide
    rw [if_congr hkind rfl rfl]
    exact v.isKind_stoppedBy k

theorem coerce_stoppedBy (v : Value) (name : String) :
    StoppedBy (if name ∈ ["number", "integer", "boolean", "string"] then [v] else [])
      (coerce v name).answer := by
  rw [answer]
  cases hname : Kind.ofName? name with
  | none =>
    rw [if_neg]
    · exact .nothing _
    · intro h
      fin_cases h <;> cases hname
  | some k =>
    have hkind : name ∈ ["number", "integer", "boolean", "string"] ↔ k ≠ .null := by
      unfold Kind.ofName? at hname
      split at hname <;> cases hname <;> decide
    rw [if_congr hkind rfl rfl, ite_not]
    exact (v.coerce_stoppedBy k).map _

/-- A question is answered exactly when no value that it looks at as a number is an integer too large for a
float; such an integer is the only fault. -/
theorem answer_stops_iff (q : Question) (f : Fault) :
    q.answer = .error f ↔ f = .integerTooLarge ∧ ∃ v ∈ q.numbers, v.TooLarge := by
  revert f
  show StoppedBy q.numbers q.answer
  cases q with
  | isEmpty v => exact .nothing _
  | hasValue v => exact .nothing _
  | isList v => exact .nothing _
  | isObject v => exact .nothing _
  | equal v w => exact .nothing _
  | isNumber v => exact (v.number?_stoppedBy.map _).map _
  | isNumeric v => exact (v.toNumber?_stoppedBy.map _).map _
  | kindName v => exact v.kindName_stoppedBy.map _
  | looselyEqual expected actual => exact (Value.looselyEqual_stoppedBy expected actual).map _
  | isKind v name => exact (isKindNamed_stoppedBy v name).map _
  | coerce v name => exact coerce_stoppedBy v name

/-- Two to the power of 1024 stops the questions for its kind, for its text and whether it equals five. -/
theorem answer_stops_at_large :
    (isNumber (.int (2 ^ 1024))).answer = .error .integerTooLarge ∧
    (kindName (.int (2 ^ 1024))).answer = .error .integerTooLarge ∧
    (coerce (.int (2 ^ 1024)) "string").answer = .error .integerTooLarge ∧
    (looselyEqual (.int 5) (.int (2 ^ 1024))).answer = .error .integerTooLarge := by
  have hlarge : (Value.int (2 ^ 1024)).TooLarge := ⟨_, rfl, by decide +kernel⟩
  have hapart : (Value.int 5).equal (.int (2 ^ 1024)) = false := by decide +kernel
  refine ⟨?_, ?_, ?_, ?_⟩
  · exact (((Value.number?_stoppedBy _).map _).map _ _).mpr ⟨rfl, _, List.mem_singleton_self _, hlarge⟩
  · exact ((Value.kindName_stoppedBy _).map _ _).mpr ⟨rfl, _, List.mem_singleton_self _, hlarge⟩
  · exact (coerce_stoppedBy _ "string" _).mpr ⟨rfl, _, List.mem_singleton_self _, hlarge⟩
  · refine ((Value.looselyEqual_stoppedBy _ _).map _ _).mpr ⟨rfl, _, ?_, hlarge⟩
    rw [Value.looseNumbers, hapart]
    exact List.mem_cons_of_mem _ (List.mem_singleton_self _)

end Question

end Rulebook
