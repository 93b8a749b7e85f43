import Rulebook.Proofs.Value.Respelling

/-!
Structural equality as a relation. Two documents are equal when they are respellings of each other and
no indefinite number stands in them. So equality is symmetric and transitive, whatever stands in the
documents, and a document equals itself unless an indefinite number stands in it at some depth.
-/

namespace Rulebook

/-- The indefinite number as a scalar. -/
abbrev Scalar.nan : Scalar := .number (.float .nan)

/-- A scalar stands in a value, at any depth. -/
inductive Value.Contains (s : Scalar) : Value → Prop
  | here : Contains s (.scalar s)
  | item {items : List Value} {v : Value} (mem : v ∈ items) (h : Contains s v) :
      Contains s (.list items)
  | member {members : List (Scalar × Value)} {m : Scalar × Value} (mem : m ∈ members)
      (h : Contains s m.2) : Contains s (.object members)

namespace Value

@[simp] theorem contains_scalar_iff {s t : Scalar} : (Value.scalar t).Contains s ↔ s = t := by
  constructor
  · rintro ⟨⟩
    rfl
  · rintro rfl
    exact .here

@[simp] theorem contains_list_iff {s : Scalar} {items : List Value} :
    (Value.list items).Contains s ↔ ∃ v ∈ items, v.Contains s := by
  constructor
  · rintro (_ | ⟨mem, h⟩)
    exact ⟨_, mem, h⟩
  · rintro ⟨v, mem, h⟩
    exact .item mem h

@[simp] theorem contains_object_iff {s : Scalar} {members : List (Scalar × Value)} :
    (Value.object members).Contains s ↔ ∃ m ∈ members, m.2.Contains s := by
  constructor
  · rintro (_ | _ | ⟨mem, h⟩)
    exact ⟨_, mem, h⟩
  · rintro ⟨m, mem, h⟩
    exact .member mem h

end Value

/-! ### Numbers by exact value -/

theorem Number.eq_self_iff {a : Number} : a.eq a = true ↔ a ≠ .float .nan := by
  rcases a with n | (_ | _ | _ | _) <;> simp [Number.eq_iff, Number.extended?]

/-- An integer equals a float when the float has a value, and that is the integer. -/
theorem Number.int_eq_float_iff {n : Int} {x : Binary64} :
    (Number.int n).eq (.float x) = true ↔ ∃ q, x.value? = some q ∧ q.toRat = n := by
  have hvalue : ∀ q : Dyadic, q = .ofInt n ↔ q.toRat = n := by
    intro q
    rw [← Dyadic.toRat_inj, Dyadic.toRat_ofInt]
  have hplace : (Number.int n).extended? = some (.dyadic (.ofInt n)) := rfl
  rw [Number.eq_iff, hplace]
  rcases x with ⟨q, hq⟩ | _ | (_ | _) | _ <;> simp [Number.extended?, Binary64.value?, hvalue]

theorem Scalar.equal_self_iff {s : Scalar} : s.equal s = true ↔ s ≠ .nan := by
  cases s with
  | number n => simpa [Scalar.equal] using Number.eq_self_iff
  | _ => simp [Scalar.equal]

/-! ### Documents that equal themselves -/

namespace Value

theorem list_equal_self_iff {items : List Value} :
    (Value.list items).equal (.list items) = true ↔ ∀ v ∈ items, v.equal v = true := by
  rw [equal_list_iff]
  constructor
  · rintro ⟨-, each⟩ v hv
    obtain ⟨i, hi⟩ := List.mem_iff_getElem?.mp hv
    exact each i v v hi hi
  · intro each
    refine ⟨rfl, fun i x y hx hy => ?_⟩
    obtain rfl : x = y := Option.some.inj (hx.symm.trans hy)
    exact each x (List.mem_of_getElem? hx)

theorem object_equal_self_iff {members : List (Scalar × Value)} (keyed : KeyedByTexts members) :
    (Value.object members).equal (.object members) = true ↔ ∀ m ∈ members, m.2.equal m.2 = true := by
  rw [equal_object_iff, and_iff_right rfl]
  refine forall₂_congr fun m hm => ?_
  have hget : Ordered.get? m.1 members = some m.2 := keyed.get?_eq_some_iff.mpr hm
  simp [hget]

/-- A document equals itself unless an indefinite number stands in it. -/
theorem equal_self_iff {v : Value} (hv : v.Keyed) : v.equal v = true ↔ ¬ v.Contains .nan := by
  induction hv with
  | scalar _ => rw [equal, Scalar.equal_self_iff, contains_scalar_iff, ne_comm]
  | list _ ih =>
    rw [list_equal_self_iff, contains_list_iff]
    push Not
    exact forall₂_congr ih
  | object keyed _ ih =>
    rw [object_equal_self_iff keyed, contains_object_iff]
    push Not
    exact forall₂_congr ih

end Value

/-! ### Documents as respellings of themselves -/

theorem Respelling.refl {v : Value} (hv : v.Keyed) : Respelling v v := by
  induction hv with
  | scalar _ => exact .scalar _
  | list _ ih =>
    refine .list rfl fun i x y hx hy => ?_
    obtain rfl : x = y := Option.some.inj (hx.symm.trans hy)
    exact ih x (List.mem_of_getElem? hx)
  | object keyed _ ih =>
    refine .object keyed (.refl _) fun k x y hx hy => ?_
    obtain rfl := keyed.value_unique hx hy
    exact ih (k, x) hx

/-- An object with its members in another order is a respelling of it. -/
theorem Respelling.of_perm {members members' : List (Scalar × Value)}
    (h : (Value.object members).Keyed) (perm : members.Perm members') :
    Respelling (.object members) (.object members') := by
  obtain ⟨keyed, each⟩ := h.of_object
  refine .object keyed (perm.map _) fun k x y hx hy => ?_
  obtain rfl := keyed.value_unique hx (perm.mem_iff.mpr hy)
  exact .refl (each (k, x) hx)

/-! ### A partial equivalence -/

namespace Value

variable {u v w : Value}

theorem equal_trans (hu : u.Keyed) (hv : v.Keyed) (huv : u.equal v = true) (hvw : v.equal w = true) :
    u.equal w = true :=
  (Respelling.of_equal hu hv huv).symm.equal_left hvw

theorem equal_symm (hv : v.Keyed) (hw : w.Keyed) (h : v.equal w = true) : w.equal v = true := by
  have hvw := Respelling.of_equal hv hw h
  have hself : w.equal w = true := hvw.equal_left h
  exact hvw.symm.equal_right hself

/-- What equals something equals itself. -/
theorem equal_self_of_equal (hv : v.Keyed) (hw : w.Keyed) (h : v.equal w = true) :
    v.equal v = true :=
  equal_trans hv hw h (equal_symm hv hw h)

theorem equal_comm (hv : v.Keyed) (hw : w.Keyed) : v.equal w = w.equal v :=
  Bool.eq_iff_iff.mpr ⟨equal_symm hv hw, equal_symm hw hv⟩

/-- What equals another value equals the same values as it. -/
theorem equal_congr_left (hu : u.Keyed) (hv : v.Keyed) (h : u.equal v = true) (w : Value) :
    u.equal w = v.equal w :=
  (Respelling.of_equal hu hv h).equal_congr_left w

/-- Equal documents are one structure, and all that stands in them is definite. -/
theorem equal_iff_respelling (hv : v.Keyed) (hw : w.Keyed) :
    v.equal w = true ↔ Respelling v w ∧ ¬ v.Contains .nan := by
  rw [← equal_self_iff hv]
  constructor
  · intro h
    exact ⟨.of_equal hv hw h, equal_self_of_equal hv hw h⟩
  · rintro ⟨hvw, hself⟩
    exact hvw.equal_right hself

/-- Structural equality is symmetric and transitive, and reflexive where no indefinite number stands. It
compares structure: it holds between definite respellings and cannot tell respellings apart, least of
all objects with their members in another order. A truth value is no number, and an integer equals a
float of exactly its value. -/
theorem equal_structural :
    (∀ v w : Value, v.Keyed → w.Keyed → v.equal w = w.equal v) ∧
    (∀ u v w : Value, u.Keyed → v.Keyed → w.Keyed → u.equal v = true → v.equal w = true →
      u.equal w = true) ∧
    (∀ v : Value, v.Keyed → (v.equal v = true ↔ ¬ v.Contains .nan)) ∧
    (∀ v w : Value, v.Keyed → w.Keyed →
      (v.equal w = true ↔ Respelling v w ∧ ¬ v.Contains .nan)) ∧
    (∀ v v' w w' : Value, Respelling v v' → Respelling w w' → v.equal w = v'.equal w') ∧
    (∀ (members members' : List (Scalar × Value)) (w : Value), (Value.object members).Keyed →
      members.Perm members' →
        (Value.object members).equal w = (Value.object members').equal w ∧
        w.equal (.object members) = w.equal (.object members')) ∧
    (∀ (b : Bool) (n : Number),
      (Value.bool b).equal (.number n) = false ∧ (Value.number n).equal (.bool b) = false) ∧
    (∀ (n : Int) (x : Binary64),
      (Value.int n).equal (.float x) = true ↔ ∃ q, x.value? = some q ∧ q.toRat = n) := by
  refine ⟨fun v w => equal_comm, fun u v w hu hv _ => equal_trans hu hv, fun v => equal_self_iff,
    fun v w => equal_iff_respelling, fun v v' w w' h h' => h.equal_congr h', ?_, ?_, ?_⟩
  · intro members members' w h perm
    have hrespelling := Respelling.of_perm h perm
    exact ⟨hrespelling.equal_congr_left w, hrespelling.equal_congr_right w⟩
  · intro b n
    exact ⟨rfl, rfl⟩
  · intro n x
    rw [equal, Scalar.equal, Number.int_eq_float_iff]

/-- An object, the same object with its members in another order and its numbers written in another
way, and a list of the first with an indefinite number after it. -/
theorem equal_structural_record :
    let members : List (Scalar × Value) :=
      [(.text "b", .list [.int 1, .float .negativeZero]), (.text "a", .bool true)]
    let v := Value.object members
    let w := Value.object
      [(.text "a", .bool true), (.text "b", .list [.float (.ofDyadic (.ofInt 1)), .int 0])]
    let u := Value.list [v, .float .nan]
    (v.Keyed ∧ w.Keyed ∧ u.Keyed) ∧ v.equal w = w.equal v ∧
    (v.equal w = true ∧ w.equal v = true ∧ v.equal v = true) ∧
    (u.equal u = false ∧ u.Contains .nan) ∧ (Respelling v w ∧ ¬ v.Contains .nan) ∧
    v.equal w = w.equal w ∧
    v.equal w = (Value.object members.reverse).equal w := by
  intro members v w u
  have hv : v.Keyed := by
    refine .pair (.list ?_) (.scalar trivial) (by decide)
    simp [Value.Over.scalar]
  have hw : w.Keyed := by
    refine .pair (.scalar trivial) (.list ?_) (by decide)
    simp [Value.Over.scalar]
  have hu : u.Keyed := by
    refine .list ?_
    simp [hv, Value.Over.scalar]
  obtain ⟨comm, trans, self, compares, respelled, reordered, -, -⟩ := equal_structural
  have hvw : v.equal w = true := by decide
  have hwv : w.equal v = true := by decide
  have hrespelling := (compares v w hv hw).mp hvw
  have hnan : u.Contains .nan := .item (List.mem_cons_of_mem _ (List.mem_singleton_self _)) .here
  have hself : u.equal u = false := by simpa [hnan] using self u hu
  exact ⟨⟨hv, hw, hu⟩, comm v w hv hw, ⟨hvw, hwv, trans v w v hv hw hv hvw hwv⟩, ⟨hself, hnan⟩,
    hrespelling, respelled v w w w hrespelling.1 (.refl hw),
    (reordered members members.reverse w hv (List.reverse_perm members).symm).1⟩

end Value

end Rulebook
