import Rulebook.Value.Equality
import Rulebook.Proofs.Number.Place
import Rulebook.Proofs.Value.Keyed

/-!
Respellings. A value is respelled by writing its numbers in another way and by putting the members of
its objects in another order, anywhere inside it. Equal documents are respellings of each other, and
structural equality cannot tell a document from a respelling of it.
-/

namespace Rulebook

/-- Two spellings of one number; the indefinite number is a spelling of itself. -/
def Number.Alike (a b : Number) : Prop := a = b ∨ a.eq b = true

/-- Two documents that are one value but for the spelling of numbers and the order of members. -/
inductive Respelling : Value → Value → Prop
  | scalar (s : Scalar) : Respelling (.scalar s) (.scalar s)
  | number {a b : Number} (h : a.eq b = true) : Respelling (.number a) (.number b)
  | list {xs ys : List Value} (length : xs.length = ys.length)
      (each : ∀ (i : Nat) (x y : Value), xs[i]? = some x → ys[i]? = some y → Respelling x y) :
      Respelling (.list xs) (.list ys)
  | object {xs ys : List (Scalar × Value)} (keyed : KeyedByTexts xs)
      (keys : (xs.map (·.1)).Perm (ys.map (·.1)))
      (each : ∀ (k : Scalar) (x y : Value), (k, x) ∈ xs → (k, y) ∈ ys → Respelling x y) :
      Respelling (.object xs) (.object ys)

/-! ### Structural equality, part by part -/

namespace Value

theorem listsEqual_iff {xs ys : List Value} : listsEqual xs ys = true ↔
    xs.length = ys.length ∧
      ∀ (i : Nat) (x y : Value), xs[i]? = some x → ys[i]? = some y → x.equal y = true := by
  induction xs generalizing ys with
  | nil =>
    cases ys <;> simp [listsEqual]
  | cons x xs ih =>
    cases ys with
    | nil => simp [listsEqual]
    | cons y ys =>
      rw [listsEqual, Bool.and_eq_true, ih]
      constructor
      · rintro ⟨hxy, hlen, heach⟩
        refine ⟨by simp [hlen], ?_⟩
        rintro (_ | i) a b ha hb
        · cases ha
          cases hb
          exact hxy
        · exact heach i a b ha hb
      · rintro ⟨hlen, heach⟩
        exact ⟨heach 0 x y rfl rfl, by simpa using hlen, fun i a b => heach (i + 1) a b⟩

theorem membersEqual_iff {xs ys : List (Scalar × Value)} : membersEqual xs ys = true ↔
    ∀ m ∈ xs, ∃ w, Ordered.get? m.1 ys = some w ∧ m.2.equal w = true := by
  induction xs with
  | nil => simp [membersEqual]
  | cons m xs ih =>
    obtain ⟨k, v⟩ := m
    rw [membersEqual, Bool.and_eq_true, ih, List.forall_mem_cons]
    refine and_congr_left' ?_
    cases Ordered.get? k ys <;> simp

theorem equal_object_iff {xs ys : List (Scalar × Value)} :
    (Value.object xs).equal (.object ys) = true ↔
      xs.length = ys.length ∧ ∀ m ∈ xs, ∃ w, Ordered.get? m.1 ys = some w ∧ m.2.equal w = true := by
  rw [equal, Bool.and_eq_true, beq_iff_eq, membersEqual_iff]

theorem equal_list_iff {xs ys : List Value} : (Value.list xs).equal (.list ys) = true ↔
    xs.length = ys.length ∧
      ∀ (i : Nat) (x y : Value), xs[i]? = some x → ys[i]? = some y → x.equal y = true := by
  rw [equal, listsEqual_iff]

end Value

/-! ### Equal documents are respellings -/

theorem Scalar.respelling_of_equal {a b : Scalar} (h : a.equal b = true) :
    Respelling (.scalar a) (.scalar b) := by
  cases a <;> cases b <;> simp [Scalar.equal] at h
  case missing.missing => exact .scalar _
  case null.null => exact .scalar _
  case bool.bool => exact h ▸ .scalar _
  case number.number => exact .number h
  case text.text => exact h ▸ .scalar _

/-- Objects of equal size whose members are found in each other have the same keys. -/
theorem keys_perm_of_subset {xs ys : List (Scalar × Value)} (hx : KeyedByTexts xs)
    (hlen : xs.length = ys.length) (hsub : ∀ m ∈ xs, m.1 ∈ ys.map (·.1)) :
    (xs.map (·.1)).Perm (ys.map (·.1)) := by
  have hsubset : (xs.map (·.1)).Subperm (ys.map (·.1)) := by
    apply List.subperm_of_subset hx.nodup
    intro k hk
    obtain ⟨m, hm, rfl⟩ := List.mem_map.mp hk
    exact hsub m hm
  exact hsubset.perm_of_length_le (by simp [hlen])

theorem Respelling.of_equal {v w : Value} (hv : v.Keyed) (hw : w.Keyed) (h : v.equal w = true) :
    Respelling v w := by
  induction hv generalizing w with
  | scalar _ =>
    cases hw with
    | scalar _ => exact Scalar.respelling_of_equal (by simpa [Value.equal] using h)
    | list _ => simp [Value.equal] at h
    | object _ _ => simp [Value.equal] at h
  | @list xs _ ih =>
    cases hw with
    | scalar _ => simp [Value.equal] at h
    | @list ys each =>
      obtain ⟨hlen, heach⟩ := Value.equal_list_iff.mp h
      refine .list hlen fun i x y hx hy => ?_
      exact ih x (List.mem_of_getElem? hx) (each y (List.mem_of_getElem? hy)) (heach i x y hx hy)
    | object _ _ => simp [Value.equal] at h
  | @object xs keyed _ ih =>
    cases hw with
    | scalar _ => simp [Value.equal] at h
    | list _ => simp [Value.equal] at h
    | @object ys keyed' each =>
      obtain ⟨hlen, heach⟩ := Value.equal_object_iff.mp h
      have hfound : ∀ m ∈ xs, ∃ w, (m.1, w) ∈ ys ∧ m.2.equal w = true := by
        intro m hm
        obtain ⟨w, hget, heq⟩ := heach m hm
        exact ⟨w, keyed'.get?_eq_some_iff.mp hget, heq⟩
      refine .object keyed (keys_perm_of_subset keyed hlen ?_) fun k x y hx hy => ?_
      · intro m hm
        obtain ⟨w, hmem, -⟩ := hfound m hm
        exact List.mem_map.mpr ⟨_, hmem, rfl⟩
      · obtain ⟨w, hmem, heq⟩ := hfound (k, x) hx
        obtain rfl := keyed'.value_unique hy hmem
        exact ih (k, x) hx (each (k, y) hy) heq

/-! ### Structural equality cannot tell respellings apart -/

namespace Respelling

/-- A key of one spelling of an object is a key of the other. -/
theorem member_of_keys {xs ys : List (Scalar × Value)} (keys : (xs.map (·.1)).Perm (ys.map (·.1)))
    {k : Scalar} {x : Value} (h : (k, x) ∈ xs) : ∃ y, (k, y) ∈ ys := by
  have hk : k ∈ ys.map (·.1) := keys.mem_iff.mp (List.mem_map_of_mem h)
  obtain ⟨⟨k', y⟩, hy, rfl⟩ := List.mem_map.mp hk
  exact ⟨y, hy⟩

theorem length_of_keys {xs ys : List (Scalar × Value)}
    (keys : (xs.map (·.1)).Perm (ys.map (·.1))) : xs.length = ys.length := by
  simpa using keys.length_eq

/-- A place of one spelling of a list is a place of the other. -/
theorem item_of_length {xs ys : List Value} (length : xs.length = ys.length) {i : Nat} {x : Value}
    (h : xs[i]? = some x) : ∃ y, ys[i]? = some y := by
  obtain ⟨hi, -⟩ := List.getElem?_eq_some_iff.mp h
  exact ⟨_, List.getElem?_eq_getElem (length ▸ hi)⟩

theorem symm {v w : Value} (h : Respelling v w) : Respelling w v := by
  induction h with
  | scalar s => exact .scalar s
  | number h => exact .number (Number.eq_symm h)
  | list length _ ih => exact .list length.symm fun i x y hx hy => ih i y x hy hx
  | object keyed keys _ ih =>
    exact .object (keyed.of_keys keys) keys.symm fun k x y hx hy => ih k y x hy hx

/-- What equals a document on the right equals its respellings. -/
theorem equal_right {e v w : Value} (h : Respelling v w) (he : e.equal v = true) :
    e.equal w = true := by
  induction h generalizing e with
  | scalar s => exact he
  | @number a b hab =>
    cases e with
    | scalar s =>
      cases s with
      | number n => exact Number.eq_trans (by simpa [Value.equal, Scalar.equal] using he) hab
      | _ => simp [Value.equal, Scalar.equal] at he
    | _ => simp [Value.equal] at he
  | list length _ ih =>
    cases e with
    | list es =>
      obtain ⟨hlen, heach⟩ := Value.equal_list_iff.mp he
      refine Value.equal_list_iff.mpr ⟨hlen.trans length, fun i c y hc hy => ?_⟩
      obtain ⟨x, hx⟩ := item_of_length length.symm hy
      exact ih i x y hx hy (heach i c x hc hx)
    | _ => simp [Value.equal] at he
  | object keyed keys _ ih =>
    cases e with
    | object es =>
      obtain ⟨hlen, heach⟩ := Value.equal_object_iff.mp he
      refine Value.equal_object_iff.mpr ⟨hlen.trans (length_of_keys keys), fun m hm => ?_⟩
      obtain ⟨x, hget, heq⟩ := heach m hm
      have hx := keyed.get?_eq_some_iff.mp hget
      obtain ⟨y, hy⟩ := member_of_keys keys hx
      exact ⟨y, (keyed.of_keys keys).get?_eq_some_iff.mpr hy, ih _ x y hx hy heq⟩
    | _ => simp [Value.equal] at he

/-- What a document equals on the left its respellings equal. -/
theorem equal_left {v w z : Value} (h : Respelling v w) (hz : v.equal z = true) :
    w.equal z = true := by
  induction h generalizing z with
  | scalar s => exact hz
  | @number a b hab =>
    cases z with
    | scalar s =>
      cases s with
      | number n =>
        exact Number.eq_trans (Number.eq_symm hab) (by simpa [Value.equal, Scalar.equal] using hz)
      | _ => simp [Value.equal, Scalar.equal] at hz
    | _ => simp [Value.equal] at hz
  | list length _ ih =>
    cases z with
    | list zs =>
      obtain ⟨hlen, heach⟩ := Value.equal_list_iff.mp hz
      refine Value.equal_list_iff.mpr ⟨length.symm.trans hlen, fun i y c hy hc => ?_⟩
      obtain ⟨x, hx⟩ := item_of_length length.symm hy
      exact ih i x y hx hy (heach i x c hx hc)
    | _ => simp [Value.equal] at hz
  | object keyed keys _ ih =>
    cases z with
    | object zs =>
      obtain ⟨hlen, heach⟩ := Value.equal_object_iff.mp hz
      refine Value.equal_object_iff.mpr ⟨(length_of_keys keys).symm.trans hlen, fun m hm => ?_⟩
      obtain ⟨x, hx⟩ := member_of_keys keys.symm hm
      obtain ⟨c, hget, heq⟩ := heach _ hx
      exact ⟨c, hget, ih m.1 x m.2 hx hm heq⟩
    | _ => simp [Value.equal] at hz

theorem equal_congr_right {v w : Value} (e : Value) (h : Respelling v w) : e.equal v = e.equal w :=
  Bool.eq_iff_iff.mpr ⟨h.equal_right, h.symm.equal_right⟩

theorem equal_congr_left {v w : Value} (h : Respelling v w) (z : Value) : v.equal z = w.equal z :=
  Bool.eq_iff_iff.mpr ⟨h.equal_left, h.symm.equal_left⟩

theorem equal_congr {v w v' w' : Value} (h : Respelling v w) (h' : Respelling v' w') :
    v.equal v' = w.equal w' := by
  rw [h.equal_congr_left v', h'.equal_congr_right w]

/-- The members of two spellings of an object under one key are spellings of one value. -/
theorem member {v w : Value} (h : Respelling v w) (key : Scalar) :
    Respelling (v.member key) (w.member key) := by
  cases h with
  | scalar s => exact .scalar _
  | number h => exact .scalar _
  | list _ _ => exact .scalar _
  | @object xs ys keyed keys each =>
    show Respelling ((Ordered.get? key xs).getD .null) ((Ordered.get? key ys).getD .null)
    have keyed' := keyed.of_keys keys
    cases hx : Ordered.get? key xs with
    | none =>
      have hy : Ordered.get? key ys = none := by
        rw [keyed'.get?_eq_none_iff, ← keys.mem_iff, ← keyed.get?_eq_none_iff, hx]
      rw [hy]
      exact .scalar _
    | some x =>
      have hmem := keyed.get?_eq_some_iff.mp hx
      obtain ⟨y, hy⟩ := member_of_keys keys hmem
      rw [keyed'.get?_eq_some_iff.mpr hy]
      exact each key x y hmem hy

end Respelling

end Rulebook
