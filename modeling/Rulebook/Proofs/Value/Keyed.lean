import Rulebook.Proofs.Value.Ordered

/-!
Keyed values. The objects of a document have texts as keys, each once. Texts are keys of their own, so
a lookup in such an object is membership.
-/

namespace Rulebook

/-- The keys are texts and stand once each. -/
structure KeyedByTexts {α : Type} (members : List (Scalar × α)) : Prop where
  texts : ∀ m ∈ members, ∃ name, m.1 = .text name
  nodup : (members.map (·.1)).Nodup

/-- A value made of allowed scalars, with texts as keys of its objects. -/
inductive Value.Over (allowed : Scalar → Prop) : Value → Prop
  | scalar {s : Scalar} (h : allowed s) : Over allowed (.scalar s)
  | list {items : List Value} (each : ∀ v ∈ items, Over allowed v) : Over allowed (.list items)
  | object {members : List (Scalar × Value)} (keyed : KeyedByTexts members)
      (each : ∀ m ∈ members, Over allowed m.2) : Over allowed (.object members)

/-- A value whose objects have texts as keys, each once. -/
abbrev Value.Keyed : Value → Prop := Value.Over fun _ => True

theorem Value.Over.of_object {allowed : Scalar → Prop} {members : List (Scalar × Value)}
    (h : (Value.object members).Over allowed) :
    KeyedByTexts members ∧ ∀ m ∈ members, m.2.Over allowed := by
  cases h with
  | object keyed each => exact ⟨keyed, each⟩

/-- Two values under two texts. -/
theorem Value.Keyed.pair {v w : Value} (hv : v.Keyed) (hw : w.Keyed) {k l : String} (h : k ≠ l) :
    Value.Keyed (.object [(.text k, v), (.text l, w)]) := by
  refine .object ⟨by simp, by simp [h]⟩ ?_
  simp [hv, hw]

theorem Scalar.beq_text (k : Scalar) (name : String) : (k == Scalar.text name) = true ↔ k = .text name := by
  show Scalar.sameKey k (.text name) = true ↔ _
  cases k <;> simp [Scalar.sameKey, Scalar.keyNumber?]

theorem Scalar.text_beq (name : String) (k : Scalar) : (Scalar.text name == k) = true ↔ .text name = k := by
  show Scalar.sameKey (.text name) k = true ↔ _
  cases k <;> simp [Scalar.sameKey, Scalar.keyNumber?]

/-- A lookup among texts as keys is a lookup among the texts. -/
theorem Ordered.get?_map_text {α : Type} (pairs : List (String × α)) (name : String) :
    get? (.text name) (pairs.map fun (k, a) => (Scalar.text k, a)) = get? name pairs := by
  induction pairs with
  | nil => rfl
  | cons p rest ih =>
    have hkey : (Scalar.text p.1 == .text name) = (p.1 == name) := by
      rw [Bool.eq_iff_iff, Scalar.beq_text, beq_iff_eq, Scalar.text.injEq]
    rw [List.map_cons, get?, get?, hkey, ih]

theorem Scalar.apart_text (name : String) : Ordered.Apart (Scalar.text name) :=
  ⟨fun k => beq_text k name, text_beq name⟩

/-- After an insertion a text is found with what was inserted, if it is the key, and else as before. -/
theorem Ordered.get?_insert_text {α : Type} (name : String) (k : Scalar) (a : α)
    (m : List (Scalar × α)) :
    get? (.text name) (insert k a m) = if k = .text name then some a else get? (.text name) m := by
  simp only [get?_insert (Scalar.apart_text name), Scalar.beq_text]

namespace KeyedByTexts

variable {α : Type} {members : List (Scalar × α)}

theorem told (h : KeyedByTexts members) : Ordered.Told members := by
  intro m hm k
  obtain ⟨name, hname⟩ := h.texts m hm
  rw [hname]
  exact Scalar.text_beq name k

theorem get?_eq_some_iff (h : KeyedByTexts members) {k : Scalar} {a : α} :
    Ordered.get? k members = some a ↔ (k, a) ∈ members :=
  Ordered.get?_eq_some_iff h.told h.nodup

theorem get?_eq_none_iff (h : KeyedByTexts members) {k : Scalar} :
    Ordered.get? k members = none ↔ k ∉ members.map (·.1) :=
  Ordered.get?_eq_none_iff h.told

/-- A key has one value. -/
theorem value_unique (h : KeyedByTexts members) {k : Scalar} {a b : α} (ha : (k, a) ∈ members)
    (hb : (k, b) ∈ members) : a = b := by
  rw [← h.get?_eq_some_iff] at ha hb
  exact Option.some.inj (ha.symm.trans hb)

/-- Only the keys matter, in any order. -/
theorem of_keys {members' : List (Scalar × α)} (h : KeyedByTexts members)
    (keys : (members.map (·.1)).Perm (members'.map (·.1))) : KeyedByTexts members' := by
  refine ⟨fun m hm => ?_, keys.nodup_iff.mp h.nodup⟩
  obtain ⟨m', hm', heq⟩ := List.mem_map.mp (keys.mem_iff.mpr (List.mem_map_of_mem hm))
  exact heq ▸ h.texts m' hm'

end KeyedByTexts

/-- The member of an object under a key is null or one of its members. -/
theorem Value.Over.member {allowed : Scalar → Prop} (null : allowed .null) {v : Value}
    (h : v.Over allowed) (key : Scalar) : (v.member key).Over allowed := by
  cases h with
  | scalar _ => exact .scalar null
  | list _ => exact .scalar null
  | @object members keyed each =>
    show ((Ordered.get? key members).getD .null).Over allowed
    cases hget : Ordered.get? key members with
    | none => exact .scalar null
    | some w => exact each _ (keyed.get?_eq_some_iff.mp hget)

end Rulebook
