import Rulebook.Settings.Layer
import Rulebook.Proofs.Value.Keyed

/-!
Layers laid over one another. Where each text names one value at most, what shows under a name is what
the upper layer gives there, merged with what lies below if both are objects, or else what the lower
layer gives. The names that show are those of both layers. So a key of a section shows through a section
that leaves it out.
-/

namespace Rulebook

/-- What shows where one value lies over another; either can be missing. -/
def Value.shown : Option Value → Option Value → Option Value
  | lower, none => lower
  | none, some v => some v
  | some w, some v => some (w.overlay v)

/-- The text that a key is. -/
def Scalar.text? : Scalar → Option String
  | .text s => some s
  | _ => none

theorem Value.overlay_of_not_object {v : Value} (h : v.isObject = false) (w : Value) :
    w.overlay v = v := by
  cases v with
  | object members => cases h
  | scalar s => cases w <;> rfl
  | list items => cases w <;> rfl

/-- Over a value that is no object nothing shows. -/
theorem Value.shown_of_not_object {upper : Option Value} (h : ∀ v, upper = some v → v.isObject = false)
    (lower : Option Value) : shown lower upper = upper.or lower := by
  cases upper with
  | none => rfl
  | some v =>
    cases lower with
    | none => rfl
    | some w => exact congrArg some (overlay_of_not_object (h v rfl) w)

namespace Layer

/-- The names of a layer. -/
def names (layer : Layer) : List String := layer.filterMap fun (k, _) => k.text?

theorem names_cons (k : Scalar) (v : Value) (rest : Layer) :
    names ((k, v) :: rest) = k.text?.toList ++ names rest := by
  cases k <;> rfl

@[simp] theorem get?_nil (name : String) : get? [] name = none := rfl

theorem get?_cons (k : Scalar) (v : Value) (rest : Layer) (name : String) :
    get? ((k, v) :: rest) name = if k = .text name then some v else rest.get? name := by
  simp [get?, Ordered.get?, Scalar.beq_text]

theorem get?_insert (name : String) (k : Scalar) (v : Value) (layer : Layer) :
    get? (Ordered.insert k v layer) name = if k = .text name then some v else layer.get? name :=
  Ordered.get?_insert_text name k v layer

theorem get?_append (layer more : Layer) (name : String) :
    get? (layer ++ more) name = (layer.get? name).or (more.get? name) :=
  Ordered.get?_append _ layer more

theorem get?_eq_none_iff {layer : Layer} {name : String} :
    layer.get? name = none ↔ name ∉ layer.names := by
  induction layer with
  | nil => simp [names]
  | cons p rest ih =>
    obtain ⟨k, v⟩ := p
    rw [get?_cons, names_cons]
    by_cases hk : k = .text name
    · simp [hk, Scalar.text?]
    · have hother : name ∉ k.text?.toList := by cases k <;> simp_all [Scalar.text?, eq_comm]
      simp [hk, hother, ih]

/-- An insertion adds at most one name, at the end. -/
theorem names_insert (k : Scalar) (v : Value) (layer : Layer) :
    names (Ordered.insert k v layer) = names layer ∨
      ∃ name, k = .text name ∧ name ∉ names layer ∧
        names (Ordered.insert k v layer) = names layer ++ [name] := by
  induction layer with
  | nil => cases k <;> simp [Ordered.insert, names, Scalar.text?]
  | cons p rest ih =>
    obtain ⟨k', v'⟩ := p
    unfold Ordered.insert
    split
    · exact .inl rfl
    · next hput =>
      rw [names_cons, names_cons]
      rcases ih with ih | ⟨name, rfl, hfresh, ih⟩
      · exact .inl (by rw [ih])
      · refine .inr ⟨name, rfl, ?_, by rw [ih, List.append_assoc]⟩
        intro hmem
        rcases List.mem_append.mp hmem with h | h
        · cases k' <;> simp [Scalar.text?] at h
          subst h
          exact hput ((Scalar.beq_text _ _).mpr rfl)
        · exact hfresh h

theorem nodup_names_insert {layer : Layer} (nodup : layer.names.Nodup) (k : Scalar) (v : Value) :
    (names (Ordered.insert k v layer)).Nodup := by
  rcases names_insert k v layer with h | ⟨name, -, hfresh, h⟩
  · rwa [h]
  · rw [h]
    exact List.nodup_append.mpr ⟨nodup, List.nodup_singleton _, by
      rintro a ha b hb rfl
      exact hfresh (List.mem_singleton.mp hb ▸ ha)⟩

theorem nodup_names_union {layer : Layer} (nodup : layer.names.Nodup) (new : List (Scalar × Value)) :
    (names (Ordered.union layer new)).Nodup := by
  induction new generalizing layer with
  | nil => exact nodup
  | cons p rest ih => exact ih (nodup_names_insert nodup p.1 p.2)

/-- The layer of some pairs has each name once. -/
theorem nodup_names_ofList (pairs : List (Scalar × Value)) : (names (Ordered.ofList pairs)).Nodup :=
  @nodup_names_union [] List.nodup_nil pairs

/-- A value that is no object replaces what it is laid over. -/
theorem overlay_cons_of_not_object {v : Value} (h : v.isObject = false) (k : Scalar) (rest lower : Layer) :
    lower.overlay ((k, v) :: rest) = Layer.overlay (Ordered.insert k v lower) rest := by
  rw [Layer.overlay]
  cases Ordered.get? k lower with
  | none => rfl
  | some w =>
    exact congrArg (fun v => Layer.overlay (Ordered.insert k v lower) rest)
      (Value.overlay_of_not_object h w)

/-- What shows under a name where one layer lies over another. -/
theorem get?_overlay {upper : Layer} (nodup : upper.names.Nodup) (lower : Layer) (name : String) :
    (lower.overlay upper).get? name = Value.shown (lower.get? name) (upper.get? name) := by
  induction upper generalizing lower with
  | nil => cases h : lower.get? name <;> simp [Layer.overlay, Value.shown, h]
  | cons p rest ih =>
    obtain ⟨k, v⟩ := p
    rw [names_cons] at nodup
    rw [Layer.overlay, ih (List.nodup_append.mp nodup).2.1, get?_insert, get?_cons]
    by_cases hk : k = .text name
    · subst hk
      have hrest : Layer.get? rest name = none := by
        rw [get?_eq_none_iff]
        exact fun h => (List.nodup_append.mp nodup).2.2 name (by simp [Scalar.text?]) name h rfl
      rw [if_pos rfl, if_pos rfl, hrest]
      show some _ = Value.shown (lower.get? name) (some v)
      unfold Layer.get?
      cases Ordered.get? (.text name) lower <;> rfl
    · rw [if_neg hk, if_neg hk]

theorem all_insert {p : Scalar → Bool} (same : ∀ k k', (k == k') = true → p k = p k') (k : Scalar)
    (v : Value) (layer : Layer) : List.all (Ordered.insert k v layer) (fun (k, _) => p k) =
      (p k && layer.all fun (k, _) => p k) := by
  induction layer with
  | nil => simp [Ordered.insert]
  | cons q rest ih =>
    obtain ⟨k', v'⟩ := q
    unfold Ordered.insert
    split
    · next hput => cases h : p k <;> simp [same k' k hput, h]
    · simp only [List.all_cons, ih, ← Bool.and_assoc, Bool.and_comm]

/-- The keys of a layer that lies over another are those of both. -/
theorem all_overlay {p : Scalar → Bool} (same : ∀ k k', (k == k') = true → p k = p k')
    (lower upper : Layer) : List.all (lower.overlay upper) (fun (k, _) => p k) =
      (lower.all (fun (k, _) => p k) && upper.all fun (k, _) => p k) := by
  induction upper generalizing lower with
  | nil => simp [Layer.overlay]
  | cons q rest ih =>
    obtain ⟨k, v⟩ := q
    rw [Layer.overlay, ih, all_insert same, List.all_cons, Bool.and_comm (p k), Bool.and_assoc]

end Layer

end Rulebook
