import Rulebook.Files.Tree
import Rulebook.Proofs.Settings.Layering

/-!
Variables that give settings. A variable is known by its name in small letters. One that has the name of a key
of a section gives the key its text; one whose name goes on below the key gives it an object, unless it has a
text already; any other leaves it as it is.
-/

namespace Rulebook

/-- The text of a variable, whatever the case of its letters; of several spellings the last goes. -/
def Surroundings.textOf? (w : Surroundings) (name : String) : Option String :=
  ((w.environment.filter (lowerText ·.1 == name)).getLast?).map (·.2)

namespace Environment

/-- The variable of a section, or of a flag. -/
def topName (name : String) : String := lead ++ name

/-- The variable of a key of a section. -/
def keyName (part key : String) : String := lead ++ part ++ "__" ++ key

theorem get?_smallNamed (w : Surroundings) (name : String) :
    Ordered.get? name (smallNamed w.environment) = w.textOf? name := by
  unfold smallNamed Surroundings.textOf?
  rw [Ordered.get?_ofList (Ordered.apart_of_lawful name), List.filter_map, List.getLast?_map, Option.map_map]
  rfl

theorem lookup_eq_get? (name : String) (given : List (String × String)) :
    given.lookup name = Ordered.get? name given := by
  induction given with
  | nil => rfl
  | cons p rest ih =>
    rw [List.lookup_cons, Ordered.get?, ih, Bool.beq_comm (a := name)]
    cases p.1 == name <;> rfl

theorem lookup_smallNamed (w : Surroundings) (name : String) :
    (smallNamed w.environment).lookup name = w.textOf? name := by
  rw [lookup_eq_get?, get?_smallNamed]

theorem nodup_smallNamed (given : List (String × String)) : ((smallNamed given).map (·.1)).Nodup :=
  Ordered.nodup_keys_union (m := []) List.nodup_nil _

theorem mem_smallNamed {given : List (String × String)} {name : String}
    (h : name ∈ (smallNamed given).map (·.1)) : ∃ v ∈ given, lowerText v.1 = name := by
  rcases Ordered.mem_keys_union.mp h with h | h
  · cases h
  · simpa using h

theorem after?_eq_some_iff {start s rest : String} : after? start s = some rest ↔ s = start ++ rest := by
  unfold after?
  rw [← String.toList_inj, String.toList_append]
  constructor
  · intro h
    split at h
    · next hp =>
      obtain ⟨more, hmore⟩ := List.isPrefixOf_iff_prefix.mp hp
      cases h
      rw [← hmore, String.toList_ofList, ← String.length_toList, List.drop_left]
    · cases h
  · intro h
    rw [h, if_pos (List.isPrefixOf_iff_prefix.mpr ⟨_, rfl⟩), ← String.length_toList, List.drop_left,
      String.ofList_toList]

/-- The first part is what stands before a pair of underscores, or all of the text. -/
theorem partsAfter_cases (before cs : List Char) : ∃ part more, partsAfter before cs = part :: more ∧
    (more = [] ∧ part.toList = before.reverse ++ cs ∨
      more ≠ [] ∧ ∃ rest, before.reverse ++ cs = part.toList ++ '_' :: '_' :: rest) := by
  fun_induction partsAfter before cs with
  | case1 before => exact ⟨_, _, rfl, .inl ⟨rfl, by simp⟩⟩
  | case2 before rest ih =>
    obtain ⟨part, more, hparts, -⟩ := ih
    exact ⟨_, _, rfl, .inr ⟨by simp [hparts], rest, by simp⟩⟩
  | case3 before c rest hc ih => simpa using ih

theorem keyParts_cases (s : String) : ∃ part more, keyParts s = part :: more ∧
    (more = [] ∧ part = s ∨ more ≠ [] ∧ (part ++ "__").toList <+: s.toList) := by
  obtain ⟨part, more, hparts, ⟨hmore, hpart⟩ | ⟨hmore, rest, hs⟩⟩ := partsAfter_cases [] s.toList
  · exact ⟨part, more, hparts, .inl ⟨hmore, String.toList_inj.mp hpart⟩⟩
  · refine ⟨part, more, hparts, .inr ⟨hmore, rest, ?_⟩⟩
    rw [String.toList_append, List.append_assoc]
    exact hs.symm

end Environment

/-! ## Keys of a section -/

namespace Layer

variable {key s : String} {layer : Layer}

/-- Nothing is assigned but to the first of the names. -/
theorem get?_assign_of_ne {part : String} (hne : part ≠ key) (more : List String) :
    (layer.assign s (part :: more)).get? key = layer.get? key := by
  have hkey : Scalar.text part ≠ .text key := fun h => hne (Scalar.text.inj h)
  cases more with
  | nil => rw [assign, get?_insert, if_neg hkey]
  | cons q more =>
    unfold assign
    split
    · rw [get?_insert, if_neg hkey]
    · rw [get?_insert, if_neg hkey]
    · rfl

theorem get?_assign_self : (layer.assign s [key]).get? key = some (.text s) := by
  rw [assign, get?_insert, if_pos rfl]

/-- A text under a name is not replaced by what leads below it. -/
theorem get?_assign_below {text : String} (h : layer.get? key = some (.text text)) {more : List String}
    (below : more ≠ []) (part : String) : (layer.assign s (part :: more)).get? key = some (.text text) := by
  by_cases hpart : part = key
  · subst hpart
    obtain ⟨q, more, rfl⟩ := List.exists_cons_of_ne_nil below
    unfold assign
    rw [h]
    exact h
  · rw [get?_assign_of_ne hpart, h]

theorem nodup_names_assign (nodup : layer.names.Nodup) (names : List String) :
    (layer.assign s names).names.Nodup := by
  unfold assign
  split
  · exact nodup
  · exact nodup_names_insert nodup _ _
  · split
    · exact nodup_names_insert nodup _ _
    · exact nodup_names_insert nodup _ _
    · exact nodup

/-- What is assigned adds no key but the first of the names. -/
theorem key_of_mem_assign {part : String} {more : List String} {m : Scalar × Value}
    (h : m ∈ layer.assign s (part :: more)) : m.1 = .text part ∨ ∃ m' ∈ layer, m'.1 = m.1 := by
  cases more with
  | nil => exact Ordered.key_of_mem_insert h
  | cons q more =>
    unfold assign at h
    split at h
    · exact Ordered.key_of_mem_insert h
    · exact Ordered.key_of_mem_insert h
    · exact .inr ⟨m, h, rfl⟩

end Layer

namespace Environment

variable {part key : String}

/-- What a variable does to a section: nothing, or an assignment to the key that it names or leads below. -/
theorem addKey_cases (part : String) (layer : Layer) (v : String × String) : addKey part layer v = layer ∨
    ∃ name more, addKey part layer v = layer.assign v.2 (name :: more) ∧
      (more = [] ∧ v.1 = keyName part name ∨
        more ≠ [] ∧ (keyName part name ++ "__").toList <+: v.1.toList) := by
  unfold addKey
  split
  · next rest hafter =>
    have hv := after?_eq_some_iff.mp hafter
    obtain ⟨name, more, hparts, ⟨hmore, rfl⟩ | ⟨hmore, hbelow⟩⟩ := keyParts_cases rest
    · exact .inr ⟨name, more, by rw [hparts], .inl ⟨hmore, hv⟩⟩
    · refine .inr ⟨name, more, by rw [hparts], .inr ⟨hmore, ?_⟩⟩
      have hkey : keyName part name ++ "__" = lead ++ part ++ "__" ++ (name ++ "__") := String.append_assoc ..
      rw [hv, hkey, String.toList_append, String.toList_append (s := lead ++ part ++ "__")]
      exact (List.prefix_append_right_inj _).mpr hbelow
  · exact .inl rfl

theorem get?_addKey_self (single : keyParts key = [key]) (layer : Layer) (s : String) :
    (addKey part layer (keyName part key, s)).get? key = some (.text s) := by
  have hafter : after? (lead ++ part ++ "__") (keyName part key) = some key := after?_eq_some_iff.mpr rfl
  simp only [addKey, hafter, single]
  exact Layer.get?_assign_self

variable {layer : Layer} {v : String × String}

/-- A variable that neither is the one of a key nor leads below it leaves the key as it is. -/
theorem get?_addKey_of_ne (hne : v.1 ≠ keyName part key)
    (level : ¬ (keyName part key ++ "__").toList <+: v.1.toList) :
    (addKey part layer v).get? key = layer.get? key := by
  obtain h | ⟨name, more, h, hname⟩ := addKey_cases part layer v
  · rw [h]
  · rw [h]
    refine Layer.get?_assign_of_ne ?_ more
    rintro rfl
    rcases hname with ⟨-, hv⟩ | ⟨-, hbelow⟩
    · exact hne hv
    · exact level hbelow

/-- A text under a key is replaced by the variable of the key alone. -/
theorem get?_addKey_of_text {text : String} (h : layer.get? key = some (.text text))
    (hne : v.1 ≠ keyName part key) : (addKey part layer v).get? key = some (.text text) := by
  obtain hv | ⟨name, more, hv, ⟨-, hname⟩ | ⟨hmore, -⟩⟩ := addKey_cases part layer v
  · rw [hv, h]
  · rw [hv, Layer.get?_assign_of_ne (by rintro rfl; exact hne hname), h]
  · rw [hv, Layer.get?_assign_below h hmore]

theorem get?_foldl_addKey_of_text {text : String} {given : List (String × String)}
    (h : layer.get? key = some (.text text)) (hne : keyName part key ∉ given.map (·.1)) :
    Layer.get? (given.foldl (addKey part) layer) key = some (.text text) := by
  induction given generalizing layer with
  | nil => exact h
  | cons v rest ih =>
    rw [List.map_cons, List.mem_cons, not_or] at hne
    exact ih (get?_addKey_of_text h (Ne.symm hne.1)) hne.2

/-- The variables give a key the text of its own, or leave it as it is. -/
theorem get?_foldl_addKey (single : keyParts key = [key]) {given : List (String × String)}
    (nodup : (given.map (·.1)).Nodup) (level : given.lookup (keyName part key) = none →
      ∀ v ∈ given, ¬ (keyName part key ++ "__").toList <+: v.1.toList) :
    Layer.get? (given.foldl (addKey part) layer) key =
      ((given.lookup (keyName part key)).map .text).or (layer.get? key) := by
  induction given generalizing layer with
  | nil => rfl
  | cons v rest ih =>
    obtain ⟨hfresh, hrest⟩ := List.nodup_cons.mp nodup
    rw [List.foldl_cons]
    by_cases hv : v.1 = keyName part key
    · -- the text of the key itself stays, as no later variable has the name
      obtain ⟨name, s⟩ := v
      obtain rfl : name = keyName part key := hv
      rw [List.lookup_cons_self]
      exact get?_foldl_addKey_of_text (get?_addKey_self single layer s) hfresh
    · have hlookup : (v :: rest).lookup (keyName part key) = rest.lookup (keyName part key) := by
        rw [List.lookup_cons, beq_false_of_ne (Ne.symm hv)]
      rw [hlookup] at level ⊢
      rw [ih hrest fun h w hw => level h w (List.mem_cons_of_mem _ hw)]
      cases hown : rest.lookup (keyName part key) with
      | some s => rfl
      | none => rw [get?_addKey_of_ne hv (level hown v (List.mem_cons_self ..))]

theorem get?_sectionKeys (single : keyParts key = [key]) {given : List (String × String)}
    (nodup : (given.map (·.1)).Nodup) (level : given.lookup (keyName part key) = none →
      ∀ v ∈ given, ¬ (keyName part key ++ "__").toList <+: v.1.toList) :
    (sectionKeys part given).get? key = (given.lookup (keyName part key)).map .text := by
  rw [sectionKeys, get?_foldl_addKey single nodup level]
  exact Option.or_none

theorem nodup_names_sectionKeys (part : String) (given : List (String × String)) :
    (sectionKeys part given).names.Nodup := by
  unfold sectionKeys
  suffices h : ∀ layer : Layer, layer.names.Nodup → (given.foldl (addKey part) layer).names.Nodup from
    h [] List.nodup_nil
  induction given with
  | nil => exact fun layer h => h
  | cons v rest ih =>
    intro layer h
    refine ih _ ?_
    obtain hv | ⟨name, more, hv, -⟩ := addKey_cases part layer v
    · rwa [hv]
    · rw [hv]
      exact Layer.nodup_names_assign h _

/-- The keys of a section are texts that stand in the names of the variables. -/
theorem key_of_mem_sectionKeys {given : List (String × String)} {m : Scalar × Value}
    (h : m ∈ sectionKeys part given) :
    ∃ name, m.1 = .text name ∧ ∃ v ∈ given, ∀ c ∈ name.toList, c ∈ v.1.toList := by
  unfold sectionKeys at h
  induction given using List.reverseRecOn generalizing m with
  | nil => cases h
  | append_singleton given v ih =>
    rw [List.foldl_append] at h
    have hold : ∀ m' ∈ given.foldl (addKey part) [], m'.1 = m.1 → ∃ name, m.1 = .text name ∧
        ∃ w ∈ given ++ [v], ∀ c ∈ name.toList, c ∈ w.1.toList := by
      intro m' hm' hkey
      obtain ⟨name, hname, w, hw, hin⟩ := ih hm'
      exact ⟨name, hkey ▸ hname, w, List.mem_append_left _ hw, hin⟩
    obtain hv | ⟨name, more, hv, hname⟩ := addKey_cases part (given.foldl (addKey part) []) v
    · exact hold m (hv ▸ h) rfl
    · replace h : m ∈ Layer.assign v.2 (name :: more) (given.foldl (addKey part) []) := hv ▸ h
      obtain hm | ⟨m', hm', hkey⟩ := Layer.key_of_mem_assign h
      · refine ⟨name, hm, v, by simp, fun c hc => ?_⟩
        rcases hname with ⟨-, hv⟩ | ⟨-, hbelow⟩
        · simp [hv, keyName, hc]
        · exact hbelow.subset (by simp [keyName, hc])
      · exact hold m' hm' hkey

end Environment

end Rulebook
