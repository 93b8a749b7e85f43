import Rulebook.Proofs.Settings.Reading
import Rulebook.Proofs.Settings.Variables
import Rulebook.Proofs.Text.Case

/-!
What the environment gives to each setting. A flag is given by its variable. A key of a section is given by
the variable of its own, written over the document that the variable of the section holds; where a document
spells a key in several ways, the last spelling goes. The variables make a layer whose values these are, if
each document is an object and no variable leads below a key.
-/

namespace Rulebook

/-! ## Spellings of a key -/

namespace Layer

/-- The members whose keys are spellings of a key in small letters. -/
def spelled (key : String) (layer : Layer) : Layer :=
  layer.filter fun (k, _) => k.text?.map lowerText == some key

/-- Gives a value to a key, if there is one. -/
def put (key : String) : Option Value → Layer → Layer
  | none, layer => layer
  | some v, layer => Ordered.insert (.text key) v layer

variable {key : String}

theorem spelled_insert (name : String) (v : Value) (layer : Layer) :
    spelled key (Ordered.insert (.text name) v layer) =
      if lowerText name = key then Ordered.insert (.text name) v (spelled key layer)
      else spelled key layer := by
  induction layer with
  | nil => by_cases h : lowerText name = key <;> simp [spelled, Ordered.insert, Scalar.text?, h]
  | cons p rest ih =>
    obtain ⟨k, w⟩ := p
    unfold spelled at ih ⊢
    by_cases hk : k = .text name
    · subst hk
      by_cases h : lowerText name = key <;> simp [Ordered.insert, Scalar.beq_text, Scalar.text?, h]
    · by_cases hspelled : k.text?.map lowerText = some key <;> by_cases h : lowerText name = key <;>
        simp [Ordered.insert, Scalar.beq_text, hk, hspelled, h, ih]

/-- A value given to a key is given to the one spelling of it in small letters. -/
theorem spelled_put (small : lowerText key = key) (v? : Option Value) (layer : Layer) :
    spelled key (put key v? layer) = put key v? (spelled key layer) := by
  cases v? with
  | none => rfl
  | some v => exact (spelled_insert key v layer).trans (if_pos small)

/-- The keys of a layer are texts of which one alone is a spelling of a key: the key itself. -/
def OneSpelling (key : String) (layer : Layer) : Prop :=
  ∀ m ∈ layer, ∃ name, m.1 = .text name ∧ (lowerText name = key → name = key)

/-- The first of keys that stand once is a text that is not among the rest. -/
theorem OneSpelling.of_cons {p : Scalar × Value} {rest : Layer} (nodup : (names (p :: rest)).Nodup)
    (one : OneSpelling key (p :: rest)) : ∃ name v, p = (.text name, v) ∧ (lowerText name = key → name = key) ∧
      rest.get? name = none ∧ rest.names.Nodup ∧ rest.OneSpelling key := by
  obtain ⟨k, v⟩ := p
  obtain ⟨name, hname, hone⟩ := one _ (List.mem_cons_self ..)
  obtain rfl : k = .text name := hname
  rw [names_cons] at nodup
  obtain ⟨-, hrest, hfresh⟩ := List.nodup_append.mp nodup
  have hnone : rest.get? name = none :=
    get?_eq_none_iff.mpr fun h => hfresh name (by simp [Scalar.text?]) name h rfl
  exact ⟨name, v, rfl, hone, hnone, hrest, fun m hm => one m (List.mem_cons_of_mem _ hm)⟩

/-- Over a document one spelling of a key puts a value in its place. -/
theorem spelled_overlay (small : lowerText key = key) {keys : Layer} (nodup : keys.names.Nodup)
    (one : keys.OneSpelling key) (plain : ∀ v, keys.get? key = some v → v.isObject = false)
    (document : Layer) :
    spelled key (document.overlay keys) = put key (keys.get? key) (spelled key document) := by
  induction keys generalizing document with
  | nil => rfl
  | cons p rest ih =>
    obtain ⟨name, v, rfl, hone, hnone, hrest, htail⟩ := one.of_cons nodup
    rw [get?_cons] at plain ⊢
    by_cases hkey : name = key
    · -- each name stands once, so what comes later leaves the key as it is
      subst hkey
      rw [overlay_cons_of_not_object (plain v (if_pos rfl)), ih hrest htail (by simp [hnone]), hnone,
        spelled_insert, if_pos small, if_pos rfl]
      rfl
    · have hother : Scalar.text name ≠ .text key := fun h => hkey (Scalar.text.inj h)
      rw [if_neg hother] at plain ⊢
      rw [Layer.overlay, ih hrest htail plain, spelled_insert, if_neg fun h => hkey (hone h)]

/-- Alone, one spelling of a key is what is found under it. -/
theorem spelled_of_oneSpelling (small : lowerText key = key) {keys : Layer} (nodup : keys.names.Nodup)
    (one : keys.OneSpelling key) : spelled key keys = put key (keys.get? key) [] := by
  induction keys with
  | nil => rfl
  | cons p rest ih =>
    obtain ⟨name, v, rfl, hone, hnone, hrest, htail⟩ := one.of_cons nodup
    have hspelled := ih hrest htail
    rw [get?_cons]
    unfold spelled at hspelled ⊢
    rw [List.filter_cons, hspelled]
    by_cases hkey : name = key
    · subst hkey
      simp [Scalar.text?, small, hnone, put, Ordered.insert]
    · have hspelling : lowerText name ≠ key := fun h => hkey (hone h)
      simp [Scalar.text?, hkey, hspelling]

theorem knownName_beq {known : List String} (hknown : key ∈ known) (small : lowerText key = key)
    (k : Scalar) : (knownName known k == .text key) = (k.text?.map lowerText == some key) := by
  rw [Bool.eq_iff_iff, Scalar.beq_text, beq_iff_eq]
  unfold knownName
  split
  · next s =>
    rw [Scalar.text?, Option.map_some, Option.some.injEq, Scalar.text.injEq]
    constructor
    · intro h
      split at h
      · exact h
      · rw [h, small]
    · intro h
      rw [h, if_pos (List.contains_iff_mem.mpr hknown)]
  · next hk => cases k <;> simp_all [Scalar.text?]

/-- After a renaming a known key has the value of its last spelling. -/
theorem get?_renamed {known : List String} (hknown : key ∈ known) (small : lowerText key = key)
    (layer : Layer) : (layer.renamed known).get? key = ((spelled key layer).getLast?).map (·.2) := by
  have hfilter : (layer.map fun (k, v) => (knownName known k, v)).filter (·.1 == Scalar.text key) =
      (spelled key layer).map fun (k, v) => (knownName known k, v) := by
    rw [List.filter_map, spelled]
    refine congrArg (List.map _) (List.filter_congr fun m _ => ?_)
    exact knownName_beq hknown small m.1
  unfold renamed Layer.get?
  rw [Ordered.get?_ofList (Scalar.apart_text key), hfilter, List.getLast?_map, Option.map_map]
  rfl

end Layer

/-! ## The layer of the environment -/

namespace Surroundings

open Environment

/-- The document that the variable of a section holds, if it is an object. -/
def document? (w : Surroundings) (part : String) : Option Layer :=
  match (w.textOf? (topName part)).map Json.parse with
  | some (.ok (.object document)) => some document
  | _ => none

/-- What the environment gives to a setting. -/
def gives? (w : Surroundings) (k : Setting) : Option Value :=
  match k.section? with
  | none => (w.textOf? (topName k.name)).map .text
  | some part =>
    let own := (w.textOf? (keyName part k.name)).map Value.text
    (((Layer.put k.name own ((w.document? part).getD [])).spelled k.name).getLast?).map (·.2)

/-- The variables that settings come from have values of use: that of a section holds an object, none leads
below a key, and each setting is given something that can be read. -/
structure Fit (w : Surroundings) : Prop where
  documents : ∀ k part, Setting.section? k = some part → ∀ s, w.textOf? (topName part) = some s →
    ∃ document, Json.parse s = .ok (.object document)
  level : ∀ k part, Setting.section? k = some part → w.textOf? (keyName part k.name) = none →
    ∀ v ∈ w.environment, ¬ (keyName part k.name ++ "__").toList <+: (lowerText v.1).toList
  usable : ∀ k v, w.gives? k = some v → (k.read? v).isSome

/-- Variables of use none of which is that of a section. -/
theorem Fit.of_no_documents {w : Surroundings}
    (none : ∀ k part, Setting.section? k = some part → w.textOf? (topName part) = none)
    (level : ∀ k part, Setting.section? k = some part →
      ∀ v ∈ w.environment, ¬ (keyName part k.name ++ "__").toList <+: (lowerText v.1).toList)
    (usable : ∀ k, (w.gives? k).all (fun v => (k.read? v).isSome) = true) : w.Fit where
  documents := by
    intro k part hk s hs
    rw [none k part hk] at hs
    cases hs
  level := fun k part hk _ => level k part hk
  usable := by
    intro k v hv
    have h := usable k
    rwa [hv] at h

end Surroundings

namespace Environment

/-- A key in small letters of ASCII without a pair of underscores. -/
structure Plain (key : String) : Prop where
  small : lowerText key = key
  single : keyParts key = [key]
  ascii : ∀ c ∈ key.toList, c.toNat < 0x80

theorem plain_name (k : Setting) : Plain k.name := by
  cases k <;> exact ⟨by decide, by decide, by simp [Setting.name]⟩

/-- The names of variables are in small letters, so a key that they give is spelt in one way alone. -/
theorem oneSpelling_sectionKeys {key : String} (plain : Plain key) (part : String)
    (environment : List (String × String)) :
    (sectionKeys part (smallNamed environment)).OneSpelling key := by
  intro m hm
  obtain ⟨name, hname, v, hv, hin⟩ := key_of_mem_sectionKeys hm
  obtain ⟨source, -, hsource⟩ := mem_smallNamed (List.mem_map_of_mem hv)
  exact ⟨name, hname, eq_of_lowerText_eq (hsource ▸ hin) plain.ascii⟩

variable {w : Surroundings} {part : String}

/-- Among the keys of a section, one below which no variable leads has the text of its own variable. -/
theorem get?_sectionKeys_of_level {key : String} (plain : Plain key)
    (level : w.textOf? (keyName part key) = none →
      ∀ v ∈ w.environment, ¬ (keyName part key ++ "__").toList <+: (lowerText v.1).toList) :
    (sectionKeys part (smallNamed w.environment)).get? key = (w.textOf? (keyName part key)).map .text := by
  rw [get?_sectionKeys plain.single (nodup_smallNamed _), lookup_smallNamed]
  rw [lookup_smallNamed]
  intro hown v hv
  obtain ⟨source, hsource, hsmall⟩ := mem_smallNamed (List.mem_map_of_mem hv)
  exact hsmall ▸ level hown source hsource

/-- The value of a section has its known keys as the environment gives them. -/
theorem sectionValue?_eq (known : List String) (documents : ∀ s, w.textOf? (topName part) = some s →
      ∃ document, Json.parse s = .ok (.object document))
    (level : ∀ key ∈ known, w.textOf? (keyName part key) = none →
      ∀ v ∈ w.environment, ¬ (keyName part key ++ "__").toList <+: (lowerText v.1).toList)
    (plain : ∀ key ∈ known, Plain key) :
    ∃ keys : Option Layer, sectionValue? part known (smallNamed w.environment) = .ok (keys.map .object) ∧
      (keys.getD []).names.Nodup ∧ ∀ key ∈ known, (keys.getD []).get? key =
        (((Layer.put key ((w.textOf? (keyName part key)).map .text)
          ((w.document? part).getD [])).spelled key).getLast?).map (·.2) := by
  have hkeys : ∀ key ∈ known, (sectionKeys part (smallNamed w.environment)).get? key =
      (w.textOf? (keyName part key)).map .text :=
    fun key hkey => get?_sectionKeys_of_level (plain key hkey) (level key hkey)
  have hnodup := nodup_names_sectionKeys part (smallNamed w.environment)
  unfold sectionValue?
  rw [show lead ++ part = topName part from rfl, lookup_smallNamed]
  unfold Surroundings.document?
  cases htop : w.textOf? (topName part) with
  | none =>
    generalize hall : sectionKeys part (smallNamed w.environment) = keys at *
    cases keys with
    | nil =>
      refine ⟨none, rfl, List.nodup_nil, fun key hkey => ?_⟩
      rw [← hkeys key hkey]
      rfl
    | cons p rest =>
      refine ⟨some (Layer.renamed known (p :: rest)), rfl, Layer.nodup_names_ofList _, fun key hkey => ?_⟩
      show (Layer.renamed known (p :: rest)).get? key = _
      rw [Layer.get?_renamed hkey (plain key hkey).small, Layer.spelled_of_oneSpelling (plain key hkey).small
        hnodup (hall ▸ oneSpelling_sectionKeys (plain key hkey) part w.environment), hkeys key hkey]
      exact congrArg _ (congrArg _ (Layer.spelled_put (plain key hkey).small _ []).symm)
  | some s =>
    obtain ⟨document, hdocument⟩ := documents s htop
    simp only [Option.map_some, hdocument]
    refine ⟨some (Layer.renamed known (Layer.overlay document (sectionKeys part (smallNamed w.environment)))),
      rfl, Layer.nodup_names_ofList _, fun key hkey => ?_⟩
    show (Layer.renamed known _).get? key = _
    have hplain : ∀ v, (sectionKeys part (smallNamed w.environment)).get? key = some v →
        v.isObject = false := by
      intro v hv
      rw [hkeys key hkey] at hv
      obtain ⟨s, -, rfl⟩ := Option.map_eq_some_iff.mp hv
      rfl
    rw [Layer.get?_renamed hkey (plain key hkey).small, Layer.spelled_overlay (plain key hkey).small hnodup
      (oneSpelling_sectionKeys (plain key hkey) part w.environment) hplain, hkeys key hkey]
    exact congrArg _ (congrArg _ (Layer.spelled_put (plain key hkey).small _ document).symm)

end Environment

/-! ### A layer of texts and two sections -/

namespace Layer

theorem names_append (layer more : Layer) : names (layer ++ more) = names layer ++ names more :=
  List.filterMap_append

/-- The layer of a section alone. -/
def ofSection (part : String) (keys : Option Layer) : Layer :=
  (keys.map fun keys => (Scalar.text part, Value.object keys)).toList

theorem get?_ofSection (part : String) (keys : Option Layer) (name : String) :
    (ofSection part keys).get? name = if part = name then keys.map .object else none := by
  cases keys with
  | none => simp [ofSection]
  | some keys => simp [ofSection, get?_cons]

theorem names_ofSection_sublist (part : String) (keys : Option Layer) :
    ((ofSection part keys).names).Sublist [part] := by
  cases keys with
  | none => exact List.nil_sublist _
  | some keys => exact List.Sublist.refl _

/-- The texts of some names, under these names. -/
def ofTexts (text? : String → Option String) (names : List String) : Layer :=
  names.filterMap fun name => (text? name).map fun s => (.text name, .text s)

theorem get?_ofTexts (text? : String → Option String) (names : List String) (name : String) :
    (ofTexts text? names).get? name = if name ∈ names then (text? name).map .text else none := by
  unfold ofTexts
  induction names with
  | nil => rfl
  | cons n rest ih =>
    cases hn : text? n with
    | none =>
      by_cases h : name = n
      · subst h
        simp [hn, ih]
      · simp [hn, ih, h]
    | some s =>
      by_cases h : name = n
      · subst h
        simp [hn, get?_cons]
      · simp [hn, ih, h, Ne.symm h, get?_cons]

theorem names_ofTexts (text? : String → Option String) (names : List String) :
    (ofTexts text? names).names = names.filter fun name => (text? name).isSome := by
  unfold ofTexts
  induction names with
  | nil => rfl
  | cons n rest ih =>
    cases hn : text? n with
    | none => simp [hn, ih]
    | some s => simp [hn, ih, names_cons, Scalar.text?]

/-- Texts for the flags, and the two sections. -/
def ofParts (text? : String → Option String) (check plugins : Option Layer) : Layer :=
  ofTexts text? Settings.flagNames ++ ofSection "check" check ++ ofSection "plugins" plugins

variable (text? : String → Option String) (check plugins : Option Layer)

theorem get?_ofParts (name : String) : (ofParts text? check plugins).get? name =
    if name ∈ Settings.flagNames then (text? name).map .text
    else if "check" = name then check.map .object
    else if "plugins" = name then plugins.map .object else none := by
  rw [ofParts, get?_append, get?_append, get?_ofSection, get?_ofSection, get?_ofTexts]
  by_cases hflag : name ∈ Settings.flagNames
  · have hcheck : "check" ≠ name := fun h => absurd (h ▸ hflag) (by decide)
    have hplugins : "plugins" ≠ name := fun h => absurd (h ▸ hflag) (by decide)
    simp [hflag, hcheck, hplugins]
  · by_cases hcheck : "check" = name
    · subst hcheck
      simp [hflag]
    · simp [hflag, hcheck]

theorem keysOf_ofParts (part : String) : (ofParts text? check plugins).keysOf part =
    if "check" = part then check.getD [] else if "plugins" = part then plugins.getD [] else [] := by
  unfold keysOf
  rw [get?_ofParts]
  by_cases hcheck : "check" = part
  · subst hcheck
    cases check <;> rfl
  · by_cases hplugins : "plugins" = part
    · subst hplugins
      cases plugins <;> rfl
    · rw [if_neg hcheck, if_neg hplugins, if_neg hcheck, if_neg hplugins]
      split_ifs
      · cases text? part <;> rfl
      · rfl

theorem known_ofParts : (ofParts text? check plugins).Known := by
  refine List.all_eq_true.mpr fun m hm => ?_
  rcases List.mem_append.mp hm with hm | hm
  · rcases List.mem_append.mp hm with hm | hm
    · obtain ⟨name, hname, hm⟩ := List.mem_filterMap.mp hm
      obtain ⟨s, -, rfl⟩ := Option.map_eq_some_iff.mp hm
      exact List.contains_iff_mem.mpr (List.mem_append_left _ (List.mem_append_right _ hname))
    · cases check with
      | none => cases hm
      | some keys => exact List.mem_singleton.mp hm ▸ rfl
  · cases plugins with
    | none => cases hm
    | some keys => exact List.mem_singleton.mp hm ▸ rfl

theorem sectioned_ofParts : (ofParts text? check plugins).Sectioned := by
  constructor
  · intro v hv
    rw [get?_ofParts] at hv
    obtain ⟨keys, -, rfl⟩ := Option.map_eq_some_iff.mp hv
    rfl
  · intro v hv
    rw [get?_ofParts] at hv
    obtain ⟨keys, -, rfl⟩ := Option.map_eq_some_iff.mp hv
    rfl

theorem distinct_ofParts (hcheck : (check.getD []).names.Nodup) (hplugins : (plugins.getD []).names.Nodup) :
    (ofParts text? check plugins).Distinct := by
  refine ⟨?_, fun part => ?_⟩
  · have hsub : (ofParts text? check plugins).names.Sublist
        (Settings.flagNames ++ ["check"] ++ ["plugins"]) := by
      rw [ofParts, names_append, names_append, names_ofTexts]
      exact (List.filter_sublist.append (names_ofSection_sublist _ _)).append (names_ofSection_sublist _ _)
    exact hsub.nodup (by decide)
  · rw [keysOf_ofParts]
    split_ifs
    · exact hcheck
    · exact hplugins
    · exact List.nodup_nil

end Layer

namespace Settings

variable {w : Surroundings}

/-- The layer of a section has its keys as the environment gives them. -/
theorem sectionLayer_eq {part : String} (names : List String) (fit : w.Fit) (k₀ : Setting)
    (hpart : k₀.section? = some part)
    (hnames : ∀ name ∈ names, ∃ k : Setting, k.section? = some part ∧ k.name = name) :
    ∃ keys, sectionLayer part names (Environment.smallNamed w.environment) =
        .ok (Layer.ofSection part keys) ∧ (keys.getD []).names.Nodup ∧
      ∀ k : Setting, k.section? = some part → k.name ∈ names →
        (keys.getD []).get? k.name = w.gives? k := by
  obtain ⟨keys, hvalue, hnodup, hget⟩ := Environment.sectionValue?_eq names
    (fit.documents k₀ part hpart)
    (fun name hname => by
      obtain ⟨k, hk, rfl⟩ := hnames name hname
      exact fit.level k part hk)
    (fun name hname => by
      obtain ⟨k, -, rfl⟩ := hnames name hname
      exact Environment.plain_name k)
  refine ⟨keys, ?_, hnodup, fun k hk hname => ?_⟩
  · unfold sectionLayer
    rw [hvalue]
    cases keys <;> rfl
  · rw [hget k.name hname]
    unfold Surroundings.gives?
    rw [hk]

/-- The variables make a layer that gives to each setting what the environment gives to it. -/
theorem environmentLayer_eq (fit : w.Fit) : ∃ layer, environmentLayer w = .ok layer ∧ layer.Distinct ∧
    layer.Usable ∧ ∀ k, layer.at? k = w.gives? k := by
  obtain ⟨check, hcheck, hcheckNodup, hcheckGet⟩ := sectionLayer_eq checkKeys fit
    .failOnUnknownRules rfl fun name hname => ⟨.failOnUnknownRules, rfl, (List.mem_singleton.mp hname).symm⟩
  obtain ⟨plugins, hplugins, hpluginsNodup, hpluginsGet⟩ := sectionLayer_eq pluginKeys fit
    .pluginsEnabled rfl fun name hname => by
      rcases List.mem_pair.mp hname with rfl | rfl
      · exact ⟨.pluginsEnabled, rfl, rfl⟩
      · exact ⟨.localDirectory, rfl, rfl⟩
  set text? := fun name => (Environment.smallNamed w.environment).lookup (Environment.lead ++ name)
  have hlayer : environmentLayer w = .ok (Layer.ofParts text? check plugins) := by
    show (do
      return flagLayer (Environment.smallNamed w.environment)
        ++ (← sectionLayer "check" checkKeys (Environment.smallNamed w.environment))
        ++ (← sectionLayer "plugins" pluginKeys (Environment.smallNamed w.environment))) = _
    rw [hcheck, hplugins]
    rfl
  have hflag : ∀ name ∈ flagNames, (Layer.ofParts text? check plugins).get? name =
      (w.textOf? (Environment.topName name)).map .text := by
    intro name hname
    rw [Layer.get?_ofParts, if_pos hname, ← Environment.lookup_smallNamed]
    rfl
  have hat : ∀ k, (Layer.ofParts text? check plugins).at? k = w.gives? k := by
    intro k
    unfold Layer.at?
    cases k with
    | failOnUnknownRules =>
      exact (congrArg (Layer.get? · _) (Layer.keysOf_ofParts ..)).trans (hcheckGet _ rfl (by decide))
    | pluginsEnabled | localDirectory =>
      exact (congrArg (Layer.get? · _) (Layer.keysOf_ofParts ..)).trans (hpluginsGet _ rfl (by decide))
    | _ => exact hflag _ (by decide)
  exact ⟨_, hlayer, Layer.distinct_ofParts _ _ _ hcheckNodup hpluginsNodup,
    ⟨Layer.known_ofParts .., Layer.sectioned_ofParts .., fun k v hv => fit.usable k v (hat k ▸ hv)⟩, hat⟩

end Settings

end Rulebook
