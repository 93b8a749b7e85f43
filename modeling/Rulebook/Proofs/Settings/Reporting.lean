import Rulebook.Proofs.Settings.Precedence

/-!
Reports on a configuration file. A file that is no document, or whose sections are of no use, is refused
under its path. The sections are judged when the file is read, its other names when the layers are read as a
whole; there a refusal has no message. So with no variables set, a request is answered by settings or by a
report on its file exactly when the document has no integer of too many digits, no name without a meaning,
and for each flag that the request leaves open a value of use or none.
-/

namespace Rulebook.Settings

variable {w : Surroundings} {r : Request}

/-! ## No variables -/

/-- No variable has the name of a setting or of a section, or one that goes on from it. -/
def Unset (w : Surroundings) : Prop := ∀ v ∈ w.environment, ∀ name ∈ flagNames ++ ["check", "plugins"],
  ¬ (Environment.topName name).toList <+: (lowerText v.1).toList

theorem textOf?_of_unset (unset : Unset w) {name : String} (h : name ∈ flagNames ++ ["check", "plugins"]) :
    w.textOf? (Environment.topName name) = none := by
  have hnone : w.environment.filter (lowerText ·.1 == Environment.topName name) = [] := by
    refine List.filter_eq_nil_iff.mpr fun v hv hname => unset v hv name h ?_
    rw [beq_iff_eq.mp hname]
  rw [Surroundings.textOf?, hnone]
  rfl

/-- Variables that do not go on from the name of a section give none of its keys. -/
theorem sectionKeys_eq_nil {part : String} {given : List (String × String)}
    (h : ∀ v ∈ given, ¬ (Environment.topName part).toList <+: v.1.toList) :
    Environment.sectionKeys part given = [] := by
  unfold Environment.sectionKeys
  induction given with
  | nil => rfl
  | cons v rest ih =>
    have hv : Environment.addKey part [] v = [] := by
      obtain hv | ⟨name, more, -, hname⟩ := Environment.addKey_cases part [] v
      · exact hv
      · refine absurd ?_ (h v (List.mem_cons_self ..))
        have hstart : (Environment.topName part).toList <+: (Environment.keyName part name).toList := by
          simp [Environment.keyName, Environment.topName]
        rcases hname with ⟨-, hv⟩ | ⟨-, hbelow⟩
        · exact hv ▸ hstart
        · refine (hstart.trans ?_).trans hbelow
          simp
    rw [List.foldl_cons, hv]
    exact ih fun w hw => h w (List.mem_cons_of_mem _ hw)

theorem sectionLayer_of_unset (unset : Unset w) {part : String}
    (h : part ∈ flagNames ++ ["check", "plugins"]) (keys : List String) :
    sectionLayer part keys (Environment.smallNamed w.environment) = .ok [] := by
  have hkeys : Environment.sectionKeys part (Environment.smallNamed w.environment) = [] := by
    refine sectionKeys_eq_nil fun v hv => ?_
    obtain ⟨source, hsource, hname⟩ := Environment.mem_smallNamed (List.mem_map_of_mem hv)
    exact hname ▸ unset source hsource part h
  have htop : (Environment.smallNamed w.environment).lookup (Environment.lead ++ part) = none :=
    (Environment.lookup_smallNamed w _).trans (textOf?_of_unset unset h)
  unfold sectionLayer Environment.sectionValue?
  rw [htop, hkeys]
  rfl

/-- Without variables the environment gives no layer. -/
theorem environmentLayer_of_unset (unset : Unset w) : environmentLayer w = .ok [] := by
  have hflags : flagLayer (Environment.smallNamed w.environment) = [] := by
    refine List.filterMap_eq_nil_iff.mpr fun name hname => ?_
    have htop : (Environment.smallNamed w.environment).lookup (Environment.lead ++ name) = none :=
      (Environment.lookup_smallNamed w _).trans (textOf?_of_unset unset (List.mem_append_left _ hname))
    rw [htop]
    rfl
  show (do
    return flagLayer (Environment.smallNamed w.environment)
      ++ (← sectionLayer "check" checkKeys (Environment.smallNamed w.environment))
      ++ (← sectionLayer "plugins" pluginKeys (Environment.smallNamed w.environment))) = _
  rw [sectionLayer_of_unset unset (by decide), sectionLayer_of_unset unset (by decide), hflags]
  rfl

/-! ## The configuration file -/

/-- Nothing is wrong with a section that is an object, or none, and whose keys take their values. -/
theorem complaints_eq_nil_iff {s : ConfigSection} {layer : Layer} : s.complaints layer = [] ↔
    ∃ keys, layer.section? s.name = some keys ∧
      ∀ k ∈ s.keys, ∀ v, Layer.get? keys k.1 = some v → k.2.accepts v = true := by
  unfold ConfigSection.complaints
  cases layer.section? s.name with
  | none => simp
  | some keys =>
    simp only [List.filterMap_eq_nil_iff, Option.some.injEq, exists_eq_left']
    refine forall₂_congr fun k _ => ?_
    cases hvalue : Layer.get? keys k.1 with
    | none => simp
    | some v => cases haccepts : k.2.accepts v <;> simp [haccepts]

theorem flag?_isSome_iff {layer : Layer} {name : String} {default : Bool} :
    (layer.flag? name default).isSome ↔ ∀ v, layer.get? name = some v → KeyKind.flag.accepts v = true := by
  unfold Layer.flag?
  cases layer.get? name <;> simp [KeyKind.accepts]

theorem text?_isSome_iff {layer : Layer} {name default : String} :
    (layer.text? name default).isSome ↔ ∀ v, layer.get? name = some v → KeyKind.text.accepts v = true := by
  unfold Layer.text?
  cases layer.get? name <;> simp [KeyKind.accepts]

/-- Nothing is wrong with the sections of a layer when they are of use. -/
theorem complaintsOf_eq_nil_iff {layer : Layer} :
    complaintsOf layer = [] ↔ (checkOf? layer).isSome ∧ (pluginsOf? layer).isSome := by
  have hcheck : (checkOf? layer).isSome ↔ ∃ keys, layer.section? "check" = some keys ∧
      (Layer.flag? keys "fail_on_unknown_rules" false).isSome := by
    unfold checkOf?
    cases layer.section? "check" with
    | none => simp
    | some keys => cases hflag : keys.flag? "fail_on_unknown_rules" false <;> simp [hflag]
  have hplugins : (pluginsOf? layer).isSome ↔ ∃ keys, layer.section? "plugins" = some keys ∧
      (Layer.flag? keys "enabled" true).isSome ∧
        (Layer.text? keys "local_dir" ".jsonrules/plugins").isSome := by
    unfold pluginsOf?
    cases layer.section? "plugins" with
    | none => simp
    | some keys =>
      cases hflag : keys.flag? "enabled" true with
      | none => simp [hflag]
      | some enabled => cases htext : keys.text? "local_dir" ".jsonrules/plugins" <;> simp [hflag, htext]
  rw [hcheck, hplugins]
  simp only [flag?_isSome_iff, text?_isSome_iff]
  simp [complaintsOf, configSections, complaints_eq_nil_iff]

/-- A file that is read has sections of use. -/
theorem sections_of_configLayer {config : Option Path} {layer : Layer}
    (h : configLayer w config = .ok layer) : (checkOf? layer).isSome ∧ (pluginsOf? layer).isSome := by
  unfold configLayer at h
  split at h
  · cases h
    exact ⟨rfl, rfl⟩
  · split at h
    · unfold fileLayer at h
      split at h
      · cases h
      · cases h
      · split at h
        · next hnone =>
          cases h
          exact complaintsOf_eq_nil_iff.mp hnone
        · cases h
      · cases h
        exact ⟨rfl, rfl⟩
    · cases h
      exact ⟨rfl, rfl⟩

/-- A file that is refused has an integer of too many digits, or the message names it. -/
theorem error_of_configLayer {config : Option Path} {e : Refusal} (h : configLayer w config = .error e) :
    (∃ n, e = .tooManyDigits n) ∨ ∃ file m, config = some file ∧ e.message? = some m ∧
      file.text.toList <:+: m.toList := by
  unfold configLayer at h
  split at h
  · cases h
  · next file =>
    split at h
    · unfold fileLayer at h
      split at h
      · cases h
        exact .inl ⟨_, rfl⟩
      · cases h
        refine .inr ⟨file, _, rfl, rfl, ?_⟩
        rw [String.toList_append, String.toList_append, String.toList_append, List.append_assoc]
        exact List.infix_append ..
      · split at h
        · cases h
        · cases h
          refine .inr ⟨file, _, rfl, rfl, ?_⟩
          simp only [String.toList_append, List.append_assoc]
          exact ⟨_, _, List.append_assoc ..⟩
      · cases h
    · cases h

/-- A layer whose sections are of use is read under a request when its other names have a meaning and
values of use where the request gives none. -/
theorem exists_ofLayer?_overlay_iff {layer upper : Layer} (root : Path) (config : Option Path)
    (distinct : upper.Distinct) (usable : upper.Usable) (hcheck : (checkOf? layer).isSome)
    (hplugins : (pluginsOf? layer).isSome) :
    (∃ s, ofLayer? root config (layer.overlay upper) = some s) ↔ layer.Known ∧
      ∀ k v, k.section? = none → upper.at? k = none → layer.at? k = some v → (k.read? v).isSome := by
  obtain ⟨c, hc⟩ := Option.isSome_iff_exists.mp hcheck
  obtain ⟨p, hp⟩ := Option.isSome_iff_exists.mp hplugins
  obtain ⟨hcheckAt, hstrict⟩ := checkOf?_eq_some_iff.mp hc
  obtain ⟨hpluginsAt, henabled, hdirectory⟩ := pluginsOf?_eq_some_iff.mp hp
  have hsectioned : layer.Sectioned := ⟨hcheckAt, hpluginsAt⟩
  constructor
  · rintro ⟨s, hs⟩
    have hall := Layer.usable_of_ofLayer? hs
    refine ⟨(Layer.known_overlay_iff.mp hall.known).1, fun k v _ hnone hv => hall.reads k v ?_⟩
    rw [Layer.at?_overlay_of_usable distinct hsectioned usable, hnone, hv]
    rfl
  · rintro ⟨hknown, hflags⟩
    -- the sections were judged as the file was read, so the flags alone are left
    have hread : ∀ k v, upper.at? k = none → layer.at? k = some v → (k.read? v).isSome := by
      intro k v hnone hv
      have hreads : ∀ u, layer.reads? k = some u → (k.read? v).isSome := by
        intro u hu
        rw [Layer.reads?, hv] at hu
        exact Option.isSome_of_eq_some hu
      cases k with
      | failOnUnknownRules => exact hreads _ hstrict
      | pluginsEnabled => exact hreads _ henabled
      | localDirectory => exact hreads _ hdirectory
      | _ => exact hflags _ v rfl hnone hv
    refine Layer.Usable.exists_settings ⟨Layer.known_overlay_iff.mpr ⟨hknown, usable.known⟩,
      hsectioned.overlay distinct.names usable.sectioned, fun k v hv => ?_⟩ root config
    rw [Layer.at?_overlay_of_usable distinct hsectioned usable, Option.or_eq_some_iff] at hv
    rcases hv with hv | ⟨hnone, hv⟩
    · exact usable.reads k v hv
    · exact hread k v hnone hv

/-! ## Answers -/

/-- The spelling of the file that a request is about. -/
def Request.fileText (r : Request) (w : Surroundings) : String :=
  match r.configFile w with
  | .ok (some file) => file.text
  | _ => r.config

/-- A request is answered by settings, or by a report that names the file. -/
def Answered (w : Surroundings) (r : Request) : Prop :=
  match load w r with
  | .ok _ => True
  | .error e => ∃ m, e.message? = some m ∧ (r.fileText w).toList <:+: m.toList

theorem answered_of_ok {s : Settings} (h : load w r = .ok s) : Answered w r := by
  unfold Answered
  rw [h]
  trivial

theorem answered_iff_of_error {e : Refusal} (h : load w r = .error e) :
    Answered w r ↔ ∃ m, e.message? = some m ∧ (r.fileText w).toList <:+: m.toList := by
  unfold Answered
  rw [h]

/-- A file that the caller names and that is none is reported. -/
theorem answered_of_no_config {e : Refusal} (hconfig : r.configFile w = .error e) : Answered w r := by
  refine (answered_iff_of_error (load_of_no_config hconfig)).mpr ?_
  rw [Request.fileText, hconfig]
  unfold Request.configFile at hconfig
  split at hconfig
  · cases hconfig
  · dsimp only at hconfig
    split at hconfig
    · cases hconfig
    · cases hconfig
      refine ⟨_, rfl, "Config file not found: ".toList, [], ?_⟩
      rw [String.toList_append, List.append_nil]

/-- A file that is refused is reported but for an integer of too many digits. -/
theorem answered_iff_of_refused {config : Option Path} {e : Refusal} (hconfig : r.configFile w = .ok config)
    (hfile : configLayer w config = .error e) : Answered w r ↔ ∀ n, e ≠ .tooManyDigits n := by
  rw [answered_iff_of_error (load_of_refused hconfig hfile), Request.fileText, hconfig]
  obtain ⟨n, rfl⟩ | ⟨file, m, rfl, hm, hin⟩ := error_of_configLayer hfile
  · constructor
    · rintro ⟨m, hm, -⟩
      cases hm
    · exact fun h => absurd rfl (h n)
  · refine ⟨fun _ n hn => ?_, fun _ => ⟨m, hm, hin⟩⟩
    subst hn
    cases hm

/-- Without variables, a request is answered exactly when the file has no integer of too many digits, no name
without a meaning, and for each flag that the request leaves open a value of use or none. -/
theorem answered_iff (unset : Unset w) (distinct : r.layer.Distinct) (usable : r.layer.Usable) :
    Answered w r ↔ ∀ config, r.configFile w = .ok config →
      (∀ n, configLayer w config ≠ .error (.tooManyDigits n)) ∧
      ∀ layer, configLayer w config = .ok layer → layer.Known ∧
        ∀ k v, k.section? = none → r.layer.at? k = none → layer.at? k = some v → (k.read? v).isSome := by
  cases hconfig : r.configFile w with
  | error e =>
    refine ⟨fun _ config h => ?_, fun _ => answered_of_no_config hconfig⟩
    cases h
  | ok config =>
    simp only [Except.ok.injEq, forall_eq']
    cases hfile : configLayer w config with
    | error e =>
      rw [answered_iff_of_refused hconfig hfile]
      simp
    | ok layer =>
      obtain ⟨hcheck, hplugins⟩ := sections_of_configLayer hfile
      have hread := exists_ofLayer?_overlay_iff (r.rootFor w config) config distinct usable hcheck hplugins
      have hload := load_of_layers hconfig hfile (environmentLayer_of_unset unset)
      simp only [Except.ok.injEq, forall_eq', reduceCtorEq, not_false_eq_true, implies_true, true_and,
        ne_eq, ← hread]
      rw [show layer.overlay [] = layer from rfl] at hload
      cases hs : ofLayer? (r.rootFor w config) config (layer.overlay r.layer) with
      | some s =>
        rw [hs] at hload
        exact ⟨fun _ => ⟨s, rfl⟩, fun _ => answered_of_ok hload⟩
      | none =>
        rw [hs] at hload
        rw [answered_iff_of_error hload]
        constructor
        · rintro ⟨m, hm, -⟩
          cases hm
        · rintro ⟨s, hs⟩
          cases hs

theorem answered_project : Answered { project with environment := [] } .plain := by
  have hconfig : Request.plain.configFile { project with environment := [] } =
      .ok (some ⟨.root, ["jsonrules.toml"]⟩) := by cbv
  have hfile : configLayer { project with environment := [] } (some ⟨.root, ["jsonrules.toml"]⟩) =
      .ok projectLayer := by cbv
  have hread : ∃ s, ofLayer? ⟨.root, []⟩ none projectLayer = some s :=
    Option.isSome_iff_exists.mp (by decide +kernel)
  have husable := Layer.usable_of_ofLayer? hread.choose_spec
  refine (answered_iff (fun v hv => absurd hv List.not_mem_nil) Layer.distinct_nil Layer.usable_nil).mpr ?_
  intro config h
  rw [hconfig] at h
  cases h
  rw [hfile]
  constructor
  · intro n h
    cases h
  · intro layer h
    cases h
    exact ⟨husable.known, fun k v _ _ hv => husable.reads k v hv⟩

/-- A directory whose file gives a flag a value of no use. -/
def misvalued : Surroundings where
  tree := .directory [("jsonrules.toml", .file "quiet = \"maybe\"")]
  directory := ⟨.root, []⟩
  environment := []

/-- A value of no use for a flag is not reported. -/
theorem not_answered_misvalued : Unset misvalued ∧ ¬ Answered misvalued .plain := by
  refine ⟨fun v hv => absurd hv List.not_mem_nil, ?_⟩
  have hload : load misvalued .plain = .error .badValue := by cbv
  rw [answered_iff_of_error hload]
  rintro ⟨m, hm, -⟩
  cases hm

end Rulebook.Settings
