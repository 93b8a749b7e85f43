import Rulebook.Proofs.Plugin.Discovering

/-!
Which classes of files are loaded. An instance is made of each class of a file that has a marked hook and
can be instantiated, and all of them are registered under the one name that is made from that of the
file, so only the first is taken. A class that a later one of its file hides under its name is not even
seen. A search from nothing therefore loads every class just when no class is hidden and no two of them
come under one name.
-/

namespace Rulebook

/-- The instances that are made of some classes, under one name. -/
def instancesOf (name : String) (classes : List (Nat × DefinedClass)) : List (String × Plugin) :=
  (classes.filter (·.2.isLoadable)).map fun (place, c) => (name, ⟨c.cls, place, true⟩)

/-- The instances that are made of the classes of some files, in the order in which these are taken up. -/
def fileInstances (created : Nat) : List PluginFile → List (String × Plugin)
  | [] => []
  | f :: rest =>
    instancesOf f.pluginName (definedClasses created (f.classes.getD [])) ++
      fileInstances (created + (f.classes.getD []).length) rest

/-! ### The instances -/

theorem mem_instancesOf_iff {name n : String} {classes : List (Nat × DefinedClass)} {q : Plugin} :
    (n, q) ∈ instancesOf name classes ↔
      ∃ place d, (place, d) ∈ classes ∧ d.isLoadable = true ∧ name = n ∧ ⟨d.cls, place, true⟩ = q := by
  simp [instancesOf, and_assoc]

/-- The instances that are made are those of the loadable classes that are not hidden. -/
theorem mem_fileInstances_iff {created : Nat} {files : List PluginFile} {name : String} {q : Plugin} :
    (name, q) ∈ fileInstances created files ↔
      ∃ c ∈ placedClasses created files, c.defined.isLoadable = true ∧ c.isHidden = false ∧
        c.file.pluginName = name ∧ c.plugin = q := by
  induction files generalizing created with
  | nil => simp [fileInstances, placedClasses]
  | cons f rest ih =>
    simp only [fileInstances, placedClasses, List.mem_append, ih, mem_instancesOf_iff,
      mem_definedClasses_iff f, or_and_right, exists_or]
    refine or_congr_left ?_
    constructor
    · rintro ⟨place, d, ⟨c, hc, hseen, rfl, rfl⟩, hloadable, hname, hq⟩
      exact ⟨c, hc, hloadable, hseen, f.file_of_mem_placed hc ▸ hname, hq⟩
    · rintro ⟨c, hc, hloadable, hseen, hname, hq⟩
      exact ⟨_, _, ⟨c, hc, hseen, rfl, rfl⟩, hloadable, f.file_of_mem_placed hc ▸ hname, hq⟩

/-! ### Taking up -/

namespace Plugins

/-- Instances are taken up after the plugins that are there: under each name that is free the first. -/
structure TakesUp (ps : Plugins) (instances : List (String × Plugin)) (after : Plugins) : Prop where
  distinct : after.Distinct
  get? : ∀ name, Ordered.get? name after.entries = Ordered.get? name (ps.entries ++ instances)

namespace TakesUp

variable {ps between after : Plugins} {instances more : List (String × Plugin)} {name : String} {q : Plugin}

theorem none (h : ps.Distinct) : TakesUp ps [] ps := by
  refine ⟨h, fun n => ?_⟩
  rw [List.append_nil]

/-- An instance under a name that is taken is passed over. -/
theorem skip (h : ps.Distinct) (taken : ps.contains name = true) : TakesUp ps [(name, q)] ps := by
  refine ⟨h, fun n => ?_⟩
  rw [Ordered.get?_append, Ordered.get?]
  by_cases hname : name = n
  · subst hname
    rw [Option.or_of_isSome taken]
  · rw [if_neg fun h => hname (beq_iff_eq.mp h), Ordered.get?, Option.or_none]

/-- An instance under a free name is registered. -/
theorem keep (h : ps.Distinct) (fresh : ps.contains name = false) :
    TakesUp ps [(name, q)] ⟨ps.entries ++ [(name, q)], ps.loaded⟩ := by
  refine ⟨h.concat ?_ q, fun _ => rfl⟩
  rw [← contains_iff, fresh]
  exact Bool.false_ne_true

theorem trans (h : TakesUp ps instances between) (h' : TakesUp between more after) :
    TakesUp ps (instances ++ more) after := by
  refine ⟨h'.distinct, fun n => ?_⟩
  rw [h'.get?, Ordered.get?_append, h.get?, ← Ordered.get?_append, List.append_assoc]

theorem mem_iff (h : TakesUp empty instances after) :
    (name, q) ∈ after.entries ↔ Ordered.get? name instances = some q := by
  rw [← Ordered.get?_eq_some_iff (Ordered.told_of_lawful _) h.distinct, h.get?]
  rfl

end TakesUp

theorem instancesOf_cons (name : String) (kc : Nat × DefinedClass) (rest : List (Nat × DefinedClass)) :
    instancesOf name (kc :: rest) = instancesOf name [kc] ++ instancesOf name rest := by
  rw [instancesOf, ← List.singleton_append, List.filter_append, List.map_append]
  rfl

theorem takeUp_takesUp (name : String) {ps : Plugins} (h : ps.Distinct) (kc : Nat × DefinedClass) :
    TakesUp ps (instancesOf name [kc]) (ps.takeUp name kc) := by
  unfold takeUp
  cases hloadable : kc.2.isLoadable with
  | false =>
    have hinstances : instancesOf name [kc] = [] := by simp [instancesOf, hloadable]
    rw [hinstances, Bool.false_and, if_neg Bool.false_ne_true]
    exact .none h
  | true =>
    have hinstances : instancesOf name [kc] = [(name, ⟨kc.2.cls, kc.1, true⟩)] := by
      simp [instancesOf, hloadable]
    rw [hinstances, Bool.true_and]
    cases htaken : ps.contains name with
    | true => exact .skip h htaken
    | false => exact .keep h htaken

/-- Classes that are taken up to the last have their instances taken up. -/
theorem addClasses_takesUp {name path : String} {ps : Plugins} (h : ps.Distinct)
    {classes : List (Nat × DefinedClass)} (going : (ps.addClasses name path classes).stopped = none) :
    TakesUp ps (instancesOf name classes) (ps.addClasses name path classes).plugins := by
  induction classes generalizing ps with
  | nil => exact .none h
  | cons kc rest ih =>
    obtain ⟨hfirst, hrest⟩ := Search.andThen_stopped_eq_none_iff.mp going
    have htakes := takeUp_takesUp name h kc
    rw [← addClass_plugins_of_going hfirst] at htakes
    rw [instancesOf_cons]
    have hplugins : (ps.addClasses name path (kc :: rest)).plugins =
        ((addClass name path ps kc).plugins.addClasses name path rest).plugins :=
      Search.andThen_plugins_of_going hfirst
    rw [hplugins]
    exact htakes.trans (ih htakes.distinct hrest)

theorem addFile_takesUp {directory : String} {ps : Plugins} (h : ps.Distinct) {created : Nat} {f : PluginFile}
    (going : (ps.addFile directory created f).stopped = none) :
    TakesUp ps (instancesOf f.pluginName (definedClasses created (f.classes.getD [])))
      (ps.addFile directory created f).plugins := by
  cases hclasses : f.classes with
  | none =>
    have hnone : instancesOf f.pluginName (definedClasses created []) = [] := by
      simp [definedClasses, numbered, Ordered.ofList, Ordered.union, instancesOf]
    rw [addFile_plugins_of_closed hclasses, Option.getD_none, hnone]
    exact .none h
  | some classes =>
    rw [addFile, loading_of_classes hclasses] at going ⊢
    exact addClasses_takesUp h going

theorem addFiles_takesUp {directory : String} {ps : Plugins} (h : ps.Distinct) {created : Nat}
    {files : List PluginFile} (going : (ps.addFiles directory created files).stopped = none) :
    TakesUp ps (fileInstances created files) (ps.addFiles directory created files).plugins := by
  induction files generalizing ps created with
  | nil => exact .none h
  | cons f rest ih =>
    obtain ⟨hfirst, hrest⟩ := Search.andThen_stopped_eq_none_iff.mp going
    have htakes := addFile_takesUp h hfirst
    rw [fileInstances, addFiles, Search.andThen_plugins_of_going hfirst]
    exact htakes.trans (ih htakes.distinct hrest)

/-! ### A search from nothing -/

/-- A search from nothing takes up the instances of the files, unless it is stopped. -/
theorem discover_empty_takesUp {created : Nat} {path : String} {files : List PluginFile} {after : Plugins}
    (h : (empty.discover created (some (path, .ok files))).result = .ok after) :
    TakesUp empty (fileInstances created (loadedFiles files)) after := by
  obtain ⟨going, rfl⟩ := Search.run_ok_iff.mp h
  obtain ⟨-, hadds⟩ := search_stopped_eq_none_iff.mp going
  have hvisited : empty.visited = [] := List.mergeSort_nil
  rw [search_plugins_of_going going]
  rw [hvisited] at hadds ⊢
  have htakes := addFiles_takesUp distinct_empty hadds
  exact ⟨htakes.distinct, htakes.get?⟩

theorem clear_empty_iff {path : String} {files : List PluginFile} :
    Clear empty (some (path, .ok files)) ↔ ∀ f ∈ files, f.isLoaded = true → f.Tame :=
  ⟨fun h => h.tame, fun h => ⟨fun _ _ hp => absurd hp List.not_mem_nil, fun _ _ heq => (by cases heq), h⟩⟩

/-- What is first under a name is the instance of a class that is seen and comes under the name. -/
theorem exists_placed_of_get? {created : Nat} {files : List PluginFile} {name : String} {q : Plugin}
    (h : Ordered.get? name (fileInstances created files) = some q) :
    ∃ c ∈ (placedClasses created files).filter (·.defined.isLoadable),
      c.isHidden = false ∧ c.file.pluginName = name ∧ c.plugin = q := by
  rcases Ordered.mem_of_get? h with ⟨name', hmem, hname⟩
  rw [beq_iff_eq.mp hname, mem_fileInstances_iff] at hmem
  rcases hmem with ⟨c, hc, hloadable, hseen⟩
  exact ⟨c, List.mem_filter.mpr ⟨hc, hloadable⟩, hseen⟩

/-- All loadable classes have their instances among the first of the names just when none is hidden and
no two of them come under one name. -/
theorem all_first_iff (created : Nat) (files : List PluginFile) :
    let classes := (placedClasses created files).filter (·.defined.isLoadable)
    (∀ c ∈ classes, ∃ name, Ordered.get? name (fileInstances created files) = some c.plugin) ↔
      (∀ c ∈ classes, c.isHidden = false) ∧ (classes.map (·.file.pluginName)).Nodup := by
  intro classes
  have hplace : ∀ c ∈ classes, ∀ d ∈ classes, c.plugin = d.plugin → c = d := by
    intro c hc d hd h
    exact eq_of_place_eq (List.mem_of_mem_filter hc) (List.mem_of_mem_filter hd)
      (congrArg Plugin.created h)
  constructor
  · intro hall
    have hown : ∀ c ∈ classes, c.isHidden = false ∧
        Ordered.get? c.file.pluginName (fileInstances created files) = some c.plugin := by
      intro c hc
      rcases hall c hc with ⟨name, hget⟩
      rcases exists_placed_of_get? hget with ⟨d, hd, hseen, rfl, hplugin⟩
      obtain rfl := hplace d hd c hc hplugin
      exact ⟨hseen, hget⟩
    refine ⟨fun c hc => (hown c hc).1, ?_⟩
    have nodup : classes.Nodup := ((nodup_map_place created files).of_map _).filter _
    refine (List.nodup_map_iff_inj_on nodup).mpr fun c hc d hd hname => hplace c hc d hd ?_
    have hget := (hown c hc).2
    rw [hname, (hown d hd).2] at hget
    exact (Option.some.inj hget).symm
  · rintro ⟨hseen, hnames⟩ c hc
    have hmem : (c.file.pluginName, c.plugin) ∈ fileInstances created files := by
      rw [mem_fileInstances_iff]
      rcases List.mem_filter.mp hc with ⟨hplaced, hloadable⟩
      exact ⟨c, hplaced, hloadable, hseen c hc, rfl, rfl⟩
    refine ⟨c.file.pluginName, ?_⟩
    cases hget : Ordered.get? c.file.pluginName (fileInstances created files) with
    | none =>
      rw [Ordered.get?_eq_none_iff (Ordered.told_of_lawful _)] at hget
      exact absurd (List.mem_map_of_mem hmem) hget
    | some q =>
      rcases exists_placed_of_get? hget with ⟨d, hd, -, hname, rfl⟩
      rw [List.inj_on_of_nodup_map hnames hd hc hname]

/-- A search from nothing returns when the files that it loads are tame. It registers then, of the instances
that are made of the classes of a directory, the first under each name. So every class that is to be
loaded is loaded just when none is hidden by a later one of its file and no two are of files, or of a file,
with one plugin name. -/
theorem discover_loads_iff (created : Nat) (path : String) (files : List PluginFile) :
    let classes := (placedClasses created (loadedFiles files)).filter (·.defined.isLoadable)
    ((empty.discover created (some (path, .ok files))).Returns ↔ ∀ f ∈ files, f.isLoaded = true → f.Tame) ∧
    ∀ after, (empty.discover created (some (path, .ok files))).result = .ok after →
      (∀ name q, (name, q) ∈ after.entries ↔
        Ordered.get? name (fileInstances created (loadedFiles files)) = some q) ∧
      ((∀ c ∈ classes, ∃ name, (name, c.plugin) ∈ after.entries) ↔
        (∀ c ∈ classes, c.isHidden = false) ∧ (classes.map (·.file.pluginName)).Nodup) := by
  intro classes
  refine ⟨(discover_returns_iff_clear distinct_empty apart_empty).trans clear_empty_iff, fun after h => ?_⟩
  have htakes := discover_empty_takesUp h
  refine ⟨fun name q => htakes.mem_iff, ?_⟩
  simp only [htakes.mem_iff]
  exact all_first_iff created (loadedFiles files)

/-- A class with a marked hook, of which instances can be made. -/
def plainClass (name : String) : PluginClass := ⟨name, some (.offers []), true, .fresh, none, fun _ => none⟩

theorem tame_of_plain {name : String} {cs : List DefinedClass} (h : ∀ c ∈ cs, ∃ n, c.cls = plainClass n) :
    PluginFile.Tame ⟨name, .classes cs⟩ := by
  rintro c ⟨earlier, later, hsplit, -⟩ -
  obtain ⟨n, hn⟩ := h c (hsplit ▸ List.mem_append_right _ (List.mem_cons_self ..))
  rw [hn]
  exact ⟨rfl, nofun⟩

/-- A class that is alone in its file is loaded. -/
theorem discover_loads_alone :
    let file : PluginFile := ⟨"one.py", .classes [⟨plainClass "First", false⟩]⟩
    ∃ after, (empty.discover 0 (some ("plugins", .ok [file]))).result = .ok after ∧
      ∃ name, (name, ⟨plainClass "First", 0, true⟩) ∈ after.entries := by
  intro file
  obtain ⟨hreturns, hloads⟩ := discover_loads_iff 0 "plugins" [file]
  have htame : ∀ f ∈ [file], f.isLoaded = true → f.Tame := fun f hf _ => by
    rw [List.mem_singleton.mp hf]
    exact tame_of_plain fun c hc => ⟨"First", by rw [List.mem_singleton.mp hc]⟩
  obtain ⟨after, hafter⟩ := hreturns.mpr htame
  have hfiles : loadedFiles [file] = [file] := loadedFiles_singleton (by decide +kernel)
  obtain ⟨-, hall⟩ := hloads after hafter
  rw [hfiles] at hall
  refine ⟨after, hafter, hall.mpr ⟨?_, List.nodup_singleton _⟩ ⟨file, 0, ⟨plainClass "First", false⟩, []⟩
    (List.mem_singleton_self _)⟩
  intro c hc
  cases List.mem_singleton.mp hc
  rfl

/-- A file with two classes that are to be loaded: one instance is registered, of the first by name. -/
theorem discover_loads_one_of_pair :
    let second : DefinedClass := ⟨plainClass "Second", false⟩
    let file : PluginFile := ⟨"pair.py", .classes [⟨plainClass "First", false⟩, second]⟩
    file.isLoaded = true ∧ file.Tame ∧ second.isLoadable = true ∧
      ∃ after, (empty.discover 0 (some ("plugins", .ok [file]))).result = .ok after ∧
        ∀ name q, (name, q) ∈ after.entries → q.cls.name ≠ "Second" := by
  intro second file
  have hloaded : file.isLoaded = true := by decide +kernel
  have hfiles : loadedFiles [file] = [file] := loadedFiles_singleton hloaded
  have htame : file.Tame := tame_of_plain fun c hc => by
    rcases List.mem_cons.mp hc with rfl | hc
    · exact ⟨"First", rfl⟩
    · exact ⟨"Second", by rw [List.mem_singleton.mp hc]⟩
  obtain ⟨after, hafter⟩ : (empty.discover 0 (some ("plugins", .ok [file]))).Returns := by
    refine (discover_returns_iff_clear distinct_empty apart_empty).mpr (clear_empty_iff.mpr fun f hf _ => ?_)
    rwa [List.mem_singleton.mp hf]
  refine ⟨hloaded, htame, rfl, after, hafter, fun name q hq => ?_⟩
  -- both instances come under the name of the file
  have hinstances : fileInstances 0 [file] = [(file.pluginName, ⟨plainClass "First", 0, true⟩),
      (file.pluginName, ⟨plainClass "Second", 1, true⟩)] := by
    have hclasses : definedClasses 0 [⟨plainClass "First", false⟩, second] =
        [(0, ⟨plainClass "First", false⟩), (1, second)] := by
      rw [definedClasses, List.mergeSort_of_pairwise (by decide +kernel)]
      rfl
    show instancesOf file.pluginName (definedClasses 0 [⟨plainClass "First", false⟩, second]) ++ [] = _
    rw [hclasses]
    rfl
  rw [(discover_empty_takesUp hafter).mem_iff, hfiles, hinstances, Ordered.get?, Ordered.get?] at hq
  cases hname : file.pluginName == name with
  | true =>
    rw [hname, if_pos rfl] at hq
    cases hq
    decide
  | false =>
    rw [hname, if_neg Bool.false_ne_true, if_neg Bool.false_ne_true] at hq
    cases hq

end Plugins

end Rulebook
