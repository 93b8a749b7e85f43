import Rulebook.Proofs.Plugin.Classes
import Rulebook.Proofs.Plugin.Settling

/-!
What a search for plugins leaves behind. When the registered plugins are settled, plugins are added from
files under names that are free. A file that is passed over or whose loading fails with a mishap adds
nothing and takes no name, so the rest comes out as if it were not there. A search is stopped by what is
raised and not taken: when a class is looked through, when a file or a class raises more than a mishap, or
when the instance of a registered class has a flaw or is registered already. Even then it leaves every
plugin that was no class with a marked hook.
-/

namespace Rulebook

/-- A file that is neither passed over for its name nor fails to be loaded. -/
def PluginFile.isUsable (f : PluginFile) : Bool := !f.name.startsWith "_" && f.classes.isSome

/-- A class that can be looked through, and whose instance, if there is to be one, is made unless a mishap
prevents it. -/
structure PluginClass.Tame (c : PluginClass) : Prop where
  inspected : c.inspection = none
  made : c.hasHook = true → ∀ r, c.making = .raises r → r.isTaken = true

/-- A file whose loading fails with a mishap, or that can be looked through and whose own classes are tame
where they are not hidden. -/
def PluginFile.Tame (f : PluginFile) : Prop :=
  match f.loading with
  | .raises r => r.isTaken = true
  | .closed _ => False
  | .classes cs => ∀ c : DefinedClass, c.SeenIn cs → c.imported = false → c.cls.Tame

namespace Plugins

/-! ### Adding plugins -/

/-- A plugin made of one of some classes: a class of their file itself, with a marked hook, that can be
instantiated. -/
def FromClass (classes : List DefinedClass) (q : Plugin) : Prop :=
  ∃ c ∈ classes, c.imported = false ∧ c.cls.hasHook = true ∧ c.cls.instantiable = true ∧
    q.cls = c.cls ∧ q.instantiated = true

/-- A plugin under the name of one of some files, made of a class of the file. -/
def FromFile (files : List PluginFile) (name : String) (q : Plugin) : Prop :=
  ∃ f ∈ files, ∃ classes, f.classes = some classes ∧ f.isLoaded = true ∧ name = f.pluginName ∧
    FromClass classes q

/-- Plugins are added after those that are there, under new names and from a source. -/
structure Adds (ps : Plugins) (source : String → Plugin → Prop) (after : Plugins) : Prop where
  loaded : after.loaded = ps.loaded
  distinct : after.Distinct
  kept : ps.entries <+: after.entries
  new : ∀ n q, (n, q) ∈ after.entries → (n, q) ∈ ps.entries ∨ source n q

namespace Adds

variable {ps between after : Plugins} {source more : String → Plugin → Prop}

theorem none (h : ps.Distinct) : Adds ps source ps :=
  ⟨rfl, h, List.prefix_refl _, fun _ _ hq => .inl hq⟩

theorem one (h : ps.Distinct) {name : String} {q : Plugin} (fresh : ps.contains name = false)
    (hq : source name q) : Adds ps source ⟨ps.entries ++ [(name, q)], ps.loaded⟩ := by
  refine ⟨rfl, h.concat ?_ q, List.prefix_append _ _, fun n r hr => ?_⟩
  · rw [← contains_iff, fresh]
    exact Bool.false_ne_true
  · rcases List.mem_append.mp hr with hr | hr
    · exact .inl hr
    · cases List.mem_singleton.mp hr
      exact .inr hq

theorem trans (h : Adds ps source between) (h' : Adds between source after) : Adds ps source after := by
  refine ⟨h'.loaded.trans h.loaded, h'.distinct, h.kept.trans h'.kept, fun n q hq => ?_⟩
  rcases h'.new n q hq with hq | hq
  · exact h.new n q hq
  · exact .inr hq

theorem andThen {s : Search} {next : Plugins → Search} (h : Adds ps source s.plugins)
    (hnext : ∀ {between : Plugins}, between.Distinct → Adds between source (next between).plugins) :
    Adds ps source (s.andThen next).plugins :=
  Search.andThen_plugins h (h.trans (hnext h.distinct))

theorem mono (h : Adds ps source after) (hmore : ∀ n q, source n q → more n q) : Adds ps more after :=
  ⟨h.loaded, h.distinct, h.kept, fun n q hq => (h.new n q hq).imp_right (hmore n q)⟩

end Adds

/-- What is added are instances. -/
theorem Adds.advances {ps after : Plugins} {source : String → Plugin → Prop} (h : Adds ps source after)
    (instances : ∀ n q, source n q → q.instantiated = true) : Advances ps after := by
  refine ⟨h.distinct, fun n q hq _ => h.kept.subset hq, fun n q hq hclass => ?_⟩
  rcases h.new n q hq with hq | hq
  · exact hq
  · cases hclass.symm.trans (instances n q hq)

theorem FromFile.instantiated {files : List PluginFile} {name : String} {q : Plugin}
    (h : FromFile files name q) : q.instantiated = true := by
  obtain ⟨f, -, classes, -, -, -, c, -, -, -, -, -, hinstantiated⟩ := h
  exact hinstantiated

/-! ### Classes of a file -/

/-- The plugins after a class of a file is taken up: its instance is added if the name is free. -/
def takeUp (ps : Plugins) (name : String) (kc : Nat × DefinedClass) : Plugins :=
  if kc.2.isLoadable && !ps.contains name then
    ⟨ps.entries ++ [(name, ⟨kc.2.cls, kc.1, true⟩)], ps.loaded⟩
  else ps

/-- An instance is registered unless a mishap prevents it or the name is taken; one with a flaw is
there although its registration fails. What is more than a mishap stops the search with nothing added. -/
theorem takeClass_cases (ps : Plugins) (name path : String) (created : Nat) {c : DefinedClass}
    (own : c.imported = false) (hook : c.cls.hasHook = true) :
    let s := ps.takeClass name path created c.cls
    let made := ∀ r, c.cls.making = .raises r → r.isTaken = true
    (made ∧ s.stopped = none ∧ s.plugins = ps.takeUp name (created, c)) ∨
      (¬ made ∧ s.stopped ≠ none ∧ s.plugins = ps) := by
  have htakeUp : ps.takeUp name (created, c) = if c.cls.instantiable && !ps.contains name then
      ⟨ps.entries ++ [(name, ⟨c.cls, created, true⟩)], ps.loaded⟩ else ps := by
    simp [takeUp, DefinedClass.isLoadable, own, hook]
  rw [htakeUp, takeClass, PluginClass.instantiable]
  cases c.cls.making with
  | raises r =>
    cases htaken : r.isTaken with
    | true => exact .inl (by simp [htaken])
    | false => exact .inr (by simp [htaken])
  | fresh | shared =>
    cases hcontains : ps.contains name with
    | true => exact .inl (by simp)
    | false => cases c.cls.flaw true <;> exact .inl (by simp)

/-- A class is taken up unless it is one of the file's own that is not tame. Then the search is stopped
with nothing added. -/
theorem addClass_cases (name path : String) (ps : Plugins) (created : Nat) (c : DefinedClass) :
    let s := addClass name path ps (created, c)
    let tame := c.imported = false → c.cls.Tame
    (tame ∧ s.stopped = none ∧ s.plugins = ps.takeUp name (created, c)) ∨
      (¬ tame ∧ s.stopped ≠ none ∧ s.plugins = ps) := by
  have hpasses : c.isLoadable = false → ps.takeUp name (created, c) = ps := fun h => by simp [takeUp, h]
  cases himported : c.imported with
  | true =>
    exact .inl ⟨nofun, by simp [addClass, himported, hpasses, DefinedClass.isLoadable]⟩
  | false =>
    cases hinspection : c.cls.inspection with
    | some r =>
      have hwild : ¬ (false = false → c.cls.Tame) := fun h => by
        cases hinspection.symm.trans (h rfl).inspected
      exact .inr ⟨hwild, by simp [addClass, himported, hinspection]⟩
    | none =>
      cases hhook : c.cls.hasHook with
      | false =>
        exact .inl ⟨fun _ => ⟨hinspection, by simp [hhook]⟩,
          by simp [addClass, himported, hinspection, hhook, hpasses, DefinedClass.isLoadable]⟩
      | true =>
        have hclass : addClass name path ps (created, c) = ps.takeClass name path created c.cls := by
          simp [addClass, himported, hinspection, hhook]
        rw [hclass]
        obtain ⟨made, h⟩ | ⟨hnot, h⟩ := takeClass_cases ps name path created himported hhook
        · exact .inl ⟨fun _ => ⟨hinspection, fun _ => made⟩, h⟩
        · exact .inr ⟨fun h => hnot ((h rfl).made hhook), h⟩

theorem addClass_stopped_eq_none_iff {name path : String} {ps : Plugins} {kc : Nat × DefinedClass} :
    (addClass name path ps kc).stopped = none ↔ (kc.2.imported = false → kc.2.cls.Tame) := by
  obtain ⟨htame, hgoing, -⟩ | ⟨hwild, hstopped, -⟩ := addClass_cases name path ps kc.1 kc.2
  · exact iff_of_true hgoing htame
  · exact iff_of_false hstopped hwild

theorem addClass_plugins_of_going {name path : String} {ps : Plugins} {kc : Nat × DefinedClass}
    (h : (addClass name path ps kc).stopped = none) :
    (addClass name path ps kc).plugins = ps.takeUp name kc := by
  obtain ⟨-, -, hplugins⟩ | ⟨-, hstopped, -⟩ := addClass_cases name path ps kc.1 kc.2
  · exact hplugins
  · exact absurd h hstopped

theorem takeUp_adds (name : String) {ps : Plugins} (h : ps.Distinct) (kc : Nat × DefinedClass) :
    Adds ps (fun n q => n = name ∧ FromClass [kc.2] q) (ps.takeUp name kc) := by
  unfold takeUp
  split
  · next htakes =>
    obtain ⟨hloadable, hfresh⟩ := Bool.and_eq_true_iff.mp htakes
    obtain ⟨⟨himported, hhook⟩, hinstantiable⟩ : (kc.2.imported = false ∧ kc.2.cls.hasHook = true) ∧
        kc.2.cls.instantiable = true := by simpa [DefinedClass.isLoadable] using hloadable
    exact .one h (by simpa using hfresh)
      ⟨rfl, kc.2, List.mem_singleton_self _, himported, hhook, hinstantiable, rfl, rfl⟩
  · exact .none h

theorem addClass_adds (name path : String) {ps : Plugins} (h : ps.Distinct) (kc : Nat × DefinedClass) :
    Adds ps (fun n q => n = name ∧ FromClass [kc.2] q) (addClass name path ps kc).plugins := by
  obtain ⟨-, -, hplugins⟩ | ⟨-, -, hplugins⟩ := addClass_cases name path ps kc.1 kc.2
  · rw [hplugins]
    exact takeUp_adds name h kc
  · rw [hplugins]
    exact .none h

/-- Taking up classes of a file, it may be stopped at one, adds instances of them under one name. -/
theorem addClasses_adds (name path : String) {ps : Plugins} (h : ps.Distinct)
    (classes : List (Nat × DefinedClass)) : Adds ps (fun n q => n = name ∧ FromClass (classes.map (·.2)) q)
      (ps.addClasses name path classes).plugins := by
  induction classes generalizing ps with
  | nil => exact .none h
  | cons kc rest ih =>
    refine ((addClass_adds name path h kc).mono ?_).andThen fun hbetween => (ih hbetween).mono ?_
    · rintro n q ⟨hn, c, hc, hq⟩
      exact ⟨hn, c, List.mem_cons.mpr (.inl (List.mem_singleton.mp hc)), hq⟩
    · rintro n q ⟨hn, c, hc, hq⟩
      exact ⟨hn, c, List.mem_cons_of_mem _ hc, hq⟩

theorem addClasses_stopped_eq_none_iff {name path : String} {ps : Plugins}
    {classes : List (Nat × DefinedClass)} : (ps.addClasses name path classes).stopped = none ↔
      ∀ kc ∈ classes, kc.2.imported = false → kc.2.cls.Tame := by
  induction classes generalizing ps with
  | nil => simp [addClasses, Search.each]
  | cons kc rest ih =>
    show ((addClass name path ps kc).andThen fun ps => ps.addClasses name path rest).stopped = none ↔ _
    rw [Search.andThen_stopped_eq_none_iff, addClass_stopped_eq_none_iff, ih, List.forall_mem_cons]

/-! ### Files -/

theorem loading_of_classes {f : PluginFile} {cs : List DefinedClass} (h : f.classes = some cs) :
    f.loading = .classes cs := by
  unfold PluginFile.classes at h
  split at h
  · next hloading => rw [hloading, Option.some.inj h]
  · cases h
  · cases h

theorem mem_of_mem_definedClasses {first : Nat} {classes : List DefinedClass} {kc : Nat × DefinedClass}
    (h : kc ∈ definedClasses first classes) : kc.2 ∈ classes := by
  obtain ⟨⟨name, kc⟩, hmem, rfl⟩ := List.mem_map.mp h
  obtain ⟨p, hp, hvalue⟩ := Ordered.value_of_mem_ofList (List.mem_mergeSort.mp hmem)
  obtain ⟨⟨k, c⟩, hkc, rfl⟩ := List.mem_map.mp hp
  cases hvalue
  exact (List.of_mem_zip hkc).2

/-- A file is taken up when it is tame. -/
theorem addFile_stopped_eq_none_iff {ps : Plugins} {directory : String} {created : Nat} {f : PluginFile} :
    (ps.addFile directory created f).stopped = none ↔ f.Tame := by
  unfold addFile PluginFile.Tame
  cases f.loading with
  | raises r => cases htaken : r.isTaken <;> simp [htaken]
  | closed r => simp
  | classes cs =>
    dsimp only
    rw [addClasses_stopped_eq_none_iff]
    constructor
    · intro h c hseen
      obtain ⟨place, hmem⟩ := exists_mem_definedClasses_iff.mpr hseen
      exact h (place, c) hmem
    · exact fun h kc hmem => h kc.2 (exists_mem_definedClasses_iff.mp ⟨kc.1, hmem⟩)

/-- A file that cannot be loaded and looked through changes nothing. -/
theorem addFile_plugins_of_closed {f : PluginFile} (h : f.classes = none) (ps : Plugins) (directory : String)
    (created : Nat) : (ps.addFile directory created f).plugins = ps := by
  unfold PluginFile.classes at h
  unfold addFile
  cases hloading : f.loading with
  | raises r => cases htaken : r.isTaken <;> simp [htaken]
  | closed r => rfl
  | classes cs =>
    rw [hloading] at h
    cases h

theorem addFile_adds (directory : String) {ps : Plugins} (h : ps.Distinct) (created : Nat) {f : PluginFile}
    (hf : f.isLoaded = true) : Adds ps (FromFile [f]) (ps.addFile directory created f).plugins := by
  cases hclasses : f.classes with
  | none =>
    rw [addFile_plugins_of_closed hclasses]
    exact .none h
  | some cs =>
    rw [addFile, loading_of_classes hclasses]
    refine (addClasses_adds f.pluginName _ h _).mono ?_
    rintro n q ⟨rfl, c, hc, hq⟩
    obtain ⟨kc, hkc, rfl⟩ := List.mem_map.mp hc
    exact ⟨f, List.mem_singleton_self _, cs, hclasses, hf, rfl, kc.2, mem_of_mem_definedClasses hkc, hq⟩

/-- Taking up files, it may be stopped at one, adds instances of their classes. -/
theorem addFiles_adds (directory : String) {ps : Plugins} (h : ps.Distinct) (created : Nat)
    {files : List PluginFile} (hloaded : ∀ f ∈ files, f.isLoaded = true) :
    Adds ps (FromFile files) (ps.addFiles directory created files).plugins := by
  induction files generalizing ps created with
  | nil => exact .none h
  | cons f rest ih =>
    obtain ⟨hf, hrest⟩ := List.forall_mem_cons.mp hloaded
    refine ((addFile_adds directory h created hf).mono ?_).andThen fun hbetween =>
      (ih hbetween _ hrest).mono ?_
    · rintro n q ⟨f', hf', hq⟩
      exact ⟨f', List.mem_cons.mpr (.inl (List.mem_singleton.mp hf')), hq⟩
    · rintro n q ⟨f', hf', hq⟩
      exact ⟨f', List.mem_cons_of_mem _ hf', hq⟩

theorem addFiles_stopped_eq_none_iff {ps : Plugins} {directory : String} {created : Nat}
    {files : List PluginFile} :
    (ps.addFiles directory created files).stopped = none ↔ ∀ f ∈ files, f.Tame := by
  induction files generalizing ps created with
  | nil => simp [addFiles]
  | cons f rest ih =>
    rw [addFiles, Search.andThen_stopped_eq_none_iff, addFile_stopped_eq_none_iff, ih, List.forall_mem_cons]

/-- What tame files add is added without those that cannot be loaded. -/
theorem addFiles_filter {ps : Plugins} {directory : String} {created : Nat} {files : List PluginFile}
    (h : ∀ f ∈ files, f.Tame) :
    (ps.addFiles directory created (files.filter fun f => f.classes.isSome)).plugins =
      (ps.addFiles directory created files).plugins := by
  induction files generalizing ps created with
  | nil => rfl
  | cons f rest ih =>
    obtain ⟨hf, hrest⟩ := List.forall_mem_cons.mp h
    have hgoing : (ps.addFile directory created f).stopped = none := addFile_stopped_eq_none_iff.mpr hf
    have hfile : (ps.addFiles directory created (f :: rest)).plugins =
        ((ps.addFile directory created f).plugins.addFiles directory
          (created + (f.classes.getD []).length) rest).plugins := Search.andThen_plugins_of_going hgoing
    rw [hfile, ← ih hrest]
    cases hclasses : f.classes with
    | none =>
      rw [List.filter_cons_of_neg (by simp [hclasses]), addFile_plugins_of_closed hclasses]
      rfl
    | some classes =>
      rw [List.filter_cons_of_pos (by simp [hclasses]), ← hclasses]
      exact Search.andThen_plugins_of_going hgoing

/-! ### The search -/

/-- What a search leaves behind. -/
structure Searched (before : Plugins) (files : List PluginFile) (after : Plugins) : Prop where
  loaded : after.loaded = true
  distinct : after.Distinct
  /-- What is no class with a marked hook is untouched. -/
  kept : ∀ name p, (name, p) ∈ before.entries → p.isRaw = false → (name, p) ∈ after.entries
  /-- A class with a marked hook has an instance under its name. -/
  replaced : ∀ name p, (name, p) ∈ before.entries → p.isRaw = true → p.cls.instantiable = true →
    (name, p.instanced) ∈ after.entries
  /-- One that cannot be instantiated is gone, and only a file can have taken its name. -/
  dropped : ∀ name p, (name, p) ∈ before.entries → p.isRaw = true → p.cls.instantiable = false →
    ∀ q, (name, q) ∈ after.entries → FromFile files name q
  /-- There is nothing else but what comes from files. -/
  only : ∀ name q, (name, q) ∈ after.entries →
    (∃ p, (name, p) ∈ before.entries ∧ p.settled = some q) ∨ FromFile files name q
  /-- No class with a marked hook is left. -/
  instantiated : ∀ name q, (name, q) ∈ after.entries → q.isRaw = false

/-- Plugins that are added to settled ones are what a search leaves behind. -/
theorem Distinct.searched {ps after : Plugins} (h : ps.Distinct) {files : List PluginFile}
    (adds : Adds (ps.visited.foldl Plugins.settle ps) (FromFile files) after) :
    Searched ps files ⟨after.entries, true⟩ := by
  obtain ⟨-, hmem⟩ := h.settled
  have hsettled : ∀ name p q, (name, p) ∈ ps.entries → p.settled = some q → (name, q) ∈ after.entries :=
    fun name p q hp hq => adds.kept.subset ((hmem name q).mpr ⟨p, hp, hq⟩)
  have honly : ∀ name q, (name, q) ∈ after.entries →
      (∃ p, (name, p) ∈ ps.entries ∧ p.settled = some q) ∨ FromFile files name q :=
    fun name q hq => (adds.new name q hq).imp_left (hmem name q).mp
  refine ⟨rfl, adds.distinct, fun name p hp hraw => ?_, fun name p hp hraw hinst => ?_,
    fun name p hp hraw hinst q hq => ?_, honly, fun name q hq => ?_⟩
  · refine hsettled name p p hp ?_
    rw [Plugin.settled, hraw, if_neg Bool.false_ne_true]
  · refine hsettled name p _ hp ?_
    rw [Plugin.settled, if_pos hraw, if_pos hinst]
  · rcases honly name q hq with ⟨p', hp', hq'⟩ | hfile
    · -- the plugin of the name is the one that is dropped
      rw [h.plugin_unique hp' hp, Plugin.settled, if_pos hraw, hinst, if_neg Bool.false_ne_true] at hq'
      cases hq'
    · exact hfile
  · rcases honly name q hq with ⟨p, -, hsettles⟩ | ⟨f, -, classes, -, -, -, c, -, -, -, -, -, hinst⟩
    · exact Plugin.isRaw_of_settled hsettles
    · rw [Plugin.isRaw, hinst]
      rfl

/-- The files of a directory, none if there is no directory or it cannot be listed. -/
def filesIn : Option (String × Listing) → List PluginFile
  | some (_, .ok files) => files
  | some (_, .error _) | none => []

/-- A directory without the files that are passed over or cannot be loaded. -/
def usableIn (directory : Option (String × Listing)) : Option (String × Listing) :=
  directory.map fun (path, listing) => (path, listing.map fun files => files.filter (·.isUsable))

/-- Nothing that a search meets stops it. -/
structure Clear (ps : Plugins) (directory : Option (String × Listing)) : Prop where
  settles : ∀ name p, (name, p) ∈ ps.entries → p.TameIn ps
  listed : ∀ path r, directory ≠ some (path, .error r)
  tame : ∀ f ∈ filesIn directory, f.isLoaded = true → f.Tame

theorem mem_loadedFiles_iff {files : List PluginFile} {f : PluginFile} :
    f ∈ loadedFiles files ↔ f ∈ files ∧ f.isLoaded = true := by
  rw [loadedFiles, List.mem_mergeSort, List.mem_filter]

theorem loadedFiles_singleton {f : PluginFile} (h : f.isLoaded = true) : loadedFiles [f] = [f] := by
  rw [loadedFiles, List.filter_cons_of_pos h]
  exact List.mergeSort_singleton f

theorem addDirectory_stopped_eq_none_iff {ps : Plugins} {created : Nat}
    {directory : Option (String × Listing)} : (ps.addDirectory created directory).stopped = none ↔
      (∀ path r, directory ≠ some (path, .error r)) ∧
        ∀ f ∈ filesIn directory, f.isLoaded = true → f.Tame := by
  match directory with
  | none => simp [addDirectory, filesIn]
  | some (path, .error r) => simp [addDirectory]
  | some (path, .ok files) =>
    rw [addDirectory, addFiles_stopped_eq_none_iff]
    simp [filesIn, mem_loadedFiles_iff]

theorem addDirectory_adds {ps : Plugins} (h : ps.Distinct) (created : Nat)
    (directory : Option (String × Listing)) :
    Adds ps (FromFile (filesIn directory)) (ps.addDirectory created directory).plugins := by
  match directory with
  | none | some (path, .error r) => exact .none h
  | some (path, .ok files) =>
    refine (addFiles_adds path h created fun f hf => (mem_loadedFiles_iff.mp hf).2).mono ?_
    rintro n q ⟨f, hf, hq⟩
    exact ⟨f, (mem_loadedFiles_iff.mp hf).1, hq⟩

/-- Where nothing stops a search, it comes to the same without the files that are passed over or cannot be
loaded. -/
theorem addDirectory_usableIn {ps : Plugins} {created : Nat} {directory : Option (String × Listing)}
    (h : (ps.addDirectory created directory).stopped = none) :
    (ps.addDirectory created (usableIn directory)).stopped = none ∧
      (ps.addDirectory created (usableIn directory)).plugins =
        (ps.addDirectory created directory).plugins := by
  match directory with
  | none => exact ⟨h, rfl⟩
  | some (path, .error r) => cases h
  | some (path, .ok files) =>
    have htame : ∀ f ∈ loadedFiles files, f.Tame := addFiles_stopped_eq_none_iff.mp h
    have htame' : ∀ f ∈ loadedFiles (files.filter (·.isUsable)), f.Tame := fun f hf => by
      obtain ⟨hmem, hloaded⟩ := mem_loadedFiles_iff.mp hf
      exact htame f (mem_loadedFiles_iff.mpr ⟨List.mem_of_mem_filter hmem, hloaded⟩)
    -- among the files that can be loaded, the same are loaded
    have hsame : (loadedFiles (files.filter (·.isUsable))).filter (·.classes.isSome) =
        (loadedFiles files).filter (·.classes.isSome) := by
      unfold loadedFiles
      rw [Sorting.filter_mergeSort (Sorting.key_trans fun f : PluginFile => f.name) (Sorting.key_total _),
        Sorting.filter_mergeSort (Sorting.key_trans fun f : PluginFile => f.name) (Sorting.key_total _),
        List.filter_filter, List.filter_filter, List.filter_filter]
      congr 1
      refine List.filter_congr fun f _ => ?_
      unfold PluginFile.isUsable PluginFile.isLoaded
      cases f.classes.isSome <;> cases f.name.startsWith "_" <;> simp
    refine ⟨addFiles_stopped_eq_none_iff.mpr htame', ?_⟩
    show (ps.addFiles path created _).plugins = (ps.addFiles path created _).plugins
    rw [← addFiles_filter htame, ← addFiles_filter htame', hsame]

/-- How far a search comes, stopped or not. -/
theorem search_advances {ps : Plugins} (h : ps.Distinct) (created : Nat)
    (directory : Option (String × Listing)) : Advances ps (ps.search created directory).plugins := by
  have hsettled := h.settleEntries_advances
  have hadds := addDirectory_adds hsettled.distinct created directory
  have hall : Advances ps ((ps.settleEntries ps.visited).andThen
      fun ps => ps.addDirectory created directory).plugins :=
    Search.andThen_plugins hsettled (hsettled.trans (hadds.advances fun _ _ hq => hq.instantiated))
  exact Search.andThen_plugins hall ⟨hall.distinct, hall.kept, hall.old⟩

/-- A search is not stopped when neither the settling nor the directory stops it. -/
theorem search_stopped_eq_none_iff {ps : Plugins} {created : Nat} {directory : Option (String × Listing)} :
    (ps.search created directory).stopped = none ↔ (ps.settleEntries ps.visited).stopped = none ∧
      ((ps.visited.foldl settle ps).addDirectory created directory).stopped = none := by
  rw [search, Search.andThen_stopped_eq_none_iff, Search.andThen_stopped_eq_none_iff,
    and_iff_left (Search.reached_stopped _)]
  exact and_congr_right fun hsettles => by rw [settleEntries_plugins_of_going hsettles]

/-- It has the plugins settled then, and those of the directory added. -/
theorem search_plugins_of_going {ps : Plugins} {created : Nat} {directory : Option (String × Listing)}
    (h : (ps.search created directory).stopped = none) : (ps.search created directory).plugins =
      ⟨((ps.visited.foldl settle ps).addDirectory created directory).plugins.entries, true⟩ := by
  obtain ⟨hboth, -⟩ := Search.andThen_stopped_eq_none_iff.mp h
  obtain ⟨hsettles, -⟩ := Search.andThen_stopped_eq_none_iff.mp hboth
  rw [search, Search.andThen_plugins_of_going hboth, Search.andThen_plugins_of_going hsettles,
    settleEntries_plugins_of_going hsettles]
  rfl

theorem discover_returns_iff_going {ps : Plugins} {created : Nat} {directory : Option (String × Listing)} :
    (ps.discover created directory).Returns ↔ (ps.search created directory).stopped = none :=
  ⟨fun ⟨_, h⟩ => (Search.run_ok_iff.mp h).1, fun h => ⟨_, Search.run_ok_iff.mpr ⟨h, rfl⟩⟩⟩

theorem discover_returns_iff_clear {ps : Plugins} (h : ps.Distinct) (apart : ps.Apart) {created : Nat}
    {directory : Option (String × Listing)} :
    (ps.discover created directory).Returns ↔ Clear ps directory := by
  rw [discover_returns_iff_going, search_stopped_eq_none_iff, h.settles_iff apart,
    addDirectory_stopped_eq_none_iff]
  exact ⟨fun ⟨settles, listed, tame⟩ => ⟨settles, listed, tame⟩,
    fun ⟨settles, listed, tame⟩ => ⟨settles, listed, tame⟩⟩

/-! ### Any history -/

/-- Names are distinct, and no class is registered twice. -/
structure Sound (ps : Plugins) : Prop where
  distinct : ps.Distinct
  apart : ps.Apart

theorem Sound.advances {ps after : Plugins} (h : ps.Sound) (advances : Advances ps after) : after.Sound :=
  ⟨advances.distinct, h.apart.advances advances⟩

/-- What a search has come to is what it leaves behind, stopped or not. -/
theorem after_discover (ps : Plugins) (created : Nat) (directory : Option (String × Listing)) :
    ps.after (.discover created directory) = (ps.search created directory).plugins := by
  cases h : (ps.search created directory).stopped with
  | none => exact after_of_ok (Search.run_ok_iff.mpr ⟨h, rfl⟩)
  | some f =>
    have hstops : (ps.perform (.discover created directory)).result = .error f := by
      show (ps.search created directory).run.result = _
      unfold Search.run
      rw [h]
    unfold after
    rw [hstops]
    rfl

theorem Sound.after_register {ps : Plugins} (h : ps.Sound) (given : Option String) (p : Plugin) :
    (ps.after (.change (.register given p))).Sound := by
  have hentries := after_register_entries ps given p
  cases htaken : ps.contains (p.nameOr given) || ps.holds p with
  | true =>
    rw [htaken, if_pos rfl] at hentries
    refine h.advances ⟨?_, fun n q hq _ => hentries ▸ hq, fun n q hq _ => hentries ▸ hq⟩
    unfold Distinct
    rw [hentries]
    exact h.distinct
  | false =>
    rw [htaken, if_neg Bool.false_ne_true] at hentries
    obtain ⟨hcontains, hholds⟩ := Bool.or_eq_false_iff.mp htaken
    have hfresh : p.nameOr given ∉ ps.entries.map (·.1) := by
      rw [← contains_iff, hcontains]
      exact Bool.false_ne_true
    refine ⟨?_, fun n m q r hq hr hqc hrc hcreated => ?_⟩
    · unfold Distinct
      rw [hentries]
      exact h.distinct.concat hfresh p
    · -- a class that has the place of the new one is the new one
      have hnew : ∀ n q, (n, q) ∈ ps.entries → q.instantiated = p.instantiated → q.created ≠ p.created := by
        intro n q hq hinstantiated hsame
        have hholds' : ps.holds p = true :=
          List.any_eq_true.mpr ⟨_, hq, by simp [Plugin.same, hinstantiated, hsame]⟩
        cases hholds.symm.trans hholds'
      rw [hentries, List.mem_append, List.mem_singleton, Prod.mk.injEq] at hq hr
      rcases hq with hq | ⟨rfl, rfl⟩ <;> rcases hr with hr | ⟨rfl, rfl⟩
      · exact h.apart n m q r hq hr hqc hrc hcreated
      · exact absurd hcreated (hnew n q hq (hqc.trans hrc.symm))
      · exact absurd hcreated.symm (hnew m r hr (hrc.trans hqc.symm))
      · rfl

theorem Sound.after_unregister {ps : Plugins} (h : ps.Sound) (q : Plugin) :
    (ps.after (.change (.unregister q))).Sound := by
  have hmem : ∀ e ∈ (ps.after (.change (.unregister q))).entries, e ∈ ps.entries := fun e he => by
    rw [after_unregister_entries] at he
    exact List.mem_of_mem_filter he
  refine ⟨?_, fun n m p r hp hr => h.apart n m p r (hmem _ hp) (hmem _ hr)⟩
  unfold Distinct
  rw [after_unregister_entries]
  exact h.distinct.filter _

/-- One call keeps the plugins sound, whether it returns or not. -/
theorem Sound.after {ps : Plugins} (h : ps.Sound) (call : Call) : (ps.after call).Sound := by
  match call with
  | .change (.register given p) => exact h.after_register given p
  | .change (.unregister q) => exact h.after_unregister q
  | .discover created directory =>
    rw [after_discover]
    exact h.advances (search_advances h.distinct created directory)

theorem Sound.afterAll {ps : Plugins} (h : ps.Sound) (calls : List Call) : (ps.afterAll calls).Sound := by
  induction calls generalizing ps with
  | nil => exact h
  | cons call rest ih => exact ih (h.after call)

end Plugins

end Rulebook
