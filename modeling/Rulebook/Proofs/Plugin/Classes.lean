import Mathlib
import Rulebook.Plugin.Discovery
import Rulebook.Proofs.Value.Ordered

/-!
The classes of files. A class has its place among all classes by the files before its own and the classes
before it in its file. One that a later one of its file hides under its name is not seen when the file is
taken up.
-/

namespace Rulebook

/-- Whether a class of a file is to be loaded: the file defines it, it has a marked hook, and an instance
can be made of it. -/
def DefinedClass.isLoadable (c : DefinedClass) : Bool :=
  !c.imported && c.cls.hasHook && c.cls.instantiable

/-- A class where a file has it. -/
structure PlacedClass where
  file : PluginFile
  /-- The place in the order of creation. -/
  place : Nat
  defined : DefinedClass
  /-- The classes that the file has after it. -/
  later : List DefinedClass

namespace PlacedClass

/-- Whether the file has another class of the name after it. -/
def isHidden (c : PlacedClass) : Bool := c.later.any fun d => d.cls.name == c.defined.cls.name

/-- The instance of the class. -/
def plugin (c : PlacedClass) : Plugin := ⟨c.defined.cls, c.place, true⟩

end PlacedClass

/-- The classes of a file where it has them, the first at a place. -/
def PluginFile.placed (f : PluginFile) (first : Nat) : List DefinedClass → List PlacedClass
  | [] => []
  | c :: rest => ⟨f, first, c, rest⟩ :: f.placed (first + 1) rest

/-- The classes of some files where they have them, numbered from `created` on. -/
def placedClasses (created : Nat) : List PluginFile → List PlacedClass
  | [] => []
  | f :: rest =>
    f.placed created (f.classes.getD []) ++
      placedClasses (created + (f.classes.getD []).length) rest

/-! ### The classes that are seen -/

theorem PluginFile.map_place_placed (f : PluginFile) (first : Nat) (classes : List DefinedClass) :
    (f.placed first classes).map (·.place) = List.range' first classes.length := by
  induction classes generalizing first with
  | nil => rfl
  | cons c rest ih => simp [placed, ih, List.range'_succ]

theorem PluginFile.file_of_mem_placed (f : PluginFile) {first : Nat} {classes : List DefinedClass}
    {c : PlacedClass} (h : c ∈ f.placed first classes) : c.file = f := by
  induction classes generalizing first with
  | nil => cases h
  | cons d rest ih =>
    rcases List.mem_cons.mp h with rfl | h
    · rfl
    · exact ih h

theorem map_place_placedClasses (created : Nat) (files : List PluginFile) :
    (placedClasses created files).map (·.place) =
      List.range' created (placedClasses created files).length := by
  induction files generalizing created with
  | nil => rfl
  | cons f rest ih =>
    have hlength : (f.placed created (f.classes.getD [])).length = (f.classes.getD []).length := by
      simpa using congrArg List.length (f.map_place_placed created (f.classes.getD []))
    rw [placedClasses, List.map_append, ih, f.map_place_placed, List.length_append, hlength,
      List.range'_append_1]

/-- No two classes have one place. -/
theorem nodup_map_place (created : Nat) (files : List PluginFile) :
    ((placedClasses created files).map (·.place)).Nodup := by
  rw [map_place_placedClasses]
  exact List.nodup_range'

theorem eq_of_place_eq {created : Nat} {files : List PluginFile} {c d : PlacedClass}
    (hc : c ∈ placedClasses created files) (hd : d ∈ placedClasses created files)
    (hplace : c.place = d.place) : c = d :=
  List.inj_on_of_nodup_map (nodup_map_place created files) hc hd hplace

theorem numbered_cons (first : Nat) (c : DefinedClass) (rest : List DefinedClass) :
    numbered first (c :: rest) = (c.cls.name, first, c) :: numbered (first + 1) rest := by
  simp [numbered, List.range'_succ]

theorem map_name_numbered (first : Nat) (classes : List DefinedClass) :
    (numbered first classes).map (·.1) = classes.map (·.cls.name) := by
  induction classes generalizing first with
  | nil => rfl
  | cons c rest ih => simp [numbered_cons, ih]

/-- Of the classes of one name the last is seen. -/
theorem get?_numbered (f : PluginFile) {first : Nat} {classes : List DefinedClass} {name : String}
    {place : Nat} {d : DefinedClass} :
    Ordered.get? name (Ordered.ofList (numbered first classes)) = some (place, d) ↔
      ∃ c ∈ f.placed first classes, c.isHidden = false ∧ d.cls.name = name ∧ c.place = place ∧
        c.defined = d := by
  induction classes generalizing first with
  | nil => simp [numbered, PluginFile.placed, Ordered.ofList, Ordered.union, Ordered.get?]
  | cons c rest ih =>
    have hhidden : PlacedClass.isHidden ⟨f, first, c, rest⟩ = false ↔
        Ordered.get? c.cls.name (Ordered.ofList (numbered (first + 1) rest)) = none := by
      rw [Ordered.get?_ofList_eq_none_iff, map_name_numbered]
      simp [PlacedClass.isHidden]
    rw [numbered_cons, Ordered.get?_ofList_cons (Ordered.apart_of_lawful name), PluginFile.placed]
    cases hrest : Ordered.get? name (Ordered.ofList (numbered (first + 1) rest)) with
    | none =>
      rw [Option.none_or]
      constructor
      · intro h
        split at h
        · next hbeq =>
          have hname : c.cls.name = name := beq_iff_eq.mp hbeq
          cases h
          exact ⟨_, List.mem_cons_self .., hhidden.mpr (hname ▸ hrest), hname, rfl, rfl⟩
        · cases h
      · rintro ⟨c', hc', hseen, rfl, rfl, rfl⟩
        rcases List.mem_cons.mp hc' with rfl | hc'
        · simp
        · have hsome := ih.mpr ⟨c', hc', hseen, rfl, rfl, rfl⟩
          rw [hrest] at hsome
          cases hsome
    | some found =>
      rw [Option.some_or, ← hrest, ih]
      constructor
      · rintro ⟨c', hc', hc⟩
        exact ⟨c', List.mem_cons_of_mem _ hc', hc⟩
      · rintro ⟨c', hc', hseen, rfl, rfl, rfl⟩
        rcases List.mem_cons.mp hc' with rfl | hc'
        · rw [hhidden.mp hseen] at hrest
          cases hrest
        · exact ⟨c', hc', hseen, rfl, rfl, rfl⟩

/-- The classes of a file that are taken up are those that are not hidden. -/
theorem mem_definedClasses_iff (f : PluginFile) {first : Nat} {classes : List DefinedClass}
    {place : Nat} {d : DefinedClass} : (place, d) ∈ definedClasses first classes ↔
      ∃ c ∈ f.placed first classes, c.isHidden = false ∧ c.place = place ∧ c.defined = d := by
  have nodup : ((Ordered.ofList (numbered first classes)).map (·.1)).Nodup :=
    Ordered.nodup_keys_union (m := []) List.nodup_nil _
  simp only [definedClasses, List.mem_map, List.mem_mergeSort]
  constructor
  · rintro ⟨⟨name, _⟩, hmem, rfl⟩
    rw [← Ordered.get?_eq_some_iff (Ordered.told_of_lawful _) nodup, get?_numbered f] at hmem
    rcases hmem with ⟨c, hc, hseen, -, hplace, hd⟩
    exact ⟨c, hc, hseen, hplace, hd⟩
  · rintro ⟨c, hc, hseen, rfl, rfl⟩
    refine ⟨(c.defined.cls.name, c.place, c.defined), ?_, rfl⟩
    rw [← Ordered.get?_eq_some_iff (Ordered.told_of_lawful _) nodup, get?_numbered f]
    exact ⟨c, hc, hseen, rfl, rfl, rfl⟩

/-- A class that no later one of its file hides. -/
def DefinedClass.SeenIn (classes : List DefinedClass) (c : DefinedClass) : Prop :=
  ∃ earlier later, classes = earlier ++ c :: later ∧ ∀ d ∈ later, d.cls.name ≠ c.cls.name

theorem seenIn_iff_placed (f : PluginFile) (first : Nat) {classes : List DefinedClass} {d : DefinedClass} :
    d.SeenIn classes ↔ ∃ c ∈ f.placed first classes, c.isHidden = false ∧ c.defined = d := by
  induction classes generalizing first with
  | nil => simp [DefinedClass.SeenIn, PluginFile.placed]
  | cons c rest ih =>
    have hhidden : PlacedClass.isHidden ⟨f, first, c, rest⟩ = false ↔
        ∀ d ∈ rest, d.cls.name ≠ c.cls.name := by
      simp [PlacedClass.isHidden]
    rw [PluginFile.placed, List.exists_mem_cons_iff, hhidden, ← ih (first + 1)]
    constructor
    · rintro ⟨earlier, later, hsplit, hlater⟩
      cases earlier with
      | nil =>
        cases hsplit
        exact .inl ⟨hlater, rfl⟩
      | cons e earlier =>
        cases hsplit
        exact .inr ⟨earlier, later, rfl, hlater⟩
    · rintro (⟨hlater, rfl⟩ | ⟨earlier, later, rfl, hlater⟩)
      · exact ⟨[], rest, rfl, hlater⟩
      · exact ⟨c :: earlier, later, rfl, hlater⟩

/-- Wherever the numbers of its classes start, a file has those taken up that are not hidden. -/
theorem exists_mem_definedClasses_iff {first : Nat} {classes : List DefinedClass} {d : DefinedClass} :
    (∃ place, (place, d) ∈ definedClasses first classes) ↔ d.SeenIn classes := by
  rw [seenIn_iff_placed ⟨"", .classes classes⟩ first]
  simp only [mem_definedClasses_iff ⟨"", .classes classes⟩]
  constructor
  · rintro ⟨place, c, hc, hseen, -, hd⟩
    exact ⟨c, hc, hseen, hd⟩
  · rintro ⟨c, hc, hseen, hd⟩
    exact ⟨c.place, c, hc, hseen, rfl, hd⟩

end Rulebook
