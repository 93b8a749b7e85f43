import Rulebook.Proofs.Files.Places
import Rulebook.Proofs.Run
import Rulebook.Proofs.Settings.Precedence

/-!
The configuration file in use. Unless a variable names one, it is that of the deepest directory, of the starting one
and those above it, in which its name is a file's; a directory of that name is passed over. One that a variable names
is used wherever one starts, and if it is no file there is none. Settings that are asked for without a file and without
a root are read from the file that is found, and have its directory as their root.
-/

namespace Rulebook.Settings

variable {w : Surroundings} {file : Path}

/-- A directory of a tree has a configuration file. -/
def HasConfig (t : Tree) (directory : List String) : Prop :=
  ∃ text, t.at? (directory ++ [configName]) = some (.file text)

/-- The file is that of the deepest directory on the way to a place that has one. -/
def IsNearest (t : Tree) (here file : Path) : Prop :=
  ∃ d, d <+: here.parts ∧ HasConfig t d ∧
    (∀ d', d' <+: here.parts → HasConfig t d' → d'.length ≤ d.length) ∧
    file = ⟨here.origin, d ++ [configName]⟩

section Directory

variable {directory : Path} (absolute : directory.isAbsolute = true) (plain : ".." ∉ directory.parts)

include absolute plain

theorem isFile_child_iff : w.isFile (directory.child configName) = true ↔ HasConfig w.tree directory.parts := by
  refine Surroundings.isFile_iff_at? absolute fun hup => ?_
  rcases List.mem_append.mp hup with hup | hup
  · exact plain hup
  · exact absurd hup (by decide)

theorem configIn_eq_some_iff : configIn w directory = some file ↔
    HasConfig w.tree directory.parts ∧ file = directory.child configName := by
  rw [← isFile_child_iff absolute plain, eq_comm (a := file)]
  exact Option.ite_some_none_eq_some

theorem configIn_eq_none_iff : configIn w directory = none ↔ ¬ HasConfig w.tree directory.parts := by
  rw [← isFile_child_iff absolute plain]
  exact ite_eq_right_iff.trans (by simp)

end Directory

section Upwards

variable (absolute : w.directory.isAbsolute = true) (start : Path)

include absolute

/-- The directories on the way to where one starts are spelt from the root, without steps up. -/
theorem spelt_of_prefix {d : List String} (hd : d <+: (Path.resolve w.directory start).parts) :
    (⟨(Path.resolve w.directory start).origin, d⟩ : Path).isAbsolute = true ∧ ".." ∉ d :=
  ⟨Path.isAbsolute_join absolute start, fun hup => Path.plain_resolve w.directory start (hd.subset hup)⟩

theorem nearestConfig_eq_some_iff : nearestConfig w start = some file ↔
    IsNearest w.tree (Path.resolve w.directory start) file := by
  rw [nearestConfig, Path.findSome?_lineage_eq_some_iff]
  refine exists_congr fun d => and_congr_right fun hd => ?_
  obtain ⟨habsolute, hplain⟩ := spelt_of_prefix absolute start hd
  have hdeepest : (∀ d', d' <+: (Path.resolve w.directory start).parts → d.length < d'.length →
        configIn w ⟨(Path.resolve w.directory start).origin, d'⟩ = none) ↔
      ∀ d', d' <+: (Path.resolve w.directory start).parts → HasConfig w.tree d' → d'.length ≤ d.length := by
    refine forall_congr' fun d' => forall_congr' fun hd' => ?_
    obtain ⟨habsolute', hplain'⟩ := spelt_of_prefix absolute start hd'
    rw [configIn_eq_none_iff habsolute' hplain', ← Nat.not_lt]
    exact imp_not_comm
  rw [configIn_eq_some_iff habsolute hplain, hdeepest, and_assoc]
  exact and_congr_right fun _ => and_comm

theorem nearestConfig_eq_none_iff : nearestConfig w start = none ↔
    ∀ d, d <+: (Path.resolve w.directory start).parts → ¬ HasConfig w.tree d := by
  rw [nearestConfig, List.findSome?_eq_none_iff]
  constructor
  · intro h d hd
    obtain ⟨habsolute, hplain⟩ := spelt_of_prefix absolute start hd
    exact (configIn_eq_none_iff habsolute hplain).mp (h _ (Path.mem_lineage.mpr ⟨d, hd, rfl⟩))
  · intro h p hp
    obtain ⟨d, hd, rfl⟩ := Path.mem_lineage.mp hp
    obtain ⟨habsolute, hplain⟩ := spelt_of_prefix absolute start hd
    exact (configIn_eq_none_iff habsolute hplain).mpr (h d hd)

end Upwards

/-! ### The file in use -/

/-- Nothing is said of the file where the variable is not set or empty. -/
theorem findConfig_of_unset (unset : w.valueOf? configVariable = none ∨ w.valueOf? configVariable = some "")
    (start : Option Path) : findConfig w start = nearestConfig w (start.getD w.directory) := by
  unfold findConfig
  rcases unset with h | h <;> rw [h] <;> rfl

theorem findConfig_of_set {named : String} (set : w.valueOf? configVariable = some named) (hnamed : named ≠ "")
    (start : Option Path) :
    findConfig w start = some file ↔ file = .ofText named ∧ ∃ text, w.look file = .file text := by
  have hname : ¬ named.isEmpty = true := fun h => hnamed (String.isEmpty_iff.mp h)
  have hfind : findConfig w start = if w.isFile (.ofText named) then some (.ofText named) else none := by
    unfold findConfig
    rw [set, Option.getD_some, if_neg hname]
  rw [hfind, Option.ite_some_none_eq_some, and_comm, eq_comm, ← Surroundings.isFile_iff]
  refine and_congr_right fun h => ?_
  rw [h]

/-- What is found is a file. -/
theorem look_of_findConfig {start : Option Path} (h : findConfig w start = some file) :
    ∃ text, w.look file = .file text := by
  by_cases unset : w.valueOf? configVariable = none ∨ w.valueOf? configVariable = some ""
  · rw [findConfig_of_unset unset] at h
    obtain ⟨directory, -, hin⟩ := List.exists_of_findSome?_eq_some h
    obtain ⟨hfile, rfl⟩ := Option.ite_some_none_eq_some.mp hin
    exact Surroundings.isFile_iff.mp hfile
  · obtain ⟨hnone, hempty⟩ := not_or.mp unset
    obtain ⟨named, hnamed⟩ := Option.ne_none_iff_exists'.mp hnone
    have hne : named ≠ "" := by
      rintro rfl
      exact hempty hnamed
    exact ((findConfig_of_set hnamed hne start).mp h).2

/-- The settings that the layer of a file gives with the environment and a request over it. -/
def Request.read (w : Surroundings) (r : Request) (root : Path) (config : Option Path) (lower : Layer) :
    Except Refusal Settings :=
  (environmentLayer w).bind fun environment =>
    match ofLayer? root config ((lower.overlay environment).overlay r.layer) with
    | some s => .ok (s.withPlugins r.plugins)
    | none => .error .badValue

namespace Request

variable {r : Request} {root : Path} {config : Option Path} {lower : Layer} {s : Settings}

theorem place_of_read (h : r.read w root config lower = .ok s) : s.root = root ∧ s.config = config := by
  unfold read at h
  obtain ⟨environment, -, h⟩ := Except.bind_ok_iff.mp h
  split at h
  · next read hread =>
    cases h
    obtain ⟨-, -, hroot, hconfig, -⟩ := ofLayer?_eq_some_iff.mp hread
    cases r.plugins with
    | none => exact ⟨hroot, hconfig⟩
    | some enabled => exact ⟨hroot, hconfig⟩
  · cases h

end Request

/-- A request without a file and without a root is read from the file that is found, with its directory as root. -/
theorem load_of_found {r : Request} (hconfig : r.config = "") (hroot : r.root = none)
    (hfound : findConfig w none = some file) :
    ∃ text, w.look file = .file text ∧
      load w r = (fileLayer file text).bind (r.read w file.parent (some file)) := by
  obtain ⟨text, htext⟩ := look_of_findConfig hfound
  have hfile : r.configFile w = .ok (some file) := by
    rw [Request.configFile, hconfig, hroot, hfound]
    rfl
  have hlayer : configLayer w (some file) = fileLayer file text := by
    rw [configLayer, htext]
  refine ⟨text, htext, ?_⟩
  rw [load_eq, hfile, Except.bind, hlayer, Request.rootFor, hroot]
  rfl

theorem load_of_none_found {r : Request} (hconfig : r.config = "") (hroot : r.root = none)
    (hfound : findConfig w none = none) : load w r = r.read w w.directory none [] := by
  have hfile : r.configFile w = .ok none := by
    rw [Request.configFile, hconfig, hroot, hfound]
    rfl
  have hplace : r.rootFor w none = w.directory := by
    rw [Request.rootFor, hroot]
    rfl
  rw [load_eq, hfile, Except.bind, hplace]
  rfl

/-- The nearest configuration file wins, unless a variable names one, which then settles the matter alone; the
settings are read from the file in use, and are for the directory that it is in. -/
theorem findConfig_nearest (absolute : w.directory.isAbsolute = true) :
    ((w.valueOf? configVariable = none ∨ w.valueOf? configVariable = some "") → ∀ start : Option Path,
      let here := Path.resolve w.directory (start.getD w.directory)
      (w.look (start.getD w.directory) = .directory →
        ∃ entries, w.tree.at? here.parts = some (.directory entries)) ∧
      (∀ file, findConfig w start = some file ↔ IsNearest w.tree here file) ∧
      (findConfig w start = none ↔ ∀ d, d <+: here.parts → ¬ HasConfig w.tree d)) ∧
    (∀ named, w.valueOf? configVariable = some named → named ≠ "" → ∀ start file,
      findConfig w start = some file ↔ file = .ofText named ∧ ∃ text, w.look file = .file text) ∧
    ∀ r : Request, r.config = "" → r.root = none →
      (∀ file, findConfig w none = some file → ∃ text, w.look file = .file text ∧
        load w r = (fileLayer file text).bind (r.read w file.parent (some file))) ∧
      (findConfig w none = none → load w r = r.read w w.directory none []) ∧
      ∀ s, load w r = .ok s → s.config = findConfig w none ∧
        s.root = ((findConfig w none).map Path.parent).getD w.directory := by
  refine ⟨fun unset start => ?_, fun named set hnamed start file => findConfig_of_set set hnamed start,
    fun r hconfig hroot => ?_⟩
  · rw [findConfig_of_unset unset]
    exact ⟨Surroundings.at?_resolve, fun file => nearestConfig_eq_some_iff absolute _,
      nearestConfig_eq_none_iff absolute _⟩
  · refine ⟨fun file => load_of_found hconfig hroot, load_of_none_found hconfig hroot, fun s hs => ?_⟩
    cases hfound : findConfig w none with
    | none =>
      rw [load_of_none_found hconfig hroot hfound] at hs
      exact (Request.place_of_read hs).symm
    | some file =>
      obtain ⟨text, -, hload⟩ := load_of_found hconfig hroot hfound
      rw [hload] at hs
      obtain ⟨lower, -, hs⟩ := Except.bind_ok_iff.mp hs
      exact (Request.place_of_read hs).symm

/-- Two directories down from a configuration file, past a directory of its name. -/
def nested : Surroundings where
  tree := .directory [(configName, .file "quiet = true\n"),
    ("a", .directory [(configName, .directory []), ("b", .directory [])])]
  directory := ⟨.root, ["a", "b"]⟩
  environment := []

theorem findConfig_nearest_nested :
    nested.directory.isAbsolute = true ∧ nested.valueOf? configVariable = none ∧
      findConfig nested none = some ⟨.root, [configName]⟩ ∧
      ∃ s, load nested .plain = .ok s ∧ s.config = some ⟨.root, [configName]⟩ ∧ s.root = ⟨.root, []⟩ := by
  obtain ⟨hunset, -, hload⟩ := findConfig_nearest (w := nested) rfl
  obtain ⟨-, hnearest, -⟩ := hunset (.inl rfl) none
  have hfound : findConfig nested none = some ⟨.root, [configName]⟩ := by
    refine (hnearest _).mpr ⟨[], List.nil_prefix, ⟨_, rfl⟩, fun d' hd' ⟨text, htext⟩ => ?_, rfl⟩
    have hd : d' ∈ List.inits ["a", "b"] := (List.mem_inits ..).mpr hd'
    fin_cases hd
    · exact Nat.le_refl 0
    · cases htext
    · cases htext
  have hloads : (load nested .plain).toOption.isSome = true := by decide +kernel
  cases hs : load nested .plain with
  | error e =>
    rw [hs] at hloads
    cases hloads
  | ok s =>
    obtain ⟨hconfig, hroot⟩ := (hload .plain rfl rfl).2.2 s hs
    rw [hfound] at hconfig hroot
    exact ⟨rfl, rfl, hfound, s, rfl, hconfig, hroot⟩

end Rulebook.Settings
