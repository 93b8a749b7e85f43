import Rulebook.Proofs.Command.Output

/-!
Switches on a line and the flags that they set. A request says of each flag whether its switch is on the line,
so the line settles all four. What the environment and the configuration file say of a flag is kept by a line
without its switch only where they leave the flag unset.
-/

namespace Rulebook

namespace Settings

/-- What is configured for a setting below any request. -/
def configured (w : Surroundings) (file : Layer) (k : Setting) : Option Value :=
  [w.gives? k, file.at? k, some k.fallback].reduceOption.head?.bind k.read?

theorem value_withPlugins (s : Settings) (plugins : Option Bool) {k : Setting} (hk : k ≠ .pluginsEnabled) :
    (s.withPlugins plugins).value k = s.value k := by
  cases plugins with
  | none => rfl
  | some enabled => cases k <;> first | rfl | exact absurd rfl hk

end Settings

namespace Command

/-- The switch that sets a flag. -/
def switchOf? : Setting → Option Switch
  | .jsonOutput => some .json
  | .quiet => some .quiet
  | .verbose => some .verbose
  | .logJson => some .logJson
  | _ => none

variable {l : Line}

/-- A request says of each flag whether its switch is on the line. -/
theorem at?_request {k : Setting} {s : Switch} (h : switchOf? k = some s) :
    (request l).layer.at? k = some (.bool (l.has s)) := by
  cases k <;> cases h <;> rfl

theorem distinct_request (l : Line) : (request l).layer.Distinct := by
  refine ⟨Settings.nodup_names_outputLayer, fun part => ?_⟩
  have hkeys : (request l).layer.keysOf part = [] := by
    unfold Layer.keysOf request
    simp only [Layer.get?_cons, Layer.get?_nil]
    split_ifs <;> rfl
  rw [hkeys]
  exact List.nodup_nil

theorem usable_request (l : Line) : (request l).layer.Usable where
  known := rfl
  sectioned := ⟨fun _ h => (nomatch h), fun _ h => (nomatch h)⟩
  reads := by
    intro k v hv
    cases k <;> cases hv <;> rfl

variable {w : Surroundings} {config : Option Path} {file : Layer}

/-- The line settles every flag. -/
theorem exists_settings (hconfig : (request l).configFile w = .ok config)
    (hfile : Settings.configLayer w config = .ok file) (husable : file.Usable) (fit : w.Fit) :
    ∃ s, settings w l = .ok s ∧
      ∀ k switch, switchOf? k = some switch → s.value k = .bool (l.has switch) := by
  obtain ⟨s, hload, -, -, hvalue⟩ :=
    Settings.exists_load hconfig hfile husable fit (distinct_request l) (usable_request l)
  refine ⟨s.withPlugins (request l).plugins, ?_, fun k switch hk => ?_⟩
  · unfold settings
    rw [hload]
    rfl
  · have hne : k ≠ .pluginsEnabled := by
      rintro rfl
      cases hk
    have hgiven := hvalue k
    rw [Settings.given, at?_request hk] at hgiven
    rw [Settings.value_withPlugins s _ hne]
    cases k <;> cases hk <;> exact (Option.some.inj hgiven).symm

/-- A flag whose switch is left out keeps what is configured for it exactly where that is unset. -/
theorem settings_flags (hconfig : (request l).configFile w = .ok config)
    (hfile : Settings.configLayer w config = .ok file) (husable : file.Usable) (fit : w.Fit) :
    ∃ s, settings w l = .ok s ∧ ∀ k switch, switchOf? k = some switch →
      s.value k = .bool (l.has switch) ∧
      (l.has switch = false → (Settings.configured w file k = some (s.value k) ↔
        Settings.configured w file k = some (.bool false))) := by
  obtain ⟨s, hs, hvalue⟩ := exists_settings hconfig hfile husable fit
  refine ⟨s, hs, fun k switch hk => ⟨hvalue k switch hk, fun hleft => ?_⟩⟩
  rw [hvalue k switch hk, hleft]

/-- A directory without files, called with a variable that sets a flag. -/
def hushed : Surroundings where
  tree := .directory []
  directory := ⟨.root, []⟩
  environment := [("JSONRULES_QUIET", "true")]

theorem fit_hushed : hushed.Fit := by
  refine .of_no_documents (fun k part hk => ?_) (fun k part hk => ?_) (fun k => ?_)
  · cases k <;> cases hk <;> decide
  · cases k <;> cases hk <;> decide
  · cases k <;> decide +kernel

theorem settings_flags_hushed : ∃ s, settings hushed ⟨[(.verbose, none)], []⟩ = .ok s ∧
    s.value .verbose = .bool true ∧ (Settings.configured hushed [] .logJson = some (s.value .logJson) ↔
      Settings.configured hushed [] .logJson = some (.bool false)) := by
  obtain ⟨s, hs, hflags⟩ := settings_flags (l := ⟨[(.verbose, none)], []⟩) (w := hushed)
    (by cbv : (request _).configFile hushed = .ok none) (rfl : Settings.configLayer hushed none = .ok [])
    Layer.usable_nil fit_hushed
  exact ⟨s, hs, (hflags .verbose .verbose rfl).1, (hflags .logJson .logJson rfl).2 (by decide)⟩

/-- A flag that a variable sets is dropped by a line that says nothing of it. -/
theorem settings_drops_variable : hushed.Fit ∧
    enterProgram hushed ["check", "r.json", "v.json"] = .ok ⟨[], ["check", "r.json", "v.json"]⟩ ∧
    Settings.configured hushed [] .quiet = some (.bool true) ∧
    ∃ s, settings hushed ⟨[], ["check", "r.json", "v.json"]⟩ = .ok s ∧ s.value .quiet = .bool false := by
  refine ⟨fit_hushed, by cbv, by cbv, ?_⟩
  obtain ⟨s, hs, hvalue⟩ := exists_settings (l := ⟨[], ["check", "r.json", "v.json"]⟩) (w := hushed)
    (by cbv : (request _).configFile hushed = .ok none) (rfl : Settings.configLayer hushed none = .ok [])
    Layer.usable_nil fit_hushed
  exact ⟨s, hs, hvalue .quiet .quiet rfl⟩

end Command

end Rulebook
