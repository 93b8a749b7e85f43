import Rulebook.Proofs.Settings.Environment

/-!
Precedence of settings. Each setting has the value that the highest layer gives to that very setting: the
request, the environment, the configuration file, and where none gives any its own. A section that one layer
gives in part is completed from the layers below. Whether plugins are enabled can be said beside the layers;
that changes nothing else.
-/

namespace Rulebook

namespace Layer

/-- A layer that is read into settings has values of use. -/
theorem usable_of_ofLayer? {root : Path} {config : Option Path} {layer : Layer} {s : Settings}
    (h : Settings.ofLayer? root config layer = some s) : layer.Usable := by
  obtain ⟨known, sectioned, -, -, reads⟩ := Settings.ofLayer?_eq_some_iff.mp h
  refine ⟨known, sectioned, fun k v hv => ?_⟩
  have hk := reads k
  rw [reads?, hv] at hk
  exact Option.isSome_of_eq_some hk

end Layer

namespace Settings

variable {w : Surroundings} {r : Request} {config : Option Path} {file environment : Layer}

/-- Settings are read from the layers as they lie over one another, unless one of them is refused. -/
theorem load_eq (w : Surroundings) (r : Request) : load w r =
    (r.configFile w).bind fun config => (configLayer w config).bind fun file =>
      (environmentLayer w).bind fun environment =>
        match ofLayer? (r.rootFor w config) config ((file.overlay environment).overlay r.layer) with
        | some s => .ok (s.withPlugins r.plugins)
        | none => .error .badValue := by
  unfold load
  cases r.configFile w with
  | error e => rfl
  | ok config =>
    cases configLayer w config with
    | error e => rfl
    | ok file =>
      cases environmentLayer w with
      | error e => rfl
      | ok environment => rfl

theorem load_of_no_config {e : Refusal} (hconfig : r.configFile w = .error e) : load w r = .error e := by
  rw [load_eq, hconfig]
  rfl

theorem load_of_refused {e : Refusal} (hconfig : r.configFile w = .ok config)
    (hfile : configLayer w config = .error e) : load w r = .error e := by
  rw [load_eq, hconfig, Except.bind, hfile]
  rfl

theorem load_of_bad_environment {e : Refusal} (hconfig : r.configFile w = .ok config)
    (hfile : configLayer w config = .ok file) (henvironment : environmentLayer w = .error e) :
    load w r = .error e := by
  rw [load_eq, hconfig, Except.bind, hfile, Except.bind, henvironment]
  rfl

theorem load_of_layers (hconfig : r.configFile w = .ok config) (hfile : configLayer w config = .ok file)
    (henvironment : environmentLayer w = .ok environment) : load w r =
      match ofLayer? (r.rootFor w config) config ((file.overlay environment).overlay r.layer) with
      | some s => .ok (s.withPlugins r.plugins)
      | none => .error .badValue := by
  rw [load_eq, hconfig, Except.bind, hfile, Except.bind, henvironment]
  rfl

/-- Of requests for the same file from the same root, the settings are related as what is read from the layers
is. -/
theorem load_eq_map {r' : Request} (f : Settings → Settings) (hfile : r'.configFile w = r.configFile w)
    (hread : ∀ config lower,
      (ofLayer? (r'.rootFor w config) config (Layer.overlay lower r'.layer)).map (·.withPlugins r'.plugins) =
        ((ofLayer? (r.rootFor w config) config (lower.overlay r.layer)).map (·.withPlugins r.plugins)).map f) :
    load w r' = (load w r).map f := by
  cases hconfig : r.configFile w with
  | error e => rw [load_of_no_config hconfig, load_of_no_config (hfile.trans hconfig)]; rfl
  | ok config =>
    have hconfig' := hfile.trans hconfig
    cases hlayer : configLayer w config with
    | error e => rw [load_of_refused hconfig hlayer, load_of_refused hconfig' hlayer]; rfl
    | ok file =>
      cases henvironment : environmentLayer w with
      | error e =>
        rw [load_of_bad_environment hconfig hlayer henvironment,
          load_of_bad_environment hconfig' hlayer henvironment]
        rfl
      | ok environment =>
        have h := hread config (file.overlay environment)
        rw [load_of_layers hconfig hlayer henvironment, load_of_layers hconfig' hlayer henvironment]
        cases hs : ofLayer? (r.rootFor w config) config ((file.overlay environment).overlay r.layer) with
        | none =>
          rw [hs] at h
          rw [Option.map_eq_none_iff.mp h]
          rfl
        | some s =>
          rw [hs] at h
          obtain ⟨s', hs', h⟩ := Option.map_eq_some_iff.mp h
          rw [hs']
          exact congrArg Except.ok h

/-- What is said of plugins beside the layers is set in what the layers give. -/
theorem load_plugins (w : Surroundings) (r : Request) (enabled : Bool) :
    load w { r with plugins := some enabled } = (load w { r with plugins := none }).map
      fun s => { s with plugins := { s.plugins with enabled } } := by
  refine load_eq_map _ rfl fun config lower => ?_
  show (ofLayer? (r.rootFor w config) config (lower.overlay r.layer)).map _ =
    ((ofLayer? (r.rootFor w config) config (lower.overlay r.layer)).map _).map _
  rw [Option.map_map]
  rfl

/-- What the layers give to a setting, from the highest to the lowest. -/
def given (w : Surroundings) (r : Request) (file : Layer) (k : Setting) : List (Option Value) :=
  [r.layer.at? k, w.gives? k, file.at? k, some k.fallback]

/-- Layers with values of use are read into settings of which the highest layer that gives one settles it. -/
theorem exists_load (hconfig : r.configFile w = .ok config) (hfile : configLayer w config = .ok file)
    (husable : file.Usable) (fit : w.Fit) (hdistinct : r.layer.Distinct) (hrequest : r.layer.Usable) :
    ∃ s : Settings, load w r = .ok (s.withPlugins r.plugins) ∧ s.root = r.rootFor w config ∧
      s.config = config ∧ ∀ k, (given w r file k).reduceOption.head?.bind k.read? = some (s.value k) := by
  obtain ⟨environment, henvironment, hdistinctE, husableE, hgives⟩ := environmentLayer_eq fit
  have hlower := husable.overlay hdistinctE husableE
  obtain ⟨s, hs⟩ := (hlower.overlay hdistinct hrequest).exists_settings (r.rootFor w config) config
  obtain ⟨-, -, hroot, hconf, hreads⟩ := ofLayer?_eq_some_iff.mp hs
  refine ⟨s, ?_, hroot, hconf, fun k => ?_⟩
  · rw [load_of_layers hconfig hfile henvironment, hs]
  · have hk := hreads k
    rw [Layer.reads?, Layer.at?_overlay_of_usable hdistinct hlower.sectioned hrequest,
      Layer.at?_overlay_of_usable hdistinctE husable.sectioned husableE, hgives] at hk
    rw [← hk]
    unfold given
    cases r.layer.at? k <;> cases w.gives? k <;> cases file.at? k <;> rfl

/-- The highest layer that gives a setting settles it, key by key at every depth; what is said of plugins
beside the layers replaces that one value. -/
theorem load_highest (w : Surroundings) (r : Request) :
    (∀ enabled, load w { r with plugins := some enabled } = (load w { r with plugins := none }).map
      fun s => { s with plugins := { s.plugins with enabled } }) ∧
    ∀ config file, r.configFile w = .ok config → configLayer w config = .ok file → file.Usable → w.Fit →
      r.layer.Distinct → r.layer.Usable →
      ∃ s, load w { r with plugins := none } = .ok s ∧ s.root = r.rootFor w config ∧ s.config = config ∧
        ∀ k, (given w r file k).reduceOption.head?.bind k.read? = some (s.value k) :=
  ⟨load_plugins w r, fun _ _ hconfig hfile husable fit hdistinct hrequest =>
    exists_load (r := { r with plugins := none }) hconfig hfile husable fit hdistinct hrequest⟩

/-- A directory whose file sets a flag and a key of a section, called with two variables: one for the flag
and one for another key of the section. -/
def project : Surroundings where
  tree := .directory [("jsonrules.toml", .file "quiet = true\n[plugins]\nenabled = false\n")]
  directory := ⟨.root, []⟩
  environment := [("JSONRULES_QUIET", "off"), ("JSONRULES_PLUGINS__LOCAL_DIR", "mine")]

/-- The layer of its file. -/
def projectLayer : Layer :=
  [(.text "quiet", .bool true), (.text "plugins", .object [(.text "enabled", .bool false)])]

theorem fit_project : project.Fit := by
  refine .of_no_documents (fun k part hk => ?_) (fun k part hk => ?_) (fun k => ?_)
  · cases k <;> cases hk <;> decide
  · cases k <;> cases hk <;> decide
  · cases k <;> decide +kernel

theorem load_highest_project :
    ∃ s, load project { Request.plain with layer := [(.text "verbose", .bool true)] } = .ok s ∧
      ∀ k, (given project { Request.plain with layer := [(.text "verbose", .bool true)] }
        projectLayer k).reduceOption.head?.bind k.read? = some (s.value k) := by
  have hfile : ∃ s, ofLayer? ⟨.root, []⟩ none projectLayer = some s :=
    Option.isSome_iff_exists.mp (by decide +kernel)
  have hrequest : ∃ s, ofLayer? ⟨.root, []⟩ none [(.text "verbose", .bool true)] = some s :=
    Option.isSome_iff_exists.mp (by decide +kernel)
  have hdistinct : Layer.Distinct [(.text "verbose", .bool true)] := by
    refine ⟨by decide, fun part => ?_⟩
    have hkeys : Layer.keysOf [(.text "verbose", .bool true)] part = [] := by
      unfold Layer.keysOf
      rw [Layer.get?_cons]
      split_ifs <;> rfl
    rw [hkeys]
    exact List.nodup_nil
  obtain ⟨s, hs, -, -, hvalue⟩ := (load_highest project
    { Request.plain with layer := [(.text "verbose", .bool true)] }).2
    (some ⟨.root, ["jsonrules.toml"]⟩) projectLayer (by cbv) (by cbv)
    (Layer.usable_of_ofLayer? hfile.choose_spec) fit_project hdistinct
    (Layer.usable_of_ofLayer? hrequest.choose_spec)
  exact ⟨s, hs, hvalue⟩

end Settings

end Rulebook
