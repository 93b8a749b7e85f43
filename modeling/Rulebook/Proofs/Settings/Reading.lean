import Rulebook.Settings.Load
import Rulebook.Proofs.Settings.Layering

/-!
Reading settings. A setting stands in a layer under its name or, if it is a key of a section, in the section.
A layer is read into settings exactly when all its names have a meaning, its sections are objects, and
each setting is given a value of use or none at all; the settings then have these values, and their own
where nothing is given.
-/

namespace Rulebook

/-- The settings that a layer can give. -/
inductive Setting where
  | jsonOutput | quiet | verbose | logJson | failOnUnknownRules | pluginsEnabled | localDirectory
  deriving DecidableEq

namespace Setting

/-- The section that a setting is a key of. -/
def section? : Setting → Option String
  | failOnUnknownRules => some "check"
  | pluginsEnabled | localDirectory => some "plugins"
  | _ => none

/-- The name of a setting, in its section if it has one. -/
def name : Setting → String
  | jsonOutput => "json_output"
  | quiet => "quiet"
  | verbose => "verbose"
  | logJson => "log_json"
  | failOnUnknownRules => "fail_on_unknown_rules"
  | pluginsEnabled => "enabled"
  | localDirectory => "local_dir"

/-- The value of a setting that nothing gives. -/
def fallback : Setting → Value
  | pluginsEnabled => .bool true
  | localDirectory => .text ".jsonrules/plugins"
  | _ => .bool false

/-- The value that is given to a setting by one that is of use: a directory takes a text, and the others
take what stands for a truth value. -/
def read? : Setting → Value → Option Value
  | localDirectory, v => v.text?.map .text
  | _, v => v.flag?.map .bool

/-- What is of use is no object. -/
theorem isObject_of_read? {k : Setting} {v : Value} (h : (k.read? v).isSome) : v.isObject = false := by
  cases v with
  | object members => cases k <;> cases h
  | scalar s => rfl
  | list items => rfl

end Setting

/-- The value of a setting. -/
def Settings.value (s : Settings) : Setting → Value
  | .jsonOutput => .bool s.jsonOutput
  | .quiet => .bool s.quiet
  | .verbose => .bool s.verbose
  | .logJson => .bool s.logJson
  | .failOnUnknownRules => .bool s.check.failOnUnknownRules
  | .pluginsEnabled => .bool s.plugins.enabled
  | .localDirectory => .text s.plugins.localDirectory

namespace Layer

/-- The keys of a section; without one there are none. -/
def keysOf (layer : Layer) (part : String) : Layer :=
  match layer.get? part with
  | some (.object keys) => keys
  | _ => []

/-- What a layer gives to a setting. -/
def at? (layer : Layer) (k : Setting) : Option Value :=
  match k.section? with
  | none => layer.get? k.name
  | some part => (layer.keysOf part).get? k.name

/-- What is given under a name is an object. -/
def SectionAt (layer : Layer) (part : String) : Prop := ∀ v, layer.get? part = some v → v.isObject = true

/-- The sections are objects. -/
structure Sectioned (layer : Layer) : Prop where
  check : layer.SectionAt "check"
  plugins : layer.SectionAt "plugins"

theorem Sectioned.at {layer : Layer} (h : layer.Sectioned) {k : Setting} {part : String}
    (hk : k.section? = some part) : layer.SectionAt part := by
  cases k <;> cases hk
  · exact h.check
  · exact h.plugins
  · exact h.plugins

/-- All names of a layer have a meaning. -/
def Known (layer : Layer) : Prop := List.all layer (fun (name, _) => Settings.isKnown name) = true

theorem section?_eq_some_iff {layer keys : Layer} {part : String} :
    layer.section? part = some keys ↔ layer.SectionAt part ∧ layer.keysOf part = keys := by
  unfold section? SectionAt keysOf
  rcases layer.get? part with - | (s | items | members) <;> simp [Value.isObject]

theorem flag?_eq_some_iff {layer : Layer} {name : String} {d b : Bool} : layer.flag? name d = some b ↔
    (((layer.get? name).getD (.bool d)).flag?.map Value.bool) = some (.bool b) := by
  unfold flag?
  cases layer.get? name <;> simp [Value.flag?]

theorem text?_eq_some_iff {layer : Layer} {name d s : String} : layer.text? name d = some s ↔
    (((layer.get? name).getD (.text d)).text?.map Value.text) = some (.text s) := by
  unfold text?
  cases layer.get? name <;> simp [Value.text?]

/-- What is read for a setting. -/
def reads? (layer : Layer) (k : Setting) : Option Value := k.read? ((layer.at? k).getD k.fallback)

end Layer

namespace Settings

variable {root : Path} {config : Option Path} {layer : Layer}

theorem checkOf?_eq_some_iff {c : CheckSettings} : checkOf? layer = some c ↔
    layer.SectionAt "check" ∧ layer.reads? .failOnUnknownRules = some (.bool c.failOnUnknownRules) := by
  unfold checkOf?
  simp only [Option.bind_eq_bind, Option.bind_eq_some_iff, Layer.section?_eq_some_iff,
    Layer.flag?_eq_some_iff]
  constructor
  · rintro ⟨keys, ⟨hpart, rfl⟩, b, hb, ⟨⟩⟩
    exact ⟨hpart, hb⟩
  · rintro ⟨hpart, hb⟩
    exact ⟨_, ⟨hpart, rfl⟩, _, hb, rfl⟩

theorem pluginsOf?_eq_some_iff {p : PluginSettings} : pluginsOf? layer = some p ↔
    layer.SectionAt "plugins" ∧ layer.reads? .pluginsEnabled = some (.bool p.enabled) ∧
      layer.reads? .localDirectory = some (.text p.localDirectory) := by
  unfold pluginsOf?
  simp only [Option.bind_eq_bind, Option.bind_eq_some_iff, Layer.section?_eq_some_iff,
    Layer.flag?_eq_some_iff, Layer.text?_eq_some_iff]
  constructor
  · rintro ⟨keys, ⟨hpart, rfl⟩, b, hb, s, hs, ⟨⟩⟩
    exact ⟨hpart, hb, hs⟩
  · rintro ⟨hpart, hb, hs⟩
    exact ⟨_, ⟨hpart, rfl⟩, _, hb, _, hs, rfl⟩

/-- A layer is read into settings when its names have a meaning, its sections are objects, and each
setting has the value that is read for it. -/
theorem ofLayer?_eq_some_iff {s : Settings} : ofLayer? root config layer = some s ↔
    layer.Known ∧ layer.Sectioned ∧ s.root = root ∧ s.config = config ∧
      ∀ k, layer.reads? k = some (s.value k) := by
  unfold ofLayer?
  simp only [Option.bind_eq_bind, Option.bind_eq_some_iff, checkOf?_eq_some_iff, pluginsOf?_eq_some_iff,
    Layer.flag?_eq_some_iff]
  constructor
  · rintro ⟨_, hknown, json, hjson, quiet, hquiet, verbose, hverbose, log, hlog, c, ⟨hcheck, hstrict⟩, p,
      ⟨hplugins, henabled, hdirectory⟩, ⟨⟩⟩
    refine ⟨?_, ⟨hcheck, hplugins⟩, rfl, rfl, fun k => ?_⟩
    · unfold guard at hknown
      split at hknown
      · assumption
      · cases hknown
    · cases k <;> assumption
  · rintro ⟨hknown, ⟨hcheck, hplugins⟩, rfl, rfl, hread⟩
    refine ⟨(), ?_, _, hread .jsonOutput, _, hread .quiet, _, hread .verbose, _, hread .logJson, s.check,
      ⟨hcheck, hread .failOnUnknownRules⟩, s.plugins, ⟨hplugins, hread .pluginsEnabled,
      hread .localDirectory⟩, rfl⟩
    exact if_pos hknown

end Settings

namespace Layer

/-- A layer whose names have a meaning and whose values are of use. -/
structure Usable (layer : Layer) : Prop where
  known : layer.Known
  sectioned : layer.Sectioned
  reads : ∀ k v, layer.at? k = some v → (k.read? v).isSome

/-- Each name stands for one value at most, and so does each key of a section. -/
structure Distinct (layer : Layer) : Prop where
  names : layer.names.Nodup
  keys : ∀ part, (layer.keysOf part).names.Nodup

/-- A layer whose values are of use is read into settings. -/
theorem Usable.exists_settings {layer : Layer} (h : layer.Usable) (root : Path) (config : Option Path) :
    ∃ s, Settings.ofLayer? root config layer = some s := by
  have hread : ∀ k, ∃ v, layer.reads? k = some v := by
    intro k
    unfold reads?
    cases hk : layer.at? k with
    | none => cases k <;> exact ⟨_, rfl⟩
    | some v => exact Option.isSome_iff_exists.mp (h.reads k v hk)
  have hflag : ∀ k, k ≠ .localDirectory → ∃ b, layer.reads? k = some (.bool b) := by
    intro k hne
    obtain ⟨v, hv⟩ := hread k
    cases k <;> first
      | exact absurd rfl hne
      | obtain ⟨b, -, rfl⟩ := Option.map_eq_some_iff.mp hv
        exact ⟨b, hv⟩
  obtain ⟨json, hjson⟩ := hflag .jsonOutput (by decide)
  obtain ⟨quiet, hquiet⟩ := hflag .quiet (by decide)
  obtain ⟨verbose, hverbose⟩ := hflag .verbose (by decide)
  obtain ⟨log, hlog⟩ := hflag .logJson (by decide)
  obtain ⟨strict, hstrict⟩ := hflag .failOnUnknownRules (by decide)
  obtain ⟨enabled, henabled⟩ := hflag .pluginsEnabled (by decide)
  obtain ⟨v, hv⟩ := hread .localDirectory
  obtain ⟨directory, -, rfl⟩ := Option.map_eq_some_iff.mp hv
  refine ⟨⟨root, config, json, quiet, verbose, log, ⟨strict⟩, ⟨enabled, directory⟩⟩, ?_⟩
  refine Settings.ofLayer?_eq_some_iff.mpr ⟨h.known, h.sectioned, rfl, rfl, fun k => ?_⟩
  cases k <;> assumption

theorem usable_nil : Usable [] where
  known := rfl
  sectioned := ⟨fun _ h => (nomatch h), fun _ h => (nomatch h)⟩
  reads := by
    intro k v hv
    cases k <;> cases hv

theorem distinct_nil : Distinct [] := ⟨List.nodup_nil, fun _ => List.nodup_nil⟩

/-! ### One layer over another -/

variable {lower upper : Layer}

theorem known_overlay_iff : (lower.overlay upper).Known ↔ lower.Known ∧ upper.Known := by
  have same : ∀ k k' : Scalar, (k == k') = true → Settings.isKnown k = Settings.isKnown k' := by
    intro k k' h
    cases k' with
    | text s => rw [(Scalar.beq_text k s).mp h]
    | _ => cases k <;> first | rfl | cases (Scalar.text_beq _ _).mp h
  unfold Known
  rw [all_overlay same, Bool.and_eq_true]

theorem SectionAt.overlay {part : String} (nodup : upper.names.Nodup) (hlower : lower.SectionAt part)
    (hupper : upper.SectionAt part) : (lower.overlay upper).SectionAt part := by
  intro v hv
  rw [get?_overlay nodup] at hv
  cases hu : upper.get? part with
  | none =>
    rw [hu] at hv
    exact hlower v hv
  | some u =>
    have hobject := hupper u hu
    rw [hu] at hv
    cases hl : lower.get? part with
    | none =>
      rw [hl] at hv
      cases hv
      exact hobject
    | some l =>
      rw [hl] at hv
      cases hv
      cases u <;> cases hobject
      cases l <;> rfl

/-- A key of a section shows through an upper section that leaves it out. -/
theorem get?_keysOf_overlay {part : String} (distinct : upper.Distinct) (hlower : lower.SectionAt part)
    (hupper : upper.SectionAt part) (name : String) : ((lower.overlay upper).keysOf part).get? name =
      Value.shown ((lower.keysOf part).get? name) ((upper.keysOf part).get? name) := by
  have hkeys := distinct.keys part
  unfold keysOf at hkeys ⊢
  rw [get?_overlay distinct.names]
  cases hu : upper.get? part with
  | none => cases lower.get? part <;> rfl
  | some u =>
    have hobject := hupper u hu
    rw [hu] at hkeys
    cases u <;> cases hobject
    next us =>
    cases hl : lower.get? part with
    | none => cases h : Layer.get? us name <;> simp [Value.shown, h]
    | some l =>
      have hlobject := hlower l hl
      cases l <;> cases hlobject
      exact get?_overlay hkeys _ name

/-- What shows of a setting where one layer lies over another. -/
theorem at?_overlay (distinct : upper.Distinct) (hlower : lower.Sectioned) (hupper : upper.Sectioned)
    (k : Setting) : (lower.overlay upper).at? k = Value.shown (lower.at? k) (upper.at? k) := by
  unfold at?
  cases hk : k.section? with
  | none => exact get?_overlay distinct.names lower k.name
  | some part => exact get?_keysOf_overlay distinct (hlower.at hk) (hupper.at hk) k.name

/-- What the upper layer gives to a setting goes before what the lower one gives. -/
theorem at?_overlay_of_usable (distinct : upper.Distinct) (hlower : lower.Sectioned)
    (hupper : upper.Usable) (k : Setting) :
    (lower.overlay upper).at? k = (upper.at? k).or (lower.at? k) := by
  rw [at?_overlay distinct hlower hupper.sectioned]
  exact Value.shown_of_not_object (fun v hv => Setting.isObject_of_read? (hupper.reads k v hv)) _

theorem Sectioned.overlay (nodup : upper.names.Nodup) (hlower : lower.Sectioned)
    (hupper : upper.Sectioned) : (lower.overlay upper).Sectioned :=
  ⟨hlower.check.overlay nodup hupper.check, hlower.plugins.overlay nodup hupper.plugins⟩

theorem Usable.overlay (distinct : upper.Distinct) (hlower : lower.Usable) (hupper : upper.Usable) :
    (lower.overlay upper).Usable := by
  refine ⟨known_overlay_iff.mpr ⟨hlower.known, hupper.known⟩,
    hlower.sectioned.overlay distinct.names hupper.sectioned, fun k v hv => ?_⟩
  rw [at?_overlay_of_usable distinct hlower.sectioned hupper, Option.or_eq_some_iff] at hv
  rcases hv with hv | ⟨-, hv⟩
  · exact hupper.reads k v hv
  · exact hlower.reads k v hv

end Layer

end Rulebook
