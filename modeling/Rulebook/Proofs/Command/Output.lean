import Rulebook.Command.Run
import Rulebook.Proofs.Settings.Precedence

/-!
Switches for output. Four switches say how results and the log are written. They set the four flags of the
settings that have their names and nothing else: the same line without them leads to the same settings but
for these flags, or to the same refusal.
-/

namespace Rulebook

/-- Whether a switch says how results and the log are written. -/
def Switch.isOutput : Switch → Bool
  | json | quiet | verbose | logJson => true
  | _ => false

namespace Line

/-- The line without the switches for output. -/
def withoutOutput (l : Line) : Line := { l with given := l.given.filter fun (s, _) => !s.isOutput }

theorem has_withoutOutput (l : Line) {s : Switch} (h : s.isOutput = false) :
    l.withoutOutput.has s = l.has s := by
  unfold has withoutOutput
  rw [List.any_filter]
  refine congrArg (List.any l.given) (funext fun p => ?_)
  by_cases hp : p.1 = s <;> simp [hp, h]

theorem has_withoutOutput_of_isOutput (l : Line) {s : Switch} (h : s.isOutput = true) :
    l.withoutOutput.has s = false := by
  unfold has withoutOutput
  rw [List.any_filter]
  refine List.any_eq_false.mpr fun p _ => ?_
  by_cases hp : p.1 = s <;> simp [hp, h]

theorem value?_withoutOutput (l : Line) {s : Switch} (h : s.isOutput = false) :
    l.withoutOutput.value? s = l.value? s := by
  unfold value? withoutOutput
  rw [List.filter_filter]
  refine congrArg (fun given : List (Switch × Option String) => (given.getLast?).bind (·.2)) ?_
  refine List.filter_congr fun p _ => ?_
  by_cases hp : p.1 = s <;> simp [hp, h]

theorem answered?_withoutOutput (l : Line) : l.withoutOutput.answered? = l.answered? := by
  unfold answered? withoutOutput
  rw [List.find?_filter]
  refine congrArg (Option.map _) (congrArg (List.find? · l.given) (funext fun p => ?_))
  obtain ⟨s, v⟩ := p
  cases s <;> rfl

end Line

/-- The settings with the flags for output as a line has them. -/
def Settings.withOutput (s : Settings) (l : Line) : Settings :=
  { s with
    jsonOutput := l.has .json, quiet := l.has .quiet, verbose := l.has .verbose, logJson := l.has .logJson }

namespace Settings

/-- A layer of the four flags for output. -/
def outputLayer (json quiet verbose logJson : Bool) : Layer :=
  [(.text "json_output", .bool json), (.text "quiet", .bool quiet), (.text "verbose", .bool verbose),
    (.text "log_json", .bool logJson)]

variable {json quiet verbose logJson : Bool}

theorem nodup_names_outputLayer : (outputLayer json quiet verbose logJson).names.Nodup := by
  show ["json_output", "quiet", "verbose", "log_json"].Nodup
  decide

/-- Other names show through the layer of the flags. -/
theorem get?_overlay_outputLayer (lower : Layer) {name : String} (h : name ∉ flagNames) :
    (lower.overlay (outputLayer json quiet verbose logJson)).get? name = lower.get? name := by
  have hnone : (outputLayer json quiet verbose logJson).get? name = none := by
    rw [Layer.get?_eq_none_iff]
    exact h
  rw [Layer.get?_overlay nodup_names_outputLayer, hnone]
  cases lower.get? name <;> rfl

/-- A flag of the layer lies over whatever is below. -/
theorem flag?_overlay_outputLayer (lower : Layer) {name : String} {b : Bool}
    (h : (outputLayer json quiet verbose logJson).get? name = some (.bool b)) :
    (lower.overlay (outputLayer json quiet verbose logJson)).flag? name false = some b := by
  unfold Layer.flag?
  rw [Layer.get?_overlay nodup_names_outputLayer, h,
    Value.shown_of_not_object (fun v hv => Option.some.inj hv ▸ rfl)]
  rfl

theorem section?_overlay_outputLayer (lower : Layer) {name : String} (h : name ∉ flagNames) :
    (lower.overlay (outputLayer json quiet verbose logJson)).section? name = lower.section? name := by
  unfold Layer.section?
  rw [get?_overlay_outputLayer lower h]

/-- Under the layer of the flags the rest of a layer is read as it is alone. -/
theorem ofLayer?_overlay_outputLayer (root : Path) (config : Option Path) (lower : Layer) :
    ofLayer? root config (lower.overlay (outputLayer json quiet verbose logJson)) =
      do
        guard (lower.all fun (name, _) => isKnown name)
        return ⟨root, config, json, quiet, verbose, logJson, ← checkOf? lower, ← pluginsOf? lower⟩ := by
  set upper := outputLayer json quiet verbose logJson with hupper
  have hknown : (List.all (lower.overlay upper) fun (name, _) => isKnown name) =
      lower.all fun (name, _) => isKnown name := by
    rw [Bool.eq_iff_iff]
    exact Layer.known_overlay_iff.trans (and_iff_left rfl)
  have hcheck : checkOf? (lower.overlay upper) = checkOf? lower := by
    unfold checkOf?
    rw [section?_overlay_outputLayer lower (by decide)]
  have hplugins : pluginsOf? (lower.overlay upper) = pluginsOf? lower := by
    unfold pluginsOf?
    rw [section?_overlay_outputLayer lower (by decide)]
  unfold ofLayer?
  rw [hknown, hcheck, hplugins, flag?_overlay_outputLayer (b := json) lower rfl,
    flag?_overlay_outputLayer (b := quiet) lower rfl, flag?_overlay_outputLayer (b := verbose) lower rfl,
    flag?_overlay_outputLayer (b := logJson) lower rfl]
  rfl

/-- The layer of the flags sets the flags, and nothing else. -/
theorem ofLayer?_overlay_eq_map (root : Path) (config : Option Path) (lower : Layer) :
    ofLayer? root config (lower.overlay (outputLayer json quiet verbose logJson)) =
      (ofLayer? root config (lower.overlay (outputLayer false false false false))).map fun s =>
        { s with jsonOutput := json, quiet := quiet, verbose := verbose, logJson := logJson } := by
  rw [ofLayer?_overlay_outputLayer, ofLayer?_overlay_outputLayer]
  cases lower.all fun (name, _) => isKnown name with
  | false => rfl
  | true => cases checkOf? lower <;> cases pluginsOf? lower <;> rfl

end Settings

namespace Command

open Settings

theorem request_withoutOutput (l : Line) : request l.withoutOutput =
    { request l with layer := outputLayer false false false false } := by
  unfold request
  rw [Line.value?_withoutOutput l rfl, Line.has_withoutOutput l (rfl : Switch.noPlugins.isOutput = false),
    Line.has_withoutOutput_of_isOutput l (rfl : Switch.json.isOutput = true),
    Line.has_withoutOutput_of_isOutput l (rfl : Switch.quiet.isOutput = true),
    Line.has_withoutOutput_of_isOutput l (rfl : Switch.verbose.isOutput = true),
    Line.has_withoutOutput_of_isOutput l (rfl : Switch.logJson.isOutput = true)]
  rfl

/-- The switches for output set the flags of the settings, and nothing else. -/
theorem load_request (w : Surroundings) (l : Line) :
    load w (request l) = (load w (request l.withoutOutput)).map (·.withOutput l) := by
  rw [request_withoutOutput]
  refine load_eq_map _ rfl fun config lower => ?_
  show (ofLayer? ((request l).rootFor w config) config (lower.overlay (outputLayer _ _ _ _))).map _ =
    ((ofLayer? ((request l).rootFor w config) config _).map _).map _
  rw [ofLayer?_overlay_eq_map, Option.map_map, Option.map_map]
  refine congrArg (Option.map · _) (funext fun s => ?_)
  show Settings.withPlugins _ (request l).plugins = Settings.withOutput (s.withPlugins (request l).plugins) l
  cases (request l).plugins <;> rfl

/-- So a line and the same line without these switches lead to the same settings but for the flags. -/
theorem settings_withoutOutput (w : Surroundings) (l : Line) :
    settings w l = (settings w l.withoutOutput).map (·.withOutput l) := by
  unfold settings
  rw [load_request]
  cases Settings.load w (request l.withoutOutput) <;> rfl

/-! ## Lines that differ in the switches for output alone -/

/-- The lines that some arguments make are the same but for switches for output. -/
def SameBesideOutput (args args' : List String) : Prop :=
  (program.read args).map Line.withoutOutput = (program.read args').map Line.withoutOutput

/-- The arguments that are switches for output. -/
def outputArguments : List String := ["--json", "--quiet", "-q", "--verbose", "-v", "--log-json"]

theorem readDashed_of_mem_outputArguments {arg : String} (h : arg ∈ outputArguments) :
    arg ≠ "--" ∧ isDashed arg = true ∧ ∃ s, s.isOutput = true ∧
      program.readDashed arg.toList = .ok ⟨[(s, none)], none⟩ := by
  simp only [outputArguments, List.mem_cons, List.not_mem_nil, or_false] at h
  rcases h with rfl | rfl | rfl | rfl | rfl | rfl
  · exact ⟨by decide, by decide, .json, rfl, by cbv⟩
  · exact ⟨by decide, by decide, .quiet, rfl, by cbv⟩
  · exact ⟨by decide, by decide, .quiet, rfl, by cbv⟩
  · exact ⟨by decide, by decide, .verbose, rfl, by cbv⟩
  · exact ⟨by decide, by decide, .verbose, rfl, by cbv⟩
  · exact ⟨by decide, by decide, .logJson, rfl, by cbv⟩

/-- A switch for output before a line makes no other difference. -/
theorem sameBesideOutput_cons {arg : String} (h : arg ∈ outputArguments) (args : List String) :
    SameBesideOutput (arg :: args) args := by
  obtain ⟨hne, hdashed, s, hs, hread⟩ := readDashed_of_mem_outputArguments h
  unfold SameBesideOutput
  rw [read, if_neg (by simpa using hne), if_pos hdashed, hread]
  cases program.read args with
  | error e => rfl
  | ok l =>
    refine congrArg Except.ok ?_
    show Line.withoutOutput (l.after [(s, none)]) = l.withoutOutput
    simp [Line.withoutOutput, Line.after, hs]

/-- Nor do any number of them. -/
theorem sameBesideOutput_append (flags args : List String) (h : ∀ arg ∈ flags, arg ∈ outputArguments) :
    SameBesideOutput (flags ++ args) args := by
  induction flags with
  | nil => rfl
  | cons arg rest ih =>
    exact (sameBesideOutput_cons (h arg (List.mem_cons_self ..)) _).trans
      (ih fun a ha => h a (List.mem_cons_of_mem _ ha))

end Command

end Rulebook
