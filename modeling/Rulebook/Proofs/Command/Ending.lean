import Rulebook.Proofs.Command.Output
import Rulebook.Proofs.Report.Writing

/-!
How a command line ends. A report can be written in each presentation, and no stage before it looks at the
switches for output, so these change what is written and never how the program ends. A report of success is
printed, one of failure is reported with nothing printed.
-/

namespace Rulebook

/-- How a part of a run ends, early or not. -/
def Stage.ending : Stage Answer → Ending
  | .ok a | .error a => a.ending

/-- After the same stage, what ends alike leads to the same end. -/
theorem Stage.ending_bind {α : Type} (x : Stage α) {f g : α → Stage Answer}
    (h : ∀ a, ending (f a) = ending (g a)) : ending (x >>= f) = ending (x >>= g) := by
  cases x with
  | error a => rfl
  | ok a => exact h a

/-- The answer that gives a report which can be written. -/
theorem Answer.ofReport_eq {r : Report} (h : r.Printable) (p : Presentation) : ∃ text, r.text p = .ok text ∧
    Answer.ofReport p r = if r.ok then ⟨text ++ "\n", warningText p r, .success⟩
      else ⟨"", warningText p r ++ text ++ "\n", .failure⟩ := by
  obtain ⟨text, htext⟩ := h p
  refine ⟨text, htext, ?_⟩
  rw [Answer.ofReport, htext]

theorem bind_of_ok {ε α β : Type} {x : Except ε α} {a : α} (h : x = .ok a) (f : α → Except ε β) :
    (x >>= f) = f a := by
  rw [h]
  rfl

/-- Two results that are the same under a function are the same error, or both are results. -/
theorem eq_of_map_eq {ε α β : Type} {f : α → β} {x y : Except ε α} (h : x.map f = y.map f) :
    (∃ e, x = .error e ∧ y = .error e) ∨ ∃ a b, x = .ok a ∧ y = .ok b ∧ f a = f b := by
  cases x with
  | error e =>
    cases y <;> cases h
    exact .inl ⟨e, rfl, rfl⟩
  | ok a =>
    cases y with
    | error e => cases h
    | ok b => exact .inr ⟨a, b, rfl, rfl, Except.ok.inj h⟩

namespace Session

variable (s : Session)

/-- The settings say how a report is written, not how the run ends. -/
theorem ending_answer {x : Run Report} (h : ∀ r, x.result = .ok r → r.Printable)
    (settings settings' : Settings) : (s.answer settings x).ending = (s.answer settings' x).ending := by
  unfold answer Answer.logged
  dsimp only
  cases hx : x.result with
  | error f => rfl
  | ok r =>
    obtain ⟨text, -, htext⟩ := Answer.ofReport_eq (h r hx) settings.presentation
    obtain ⟨text', -, htext'⟩ := Answer.ofReport_eq (h r hx) settings'.presentation
    dsimp only
    rw [htext, htext']
    split <;> rfl

theorem ending_runCheck (settings : Settings) (l : Line) (args : List String) :
    Stage.ending (s.runCheck (settings.withOutput l) args) = Stage.ending (s.runCheck settings args) := by
  unfold runCheck
  -- up to the report the stages look at no flag for output, so they are the same stages
  refine Stage.ending_bind _ fun line => Stage.ending_bind _ fun ⟨rules, value⟩ =>
    Stage.ending_bind _ fun requirements => Stage.ending_bind _ fun v => ?_
  refine s.ending_answer (fun r hr => ?_) _ _
  obtain ⟨registry, -, hcheck⟩ := Run.bind_ok_iff.mp hr
  exact Registry.printable_check hcheck

theorem ending_runRules (settings : Settings) (l : Line) (args : List String) :
    Stage.ending (s.runRules (settings.withOutput l) args) = Stage.ending (s.runRules settings args) := by
  unfold runRules
  refine Stage.ending_bind _ fun line => Stage.ending_bind _ fun _ => ?_
  refine s.ending_answer (fun r hr => ?_) _ _
  obtain ⟨registry, -, hlist⟩ := Run.bind_ok_iff.mp hr
  cases hlist
  exact Registry.printable_list registry

/-- What a line asks for ends as it does without the switches for output. -/
theorem ending_follow (l : Line) : Stage.ending (s.follow l) = Stage.ending (s.follow l.withoutOutput) := by
  unfold follow
  rw [show l.withoutOutput.operands = l.operands from rfl]
  cases l.operands with
  | nil =>
    dsimp only
    rw [Command.settings_withoutOutput]
    cases Command.settings s.surroundings l.withoutOutput <;> rfl
  | cons name rest =>
    refine Stage.ending_bind _ fun c => ?_
    rw [Command.settings_withoutOutput]
    cases Command.settings s.surroundings l.withoutOutput with
    | error a => rfl
    | ok settings =>
      cases c with
      | check => exact s.ending_runCheck settings l rest
      | rules => exact s.ending_runRules settings l rest
      | program => rfl

end Session

namespace Command

theorem lookForConfig_withoutOutput (w : Surroundings) (l : Line) :
    (lookForConfig w l).map Line.withoutOutput = lookForConfig w l.withoutOutput := by
  unfold lookForConfig
  rw [l.value?_withoutOutput rfl]
  cases (l.value? .config).bind (configObstacle? w) <;> rfl

theorem heed_withoutOutput (w : Surroundings) (l : Line) :
    (program.heed l >>= lookForConfig w).map Line.withoutOutput =
      program.heed l.withoutOutput >>= lookForConfig w := by
  unfold heed
  rw [l.answered?_withoutOutput]
  cases l.answered? with
  | some switch => rfl
  | none => exact lookForConfig_withoutOutput w l

/-- Lines that are the same but for switches for output are entered alike. -/
theorem enterProgram_withoutOutput (w : Surroundings) {args args' : List String}
    (h : SameBesideOutput args args') :
    (enterProgram w args).map Line.withoutOutput = (enterProgram w args').map Line.withoutOutput := by
  unfold enterProgram enter
  obtain ⟨e, hread, hread'⟩ | ⟨l, l', hread, hread', hsame⟩ := eq_of_map_eq h
  · rw [hread, hread']
  · rw [hread, hread']
    exact (heed_withoutOutput w l).trans (hsame ▸ (heed_withoutOutput w l').symm)

end Command

namespace Session

theorem ending_run (s : Session) (args : List String) :
    (s.run args).ending = Stage.ending (s.perform args) := by
  unfold run Stage.ending
  cases s.perform args <;> rfl

/-- Command lines that are the same but for switches for output end alike. -/
theorem ending_run_eq (s : Session) {args args' : List String} (h : Command.SameBesideOutput args args') :
    (s.run args).ending = (s.run args').ending := by
  rw [ending_run, ending_run]
  unfold perform
  obtain ⟨a, hl, hl'⟩ | ⟨l, l', hl, hl', hsame⟩ :=
    eq_of_map_eq (Command.enterProgram_withoutOutput s.surroundings h)
  · rw [hl, hl']
  · rw [hl, hl']
    show Stage.ending (s.follow l) = Stage.ending (s.follow l')
    rw [ending_follow, hsame, ← ending_follow]

/-- A command line leads to a report of a check, with some settings and some notices before it. -/
inductive Emits (s : Session) (args : List String) : Settings → List Notice → Report → Prop
  | check {line checkLine : Line} {rest : List String} {settings : Settings} {rules value : Source}
      {requirements : List (Scalar × Value)} {v : Value} {notices : List Notice} {r : Report}
      (entered : Command.enterProgram s.surroundings args = .ok line)
      (named : line.operands = "check" :: rest)
      (loaded : Command.settings s.surroundings line = .ok settings)
      (read : Command.check.enter rest = .ok checkLine)
      (opened : s.openSources checkLine.operands = .ok (rules, value))
      (required : rules.requirements = .ok requirements)
      (given : value.document = .ok v)
      (checked : (s.registry settings >>= fun registry => registry.check v requirements
        (checkLine.has .invert) (checkLine.has .strict || settings.check.failOnUnknownRules)) =
          ⟨notices, .ok r⟩) :
      Emits s args settings notices r

variable {s : Session} {args : List String} {settings : Settings} {notices : List Notice} {r : Report}

theorem Emits.printable (h : s.Emits args settings notices r) : r.Printable := by
  cases h with
  | check entered named loaded read opened required given checked =>
    obtain ⟨registry, -, hcheck⟩ := Run.bind_ok_iff.mp (congrArg Run.result checked)
    exact Registry.printable_check hcheck

/-- The answer is then that of the report, after the lines of the log. -/
theorem Emits.run_eq (h : s.Emits args settings notices r) : s.run args =
    (Answer.ofReport settings.presentation r).logged (settings.logging.lines s.time notices) := by
  cases h with
  | @check line checkLine rest _ rules value requirements v _ _ entered named loaded read opened required given
      checked =>
    have hcheck : s.runCheck settings rest = .ok (s.answer settings ⟨notices, .ok r⟩) := by
      rw [← checked]
      exact (bind_of_ok read _).trans ((bind_of_ok opened _).trans
        ((bind_of_ok required _).trans (bind_of_ok given _)))
    have hfollow : s.follow line = .ok (s.answer settings ⟨notices, .ok r⟩) := by
      unfold follow
      rw [named]
      exact (bind_of_ok (rfl : Command.named s.surroundings "check" rest = .ok .check) _).trans
        ((bind_of_ok loaded _).trans hcheck)
    have hperform : s.perform args = .ok (s.answer settings ⟨notices, .ok r⟩) :=
      (bind_of_ok entered _).trans hfollow
    rw [run, hperform]
    rfl

/-- Switches for output do not change how a command line ends. A report that is made is printed if it is one of
success, and otherwise reported with nothing printed, as the settings ask for it to be written. -/
theorem run_verdict (s : Session) (args args' : List String) :
    (Command.SameBesideOutput args args' → (s.run args).ending.code = (s.run args').ending.code) ∧
    ∀ settings notices r, s.Emits args settings notices r → ∃ text, r.text settings.presentation = .ok text ∧
      let logs := String.join (settings.logging.lines s.time notices) ++ warningText settings.presentation r
      if r.ok then (s.run args).ending.code = 0 ∧ (s.run args).out = text ++ "\n" ∧ (s.run args).err = logs
      else (s.run args).ending.code = 1 ∧ (s.run args).out = "" ∧ (s.run args).err = logs ++ text ++ "\n" := by
  refine ⟨fun h => congrArg Ending.code (s.ending_run_eq h), fun settings notices r h => ?_⟩
  obtain ⟨text, htext, hanswer⟩ := Answer.ofReport_eq h.printable settings.presentation
  refine ⟨text, htext, ?_⟩
  rw [h.run_eq, hanswer]
  cases r.ok with
  | true => exact ⟨rfl, rfl, rfl⟩
  | false =>
    refine ⟨rfl, rfl, ?_⟩
    simp [Answer.logged, String.append_assoc]

/-- A session with a rule that is not met by the value beside it. -/
def desk : Session where
  surroundings :=
    { tree := .directory [("r.json", .file "\x7b\"type\": \"string\"\x7d"), ("v.json", .file "true")]
      directory := ⟨.root, []⟩
      environment := [] }
  input := ""
  time := ""
  plugins := fun _ => .ok []

/-- The settings there without plugins. -/
def deskSettings : Settings where
  root := ⟨.root, []⟩
  config := none
  jsonOutput := false
  quiet := false
  verbose := false
  logJson := false
  check := ⟨false⟩
  plugins := ⟨false, ".jsonrules/plugins"⟩

/-- The check of that value there. -/
def deskArguments : List String := ["--no-plugins", "check", "r.json", "v.json"]

theorem emits_desk : ∃ notices r, desk.Emits deskArguments deskSettings notices r := by
  have hcheck : ∃ notices r, (desk.registry deskSettings >>= fun registry =>
      registry.check (.bool true) [(.text "type", .text "string")] false false) = ⟨notices, .ok r⟩ :=
    ⟨_, _, rfl⟩
  obtain ⟨notices, r, hcheck⟩ := hcheck
  exact ⟨notices, r, .check
    (by cbv : Command.enterProgram desk.surroundings deskArguments =
      .ok ⟨[(.noPlugins, none)], ["check", "r.json", "v.json"]⟩) rfl rfl
    (by cbv : Command.check.enter ["r.json", "v.json"] = .ok ⟨[], ["r.json", "v.json"]⟩)
    (rfl : desk.openSources ["r.json", "v.json"] =
      .ok (⟨"r.json", "\x7b\"type\": \"string\"\x7d"⟩, ⟨"v.json", "true"⟩))
    (by cbv) rfl hcheck⟩

theorem run_verdict_desk :
    (desk.run (["--json", "--log-json"] ++ deskArguments)).ending.code =
      (desk.run (["-q", "-v"] ++ deskArguments)).ending.code ∧
    ∃ notices r text, r.text deskSettings.presentation = .ok text ∧
      let logs := String.join (deskSettings.logging.lines desk.time notices)
        ++ warningText deskSettings.presentation r
      if r.ok then (desk.run deskArguments).ending.code = 0 ∧ (desk.run deskArguments).out = text ++ "\n" ∧
        (desk.run deskArguments).err = logs
      else (desk.run deskArguments).ending.code = 1 ∧ (desk.run deskArguments).out = "" ∧
        (desk.run deskArguments).err = logs ++ text ++ "\n" := by
  have hsame : Command.SameBesideOutput (["--json", "--log-json"] ++ deskArguments)
      (["-q", "-v"] ++ deskArguments) :=
    (Command.sameBesideOutput_append _ _ (by decide)).trans
      (Command.sameBesideOutput_append _ _ (by decide)).symm
  obtain ⟨notices, r, hemits⟩ := emits_desk
  obtain ⟨text, h⟩ := (run_verdict desk deskArguments []).2 _ _ _ hemits
  exact ⟨(run_verdict desk _ _).1 hsame, notices, r, text, h⟩

end Session

end Rulebook
