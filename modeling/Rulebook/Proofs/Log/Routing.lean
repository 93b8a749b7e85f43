import Rulebook.Log.Router
import Rulebook.Proofs.Value.Ordered

/-!
Routing of the log over a history. Once a router was configured it keeps to the latest call: its own handler is
the one of that call, the handlers of others are those that stood at its side from the start, and no logger but
two below the root has a level of its own. So what an entry does depends on the latest call and on the name of
its logger.
-/

namespace Rulebook.Log

/-! ## The hierarchy of loggers -/

/-- A logger is another one or below it. -/
def IsUnder (above logger : String) : Prop := logger = above ∨ (above ++ ".").toList <+: logger.toList

instance (above logger : String) : Decidable (IsUnder above logger) :=
  inferInstanceAs (Decidable (_ ∨ _))

theorem mem_beginnings {p cs : List Char} : p ∈ beginnings cs ↔ p ++ ['.'] <+: cs := by
  induction cs generalizing p with
  | nil => simp [beginnings]
  | cons c cs ih =>
    have hlonger : p ∈ (beginnings cs).map (c :: ·) ↔ ∃ q, p = c :: q ∧ q ++ ['.'] <+: cs := by
      rw [List.mem_map]
      exact ⟨fun ⟨q, hq, heq⟩ => ⟨q, heq.symm, ih.mp hq⟩, fun ⟨q, heq, hq⟩ => ⟨q, ih.mpr hq, heq.symm⟩⟩
    have hdot : p ∈ beginnings (c :: cs) ↔ (c = '.' ∧ p = []) ∨ p ∈ (beginnings cs).map (c :: ·) := by
      rw [beginnings]
      by_cases hc : c = '.' <;> simp [hc]
    rw [hdot, hlonger]
    cases p with
    | nil => simp [eq_comm]
    | cons d p =>
      rw [List.cons_append, List.cons_prefix_cons]
      constructor
      · rintro (⟨-, h⟩ | ⟨q, h, hq⟩)
        · cases h
        · cases h
          exact ⟨rfl, hq⟩
      · rintro ⟨rfl, h⟩
        exact .inr ⟨p, rfl, h⟩

theorem mem_lineage {above logger : String} : above ∈ lineage logger ↔ IsUnder above logger := by
  unfold lineage IsUnder
  rw [List.mem_cons, List.mem_map, String.toList_append]
  refine or_congr eq_comm ⟨?_, fun h => ?_⟩
  · rintro ⟨p, hp, rfl⟩
    rw [String.toList_ofList]
    exact mem_beginnings.mp (List.mem_reverse.mp hp)
  · exact ⟨above.toList, List.mem_reverse.mpr (mem_beginnings.mpr h), String.ofList_toList⟩

theorem IsUnder.prefix {above logger : String} (h : IsUnder above logger) : above.toList <+: logger.toList := by
  rcases h with rfl | h
  · exact List.prefix_rfl
  · rw [String.toList_append] at h
    exact (List.prefix_append _ _).trans h

/-- No logger is under both of the loggers that levels are set for. -/
theorem not_isUnder_hookLogger {logger : String} (h : IsUnder programLogger logger) :
    ¬IsUnder hookLogger logger := by
  intro hhook
  obtain ⟨rest, hrest⟩ := h.prefix
  obtain ⟨rest', hrest'⟩ := hhook.prefix
  rw [← hrest] at hrest'
  exact absurd (List.cons.inj hrest').1 (by decide)

/-! ## Calls -/

/-- The call that an event is. -/
def Event.call? : Event → Option (Choice × String)
  | configure c stream => some (c, stream)
  | record _ _ => none

/-- The latest call of a history. -/
def latestCall? (history : List Event) : Option (Choice × String) := (history.filterMap Event.call?).getLast?

theorem latestCall?_cons_configure (c : Choice) (stream : String) (rest : List Event) :
    latestCall? (.configure c stream :: rest) = some ((latestCall? rest).getD (c, stream)) := by
  have hcons : (Event.configure c stream :: rest).filterMap Event.call? =
      (c, stream) :: rest.filterMap Event.call? := rfl
  unfold latestCall?
  rw [hcons, List.getLast?_cons]

namespace Router

/-- A router that keeps to a call, with the handlers of others at its side. -/
structure KeepsTo (others : List Handler) (call : Choice × String) (r : Router) : Prop where
  handlers : r.handlers = others ++ [.own call.2 call.1.form]
  foreign : ∀ h ∈ others, h.isOwn = false
  rootLevel : r.rootLevel = .warning
  ownLevel? : ∀ logger, r.ownLevel? logger =
    if logger = hookLogger then some .warning else if logger = programLogger then some call.1.level else none

/-- A router in which no logger has a level but those for which a call sets it. -/
def Unset (r : Router) : Prop :=
  ∀ logger, logger ≠ hookLogger → logger ≠ programLogger → r.ownLevel? logger = none

variable {others : List Handler} {call : Choice × String} {r : Router}

theorem ownLevel?_configure (r : Router) (c : Choice) (stream logger : String) :
    (r.configure c stream).ownLevel? logger = if logger = hookLogger then some .warning
      else if logger = programLogger then some c.level else r.ownLevel? logger := by
  show Ordered.get? logger
    (Ordered.insert hookLogger .warning (Ordered.insert programLogger c.level r.levels)) = _
  simp only [Ordered.get?_insert (Ordered.apart_of_lawful logger), beq_iff_eq, eq_comm (a := hookLogger),
    eq_comm (a := programLogger)]
  rfl

theorem keepsTo_configure (h : r.Unset) (c : Choice) (stream : String) :
    (r.configure c stream).KeepsTo (r.handlers.filter fun h => !h.isOwn) (c, stream) where
  handlers := rfl
  foreign h hmem := by simpa using (List.mem_filter.mp hmem).2
  rootLevel := rfl
  ownLevel? logger := by
    rw [ownLevel?_configure]
    split
    · rfl
    · next hhook =>
      split
      · rfl
      · next hprogram => exact h logger hhook hprogram

namespace KeepsTo

theorem unset (h : r.KeepsTo others call) : r.Unset := by
  intro logger hhook hprogram
  rw [h.ownLevel?, if_neg hhook, if_neg hprogram]

/-- Entries of the program's loggers count from the level of the call on, and others from warnings on. -/
theorem levelOf (h : r.KeepsTo others call) (logger : String) :
    r.levelOf logger = if IsUnder programLogger logger then call.1.level else .warning := by
  have hprogram : r.ownLevel? programLogger = some call.1.level := by
    rw [h.ownLevel?, if_neg (by decide), if_pos rfl]
  unfold Router.levelOf
  cases hfound : (lineage logger).findSome? r.ownLevel? with
  | none =>
    have hnone := List.findSome?_eq_none_iff.mp hfound
    have hunder : ¬IsUnder programLogger logger := fun hunder =>
      Option.some_ne_none _ (hprogram.symm.trans (hnone _ (mem_lineage.mpr hunder)))
    rw [if_neg hunder]
    exact h.rootLevel
  | some level =>
    obtain ⟨n, hn, hlevel⟩ := List.exists_of_findSome?_eq_some hfound
    have hn : IsUnder n logger := mem_lineage.mp hn
    rw [h.ownLevel?] at hlevel
    split at hlevel
    · next hhook =>
      have hunder : ¬IsUnder programLogger logger := fun hunder => not_isUnder_hookLogger hunder (hhook ▸ hn)
      rw [if_neg hunder]
      exact (Option.some.inj hlevel).symm
    · split at hlevel
      · next hname =>
        rw [if_pos (hname ▸ hn)]
        exact (Option.some.inj hlevel).symm
      · cases hlevel

/-- One event: a call is kept to from then on, and an entry changes nothing. -/
theorem step (h : r.KeepsTo others call) (event : Event) :
    (r.step event).1.KeepsTo others (event.call?.getD call) := by
  cases event with
  | record time e => exact h
  | configure c stream =>
    have hfilter : r.handlers.filter (fun h => !h.isOwn) = others := by
      rw [h.handlers, List.filter_append]
      have hothers : others.filter (fun h => !h.isOwn) = others :=
        List.filter_eq_self.mpr fun a ha => by rw [h.foreign a ha]; rfl
      rw [hothers]
      exact List.append_nil _
    exact hfilter ▸ keepsTo_configure h.unset c stream

/-- An entry is written to the stream of the call, in its form, if it reaches the level of its logger. -/
theorem deliver (h : r.KeepsTo others call) (time : String) (e : Entry) :
    r.deliver time e =
      if e.level.reaches (if IsUnder programLogger e.logger then call.1.level else .warning) then
        [(call.2, e.line time call.1.form)]
      else [] := by
  have hsilent : others.filterMap (Handler.write? time e) = [] := by
    refine List.filterMap_eq_nil_iff.mpr fun a ha => ?_
    cases a with
    | own stream form => cases h.foreign _ ha
    | foreign name => rfl
  unfold Router.deliver
  rw [h.levelOf, h.handlers, List.filterMap_append, hsilent]
  rfl

/-- A history: the latest call is kept to. -/
theorem run (h : r.KeepsTo others call) (history : List Event) :
    (r.run history).1.KeepsTo others ((latestCall? history).getD call) := by
  induction history generalizing r call with
  | nil => exact h
  | cons event rest ih =>
    have hrest := ih (h.step event)
    cases event with
    | record time e => exact hrest
    | configure c stream =>
      rw [latestCall?_cons_configure]
      exact hrest

end KeepsTo

/-! ## Histories -/

theorem run_cons (r : Router) (event : Event) (rest : List Event) : r.run (event :: rest) =
    (((r.step event).1.run rest).1, (r.step event).2 :: ((r.step event).1.run rest).2) := rfl

theorem run_append (r : Router) (before after : List Event) : r.run (before ++ after) =
    (((r.run before).1.run after).1, (r.run before).2 ++ ((r.run before).1.run after).2) := by
  induction before generalizing r with
  | nil => rfl
  | cons event before ih =>
    rw [List.cons_append, run_cons, ih, run_cons, List.cons_append]

theorem length_run (r : Router) (history : List Event) : (r.run history).2.length = history.length := by
  induction history generalizing r with
  | nil => rfl
  | cons event rest ih => exact congrArg (· + 1) (ih _)

/-- What is written at an event is up to the router that the events before it made. -/
theorem getElem?_run (r : Router) (before : List Event) (event : Event) (after : List Event) :
    (r.run (before ++ event :: after)).2[before.length]? = some ((r.run before).1.step event).2 := by
  rw [run_append, ← length_run r before, List.getElem?_append_right (Nat.le_refl _), Nat.sub_self]
  rfl

/-- In a history that starts with a call, an entry is written once, to the stream of the latest call before it and
in the form that this asks for, if it reaches the level of its logger, and else nowhere. A call writes nothing.
There are as many handlers at each time as after the first call. -/
theorem routing {r : Router} (unset : r.Unset) (c₀ : Choice) (stream₀ : String) (events : List Event) :
    let history := .configure c₀ stream₀ :: events
    (∀ before time e after, history = before ++ .record time e :: after →
      ∃ c stream, latestCall? before = some (c, stream) ∧ (r.run history).2[before.length]? =
        some (if e.level.reaches (if IsUnder "jsonrules" e.logger then
              if c.verbose then .debug else if c.quiet then .error else .warning
            else .warning) then [(stream, e.line time c.form)]
          else [])) ∧
    (∀ before c stream after, history = before ++ .configure c stream :: after →
      (r.run history).2[before.length]? = some []) ∧
    ∀ before after, history = before ++ after → before ≠ [] →
      (r.run before).1.handlers.length = (r.configure c₀ stream₀).handlers.length := by
  intro history
  have hfirst := keepsTo_configure unset c₀ stream₀
  -- Each part of the history that is not empty starts with the first call.
  have hstart {before after : List Event} (h : history = before ++ after) (hne : before ≠ []) :
      ∃ rest, before = .configure c₀ stream₀ :: rest := by
    obtain ⟨event, rest, rfl⟩ := List.exists_cons_of_ne_nil hne
    exact ⟨rest, by rw [← (List.cons.inj h).1]⟩
  have hkeeps (rest : List Event) : (r.run (.configure c₀ stream₀ :: rest)).1.KeepsTo
      (r.handlers.filter fun h => !h.isOwn) ((latestCall? rest).getD (c₀, stream₀)) := hfirst.run rest
  refine ⟨fun before time e after h => ?_, fun before c stream after h => ?_, fun before after h hne => ?_⟩
  · have hne : before ≠ [] := by
      rintro rfl
      exact Event.noConfusion (List.cons.inj h).1
    obtain ⟨rest, rfl⟩ := hstart h hne
    refine ⟨_, _, latestCall?_cons_configure c₀ stream₀ rest, ?_⟩
    rw [h, getElem?_run]
    exact congrArg some ((hkeeps rest).deliver time e)
  · rw [h, getElem?_run]
    rfl
  · obtain ⟨rest, rfl⟩ := hstart h hne
    rw [(hkeeps rest).handlers, hfirst.handlers, List.length_append, List.length_append]
    rfl

/-- Below the program's logger a debugging entry is written while the verbose call is the latest; after the quiet
one not even a warning is. -/
theorem routing_reconfigured :
    let debugging : Entry := ⟨"jsonrules.plugins", .debug, "found", []⟩
    let warning : Entry := ⟨"jsonrules", .warning, "lost", []⟩
    let history := [.configure ⟨true, false, false⟩ "first", .record "now" debugging,
      .configure ⟨false, true, true⟩ "second", .record "now" warning]
    initial.Unset ∧ (initial.run history).2[1]? = some [("first", debugging.line "now" .columns)] ∧
      (initial.run history).2[3]? = some [] ∧ (initial.run history).1.handlers.length = 1 := by
  intro debugging warning history
  have hunset : initial.Unset := fun _ _ _ => rfl
  obtain ⟨hwritten, -, hcount⟩ := routing hunset ⟨true, false, false⟩ "first" history.tail
  obtain ⟨c, stream, hcall, hfirst⟩ := hwritten (history.take 1) "now" debugging (history.drop 2) rfl
  obtain ⟨c', stream', hcall', hsecond⟩ := hwritten (history.take 3) "now" warning [] rfl
  cases hcall
  cases hcall'
  exact ⟨hunset, hfirst.trans (congrArg some (if_pos (by decide))),
    hsecond.trans (congrArg some (if_neg (by decide))), hcount history [] rfl (List.cons_ne_nil _ _)⟩

/-! ## Notices -/

/-- All notices are sent to loggers of the program. -/
theorem isUnder_programLogger (n : Notice) : IsUnder programLogger n.logger := by
  unfold Notice.logger
  split <;> exact .inr (by decide)

/-- The lines that notices make are those that a router writes once the choice is made. -/
theorem lines_eq_flatMap (c : Choice) (stream time : String) (notices : List Notice) :
    c.lines time notices =
      notices.flatMap fun n => ((initial.configure c stream).deliver time (.ofNotice n)).map (·.2) := by
  have hunset : initial.Unset := fun _ _ _ => rfl
  have hkeeps : (initial.configure c stream).KeepsTo [] (c, stream) := keepsTo_configure hunset c stream
  unfold Choice.lines
  induction notices with
  | nil => rfl
  | cons n rest ih =>
    have hlevel : (if IsUnder programLogger (Entry.ofNotice n).logger then c.level else .warning) = c.level :=
      if_pos (isUnder_programLogger n)
    rw [List.flatMap_cons, ← ih, hkeeps.deliver, hlevel, List.filter_cons]
    by_cases hreaches : n.level.reaches c.level = true
    · rw [if_pos hreaches]
      show _ = List.map _ (if n.level.reaches c.level = true then _ else _) ++ _
      rw [if_pos hreaches]
      rfl
    · rw [if_neg hreaches]
      show _ = List.map _ (if n.level.reaches c.level = true then _ else _) ++ _
      rw [if_neg hreaches]
      rfl

end Router

end Rulebook.Log
