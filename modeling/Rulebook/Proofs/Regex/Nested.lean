import Rulebook.Proofs.Regex.Longer

/-!
Reading the parts of a pattern inside a longer text. A reading of the whole text and one that goes on behind
it read the same parts, group by group, so the text between anchors, or between parentheses, is read as it is
on its own. Only a comment up to the end of a line can take what follows, and then a parenthesis is missing.
-/

namespace Rulebook.Regex.Parser

/-- Flags that differ in nothing that a part depends on. -/
def Alike (a b : Flags) : Prop := ∃ unicode, b = { a with unicode }

namespace Alike

variable {a b : Flags} (h : Alike a b)

include h

theorem verbose : b.verbose = a.verbose := by
  obtain ⟨unicode, rfl⟩ := h
  rfl

theorem multiline : b.multiline = a.multiline := by
  obtain ⟨unicode, rfl⟩ := h
  rfl

theorem dotAll : b.dotAll = a.dotAll := by
  obtain ⟨unicode, rfl⟩ := h
  rfl

theorem fold : b.fold = a.fold := by
  obtain ⟨unicode, rfl⟩ := h
  rfl

theorem escape (c : Char) : Parser.escape b c = Parser.escape a c := by
  obtain ⟨unicode, rfl⟩ := h
  rfl

theorem piece (t : Token) : Parser.piece b t = Parser.piece a t := by
  obtain ⟨unicode, rfl⟩ := h
  cases t <;> rfl

theorem classPieces (n : Nat) (before : List CharSet.Piece) :
    Parser.classPieces b n before = Parser.classPieces a n before := by
  induction n generalizing before with
  | zero => rfl
  | succ n ih =>
    rw [Parser.classPieces, Parser.classPieces]
    simp only [h.piece, ih]

theorem bracketClass : Parser.bracketClass b = Parser.bracketClass a := by
  unfold Parser.bracketClass
  simp only [h.classPieces, h.fold]

theorem backrefTo (i : Nat) : Parser.backrefTo b i = Parser.backrefTo a i := by
  obtain ⟨unicode, rfl⟩ := h
  rfl

theorem within (on off : Flags) : Alike (a.within on off) (b.within on off) := by
  obtain ⟨unicode, rfl⟩ := h
  refine ⟨(({ a with unicode } : Flags).within on off).unicode, ?_⟩
  unfold Flags.within
  split <;> rfl

end Alike

section

variable (more : List Token) (flags flags' : Flags) {α β : Type}

/-- The sequence is over. -/
def AtEnd (ts : List Token) : Prop := ∀ t ∈ ts.head?, t = .plain '|' ∨ t = .plain ')'

/-- A sequence has been read, and the other reading goes on from there; or it has lost what follows to a
comment. -/
def Reaches (ctx' : Context) (first' : Bool) (base : List Part) (a : Regex) (t : State) (b : Regex)
    (t' : State) : Prop :=
  (∃ xs m, a = sequence (xs.map (·.regex)) ∧ t.flags = flags ∧ AtEnd t.rest ∧
    (parts m ctx' first' (xs ++ base)).run (t.longer more flags') = .ok (b, t')) ∨
  (ctx'.flags.verbose = true ∧ more ≠ [] ∧ t'.rest = [])

/-- Alternatives have been read alike, or one reading has no parenthesis to come. -/
def EndsAlike (a : Regex) (t : State) (b : Regex) (t' : State) : Prop :=
  (b = a ∧ t.flags = flags ∧ t' = t.longer more flags') ∨ (more ≠ [] ∧ t'.rest = []) ∨
    (t.rest = [] ∧ more.head? = some (.plain '$'))

/-- A group has been read alike, and the flags for what comes after it are as they were; only flags for the
whole pattern, at its start, change them. -/
def OpensAlike (ctx ctx' : Context) (atStart : Bool) (p : Option Regex × Context) (t : State)
    (p' : Option Regex × Context) (t' : State) : Prop :=
  p'.1 = p.1 ∧ (p.1 ≠ none ∨ atStart = false →
    p.2 = ctx ∧ p'.2 = ctx' ∧ t.flags = flags ∧ t' = t.longer more flags')

/-- Readers with some fuel and with any fuel read alike. -/
structure ReadsAlike (n : Nat) : Prop where
  parts {m : Nat} {ctx ctx' : Context} {first first' : Bool} {before : List Part} (base : List Part) (s : State)
    (hctx : Alike ctx.flags ctx'.flags) (hstart : first' = false ∨ before ++ base ≠ []) :
    RelatedAt more flags flags' (Reaches more flags flags' ctx' first' base) s
      (parts n ctx first before) (parts m ctx' first' (before ++ base))
  opening {m : Nat} {ctx ctx' : Context} {atStart atStart' : Bool} (s : State)
    (hctx : Alike ctx.flags ctx'.flags) :
    RelatedAt more flags flags' (OpensAlike more flags flags' ctx ctx' atStart') s
      (opening n ctx atStart) (opening m ctx' atStart')
  alternatives {m : Nat} {ctx ctx' : Context} {first first' : Bool} (s : State)
    (hctx : Alike ctx.flags ctx'.flags) (hnested : ctx'.nested = true)
    (hflags : ctx.nested = true ∨ ctx.flags = flags) :
    RelatedAt more flags flags' (EndsAlike more flags flags') s
      (alternatives n ctx first) (alternatives m ctx' first')
  enclosed {m : Nat} {ctx ctx' : Context} (hctx : Alike ctx.flags ctx'.flags) (hnested : ctx.nested = true)
    (hnested' : ctx'.nested = true) : Together more flags flags' (enclosed n ctx) (enclosed m ctx')
  capture {m : Nat} {ctx ctx' : Context} (hctx : Alike ctx.flags ctx'.flags) (hnested : ctx.nested = true)
    (hnested' : ctx'.nested = true) (i : Nat) :
    Together more flags flags' (capture n ctx i) (capture m ctx' i)
  lookBehind {m : Nat} {ctx ctx' : Context} (hctx : Alike ctx.flags ctx'.flags) (hnested : ctx.nested = true)
    (hnested' : ctx'.nested = true) (negated : Bool) :
    Together more flags flags' (lookBehind n ctx negated) (lookBehind m ctx' negated)

variable {more flags flags'}

/-! ### Ends -/

theorem run_accept_nil {c : Char} {s : State} (h : s.rest = []) : (accept c).run s = .ok (false, s) := by
  rw [run_accept, if_neg]
  rw [h]
  exact fun h => nomatch h

theorem run_skipLine (s : State) : skipLine.run s =
    .ok ((), { s with rest := (s.rest.dropWhile (· != .plain '\n')).tail }) := rfl

theorem run_accept_bind_nil {c : Char} {f : Bool → P β} {s : State} (h : s.rest = []) :
    (accept c >>= f).run s = (f false).run s := by
  rw [StateT.run_bind, run_accept_nil h]
  rfl

theorem run_expect_bind_ne {c : Char} {f : Unit → P β} {s : State} {p : β × State} (h : s.rest = []) :
    (expect c >>= f).run s ≠ .ok p := by
  intro hrun
  obtain ⟨_, t, ht, -⟩ := run_bind_ok_iff.mp hrun
  have hhead := (run_expect_ok_iff.mp ht).1
  rw [h] at hhead
  cases hhead

theorem run_peek_bind {f : Option Token → P β} (s : State) : (peek >>= f).run s = (f s.rest.head?).run s := rfl

theorem run_parts_of_atEnd {n : Nat} {ctx : Context} {first : Bool} {before : List Part} {s : State}
    (h : AtEnd s.rest) : (parts (n + 1) ctx first before).run s = .ok (sequence (before.map (·.regex)), s) := by
  rw [parts, run_peek_bind]
  cases hrest : s.rest with
  | nil => rfl
  | cons t rest => rcases h t (by rw [hrest]; rfl) with rfl | rfl <;> rfl

theorem atEnd_nil : AtEnd [] := by
  intro t ht
  cases ht

theorem not_atEnd_iff {ts : List Token} :
    ¬ AtEnd ts ↔ ∃ u rest, ts = u :: rest ∧ ¬ (u = .plain '|' ∨ u = .plain ')') := by
  cases ts with
  | nil => simp [AtEnd]
  | cons u rest => simp [AtEnd]

/-- A reading at the end of a sequence gives the sequence that it has. -/
theorem eq_of_atEnd {n : Nat} {ctx : Context} {first : Bool} {before : List Part} {s t : State} {a : Regex}
    (h : AtEnd s.rest) (hrun : (parts n ctx first before).run s = .ok (a, t)) :
    a = sequence (before.map (·.regex)) ∧ t = s := by
  cases n with
  | zero => cases hrun
  | succ n =>
    cases (run_parts_of_atEnd h).symm.trans hrun
    exact ⟨rfl, rfl⟩

/-- A sequence is over in the longer text too, unless an anchor follows it. -/
theorem AtEnd.longer (hmore : Closing more) {s : State} (h : AtEnd s.rest)
    (hanchor : ¬ (s.rest = [] ∧ more.head? = some (.plain '$'))) : AtEnd (s.longer more flags').rest := by
  cases hrest : s.rest with
  | nil =>
    rw [State.longer, hrest, List.nil_append]
    intro t ht
    rcases hmore.head t ht with rfl | rfl
    · exact .inr rfl
    · exact absurd ⟨hrest, ht⟩ hanchor
  | cons t rest =>
    rw [hrest] at h
    rw [State.longer, hrest]
    exact h

/-- The rest of a line is skipped alike, unless the text ends in it. -/
theorem skipLine_bind (hmore : Closing more) {s : State} {f g : Unit → P β} {R : β → State → β → State → Prop}
    (hfg : ∀ t, RelatedAt more flags flags' R t (f ()) (g ()))
    (hlost : ∀ ⦃b t c t' u'⦄, more ≠ [] → (f ()).run { s with rest := [] } = .ok (b, t) → u'.rest = [] →
      (g ()).run u' = .ok (c, t') → R b t c t') :
    RelatedAt more flags flags' R s (skipLine >>= f) (skipLine >>= g) := by
  intro b t c t' hs hx hy
  have hlonger : (s.longer more flags').rest.dropWhile (· != .plain '\n') =
      if (s.rest.dropWhile (· != .plain '\n')).isEmpty then [] else
        s.rest.dropWhile (· != .plain '\n') ++ more := by
    rw [State.longer, List.dropWhile_append, List.dropWhile_eq_nil_iff.mpr (ne_of_notMem hmore.line)]
  rw [StateT.run_bind, run_skipLine] at hx hy
  rw [hlonger] at hy
  cases hdrop : s.rest.dropWhile (· != .plain '\n') with
  | cons u rest =>
    rw [hdrop] at hx hy
    exact hfg { s with rest } hs hx hy
  | nil =>
    rw [hdrop] at hx hy
    by_cases hne : more = []
    · subst hne
      exact hfg { s with rest := [] } hs hx hy
    · exact hlost hne hx rfl hy

/-! ### Groups -/

theorem related_done {ctx ctx' : Context} {atStart' : Bool} (o : Option Regex) (s : State) :
    RelatedAt more flags flags' (OpensAlike more flags flags' ctx ctx' atStart') s
      (pure (o, ctx)) (pure (o, ctx')) := by
  intro p t p' t' hs hx hy
  cases hx
  cases hy
  exact ⟨rfl, fun _ => ⟨rfl, rfl, hs, rfl⟩⟩

/-- A part that is read alike is a group read alike. -/
theorem related_part {ctx ctx' : Context} {atStart' : Bool} {x y : P Regex} (h : Together more flags flags' x y)
    (k : Regex → Regex) (s : State) :
    RelatedAt more flags flags' (OpensAlike more flags flags' ctx ctx' atStart') s
      (do return (some (k (← x)), ctx)) (do return (some (k (← y)), ctx')) :=
  (h s).bind fun r t _ => related_done (some (k r)) t

namespace ReadsAlike

variable (hmore : Closing more) {n : Nat} (ih : ReadsAlike more flags flags' n)

include hmore ih

theorem alternatives_succ {m : Nat} {ctx ctx' : Context} {first first' : Bool} (s : State)
    (hctx : Alike ctx.flags ctx'.flags) (hnested : ctx'.nested = true)
    (hflags : ctx.nested = true ∨ ctx.flags = flags) :
    RelatedAt more flags flags' (EndsAlike more flags flags') s
      (Parser.alternatives (n + 1) ctx first) (Parser.alternatives m ctx' first') := by
  cases m with
  | zero => exact .malformed_right
  | succ m =>
    have hfirst : (first' && !ctx'.nested) = false := by rw [hnested, Bool.not_true, Bool.and_false]
    rw [Parser.alternatives, Parser.alternatives, hfirst]
    refine RelatedAt.bind (ih.parts [] s hctx (.inl rfl)) ?_
    rintro a t b t' c u c' u' (⟨xs, k, rfl, ht, hend, hy⟩ | ⟨-, hne, hrest⟩) hf hg
    · by_cases hanchor : t.rest = [] ∧ more.head? = some (.plain '$')
      · rw [run_accept_bind_nil hanchor.1] at hf
        cases hf
        exact .inr (.inr hanchor)
      · rw [List.append_nil] at hy
        obtain ⟨rfl, rfl⟩ := eq_of_atEnd (hend.longer hmore hanchor) hy
        refine TogetherAt.bind (R := EndsAlike more flags flags')
          (steady_accept hmore (by decide) (by decide) t) (fun taken v _ => ?_) ht hf hg
        split
        · refine .of_flags fun hv => .get ?_
          have hsame : (if ctx.nested = true then ctx else { ctx with flags := v.flags }) = ctx := by
            rcases hflags with h | h
            · exact if_pos h
            · rw [hv, ← h, ite_self]
          dsimp only
          rw [hsame]
          refine RelatedAt.bind (ih.alternatives v hctx hnested hflags) ?_
          rintro a t b t' c u c' u' (⟨rfl, ht, rfl⟩ | h) hf hg
          · cases hf
            cases hg
            exact .inl ⟨rfl, ht, rfl⟩
          · cases hf
            cases hg
            exact .inr h
        · intro c u c' u' hv hx hy
          cases hx
          cases hy
          exact .inl ⟨rfl, hv, rfl⟩
    · -- nothing is left to the other reading, so there is no further alternative
      rw [run_accept_bind_nil hrest] at hg
      cases hg
      exact .inr (.inl ⟨hne, hrest⟩)

omit hmore in
theorem enclosed_succ {m : Nat} {ctx ctx' : Context} (hctx : Alike ctx.flags ctx'.flags)
    (hnested : ctx.nested = true) (hnested' : ctx'.nested = true) :
    Together more flags flags' (Parser.enclosed (n + 1) ctx) (Parser.enclosed m ctx') := by
  cases m with
  | zero => exact .malformed_right
  | succ m =>
    intro s
    rw [Parser.enclosed, Parser.enclosed]
    refine RelatedAt.bind (ih.alternatives s hctx hnested' (.inl hnested)) ?_
    rintro a t b t' c u c' u' (⟨rfl, ht, rfl⟩ | ⟨-, hrest⟩ | ⟨hrest, -⟩) hf hg
    · exact Together.bind (steady_expect ')') (fun _ => .pure b) t ht hf hg
    · exact absurd hg (run_expect_bind_ne hrest)
    · exact absurd hf (run_expect_bind_ne hrest)

omit hmore in
theorem capture_succ {m : Nat} {ctx ctx' : Context} (hctx : Alike ctx.flags ctx'.flags)
    (hnested : ctx.nested = true) (hnested' : ctx'.nested = true) (i : Nat) :
    Together more flags flags' (Parser.capture (n + 1) ctx i) (Parser.capture m ctx' i) := by
  cases m with
  | zero => exact .malformed_right
  | succ m =>
    rw [Parser.capture, Parser.capture]
    exact .bind (ih.enclosed hctx hnested hnested') fun r => .bind (steady_closeGroup i r) fun _ => .pure _

omit hmore in
theorem lookBehind_succ {m : Nat} {ctx ctx' : Context} (hctx : Alike ctx.flags ctx'.flags)
    (hnested : ctx.nested = true) (hnested' : ctx'.nested = true) (negated : Bool) :
    Together more flags flags' (Parser.lookBehind (n + 1) ctx negated) (Parser.lookBehind m ctx' negated) := by
  cases m with
  | zero => exact .malformed_right
  | succ m =>
    rw [Parser.lookBehind, Parser.lookBehind]
    refine .get fun s => ?_
    have hnow : Steady more flags flags'
        (modify fun t => { t with behindFrom := some (s.behindFrom.getD (t.groups + 1)) }) :=
      .modify (fun _ => rfl) fun _ => rfl
    refine Together.bind hnow (fun _ => .bind (ih.enclosed hctx hnested hnested') fun r => ?_) s
    refine .read (fun _ => rfl) fun t => ?_
    exact .bind (.modify (fun _ => rfl) fun _ => rfl) fun _ => .pure _

/-- What comes after a sequence is read alike, where it needs something to read. -/
theorem parts_bind {m : Nat} {ctx ctx' : Context} {s : State} {f g : Regex → P β}
    {R : β → State → β → State → Prop} (hctx : Alike ctx.flags ctx'.flags)
    (hf : ∀ ⦃a t c⦄, t.rest = [] → (f a).run t ≠ .ok c) (hg : ∀ ⦃a t c⦄, t.rest = [] → (g a).run t ≠ .ok c)
    (hfg : ∀ a t, RelatedAt more flags flags' R t (f a) (g a)) :
    RelatedAt more flags flags' R s (Parser.parts n ctx false [] >>= f)
      (Parser.parts m ctx' false [] >>= g) := by
  refine RelatedAt.bind (ih.parts [] s hctx (.inl rfl)) ?_
  rintro a t b t' c u c' u' (⟨xs, k, rfl, ht, hend, hy⟩ | ⟨-, -, hrest⟩) hfa hgb
  · have hanchor : ¬ (t.rest = [] ∧ more.head? = some (.plain '$')) := fun h => hf h.1 hfa
    rw [List.append_nil] at hy
    obtain ⟨rfl, rfl⟩ := eq_of_atEnd (hend.longer hmore hanchor) hy
    exact hfg _ t ht hfa hgb
  · exact absurd hgb (hg hrest)

/-- A condition chooses between two sequences, and both are read before its closing parenthesis. -/
theorem condition {m : Nat} {ctx ctx' : Context} {atStart' : Bool} (s : State)
    (hctx : Alike ctx.flags ctx'.flags) :
    RelatedAt more flags flags' (OpensAlike more flags flags' ctx ctx' atStart') s
      (do
        let i ← conditionGroup
        let yes ← Parser.parts n { ctx with nested := true } false []
        let no ← if ← accept '|' then Parser.parts n { ctx with nested := true } false [] else pure .empty
        expect ')'
        return (some (.choose i yes no), ctx))
      (do
        let i ← conditionGroup
        let yes ← Parser.parts m { ctx' with nested := true } false []
        let no ← if ← accept '|' then Parser.parts m { ctx' with nested := true } false [] else pure .empty
        expect ')'
        return (some (.choose i yes no), ctx')) := by
  refine (steady_conditionGroup s).bind fun i t _ => ?_
  have hend (yes no : Regex) (u : State) :
      RelatedAt more flags flags' (OpensAlike more flags flags' ctx ctx' atStart') u
        (do expect ')'; return (some (.choose i yes no), ctx))
        (do expect ')'; return (some (.choose i yes no), ctx')) :=
    (steady_expect ')' u).bind fun _ v _ => related_done _ v
  refine ih.parts_bind hmore (by exact hctx) ?_ ?_ fun yes u => ?_
  · intro yes u p hrest
    rw [run_accept_bind_nil hrest, if_neg Bool.false_ne_true, pure_bind]
    exact run_expect_bind_ne hrest
  · intro yes u p hrest
    rw [run_accept_bind_nil hrest, if_neg Bool.false_ne_true, pure_bind]
    exact run_expect_bind_ne hrest
  · refine (steady_accept hmore (by decide) (by decide) u).bind fun barred v _ => ?_
    split
    · exact ih.parts_bind hmore (by exact hctx) (fun _ _ _ => run_expect_bind_ne)
        (fun _ _ _ => run_expect_bind_ne) fun no w => hend yes no w
    · exact hend yes .empty v

theorem opening_succ {m : Nat} {ctx ctx' : Context} {atStart atStart' : Bool} (s : State)
    (hctx : Alike ctx.flags ctx'.flags) :
    RelatedAt more flags flags' (OpensAlike more flags flags' ctx ctx' atStart') s
      (Parser.opening (n + 1) ctx atStart) (Parser.opening m ctx' atStart') := by
  cases m with
  | zero => exact .malformed_right
  | succ m =>
    have henclosed : Together more flags flags' (Parser.enclosed n { ctx with nested := true })
        (Parser.enclosed m { ctx' with nested := true }) := ih.enclosed (by exact hctx) rfl rfl
    have hcapture (i : Nat) : Together more flags flags' (Parser.capture n { ctx with nested := true } i)
        (Parser.capture m { ctx' with nested := true } i) := ih.capture (by exact hctx) rfl rfl i
    have hbehind (negated : Bool) : Together more flags flags'
        (Parser.lookBehind n { ctx with nested := true } negated)
        (Parser.lookBehind m { ctx' with nested := true } negated) := ih.lookBehind (by exact hctx) rfl rfl negated
    rw [Parser.opening, Parser.opening]
    dsimp only
    refine (steady_accept hmore (by decide) (by decide) s).bind fun marked t _ => ?_
    split
    · exact (steady_openGroup none t).bind fun i u _ => related_part (hcapture i) id u
    · refine .next rfl fun c t => ?_
      split
      · -- a name
        refine (steady_accept hmore (by decide) (by decide) t).bind fun named u _ => ?_
        split
        · refine (steady_groupName '>' u).bind fun name v _ => ?_
          exact (steady_openGroup _ v).bind fun i w _ => related_part (hcapture i) id w
        · refine (steady_accept hmore (by decide) (by decide) u).bind fun referred v _ => ?_
          split
          · refine (steady_groupName ')' v).bind fun name w _ => .get ?_
            have hnames : (w.longer more flags').names = w.names := rfl
            rw [hnames]
            split
            · next i _ =>
              rw [hctx.backrefTo]
              exact related_part (steady_backrefTo ctx.flags i) id w
            · exact .malformed_left
          · exact .malformed_left
      · exact related_part henclosed id t
      · exact (steady_skipComment t).bind fun _ u _ => related_done none u
      · exact related_part henclosed (.ahead false) t
      · exact related_part henclosed (.ahead true) t
      · refine .next rfl fun c t => ?_
        split
        · exact related_part (hbehind false) id t
        · exact related_part (hbehind true) id t
        · exact .malformed_left
      · exact ih.condition hmore t hctx
      · exact related_part henclosed .atomic t
      · -- flags
        refine RelatedAt.bind (related_groupFlags _ t) ?_
        rintro (_ | ⟨on, off⟩) u o u' p v p' v' ⟨rfl, hread, -⟩ hf hg
        · cases atStart' with
          | false => cases hg
          | true =>
            cases hg
            have hnone : p.1 = none := by
              cases atStart <;> cases hf
              rfl
            exact ⟨hnone.symm, fun h => h.elim (absurd hnone) (fun h => nomatch h)⟩
        · obtain ⟨hu, rfl⟩ := hread (by simp)
          exact related_part (ih.enclosed (hctx.within on off) rfl rfl) id u hu hf hg
      · exact .malformed_left

theorem parts_succ {m : Nat} {ctx ctx' : Context} {first first' : Bool} {before base : List Part} (s : State)
    (hctx : Alike ctx.flags ctx'.flags) (hstart : first' = false ∨ before ++ base ≠ []) :
    RelatedAt more flags flags' (Reaches more flags flags' ctx' first' base) s
      (Parser.parts (n + 1) ctx first before) (Parser.parts m ctx' first' (before ++ base)) := by
  by_cases hend : AtEnd s.rest
  · intro a t b t' hs hx hy
    cases (run_parts_of_atEnd hend).symm.trans hx
    exact .inl ⟨before, m, rfl, hs, hend, hy⟩
  obtain ⟨u, rest, hrest, hgoes⟩ := not_atEnd_iff.mp hend
  cases m with
  | zero => exact .malformed_right
  | succ m =>
    have hgo {before : List Part} (hstart : first' = false ∨ before ++ base ≠ []) (v : State) :
        RelatedAt more flags flags' (Reaches more flags flags' ctx' first' base) v
          (Parser.parts n ctx first before) (Parser.parts m ctx' first' (before ++ base)) :=
      ih.parts base v hctx hstart
    have hpush (before : List Part) (r : Regex) (repeatable : Bool) (v : State) :
        RelatedAt more flags flags' (Reaches more flags flags' ctx' first' base) v
          (Parser.parts n ctx first (⟨r, repeatable⟩ :: before))
          (Parser.parts m ctx' first' (⟨r, repeatable⟩ :: (before ++ base))) :=
      hgo (.inr (List.cons_ne_nil _ _)) v
    have hatStart : (first' && (before ++ base).isEmpty) = false := by
      rcases hstart with h | h
      · rw [h, Bool.false_and]
      · rw [List.isEmpty_eq_false_iff.mpr h, Bool.and_false]
    rw [Parser.parts, Parser.parts, hatStart]
    refine .peek_of_cons hrest ?_
    cases u with
    | escaped c =>
      dsimp only
      rw [hctx.escape]
      refine .next_of_cons hrest ?_
      exact (steady_escape hmore ctx.flags c _).bind fun r v _ => hpush before r _ v
    | plain c =>
      simp only [hctx.verbose, hctx.dotAll, hctx.multiline, hctx.fold, hctx.bracketClass]
      split
      · next h => cases h
      · next h => exact absurd (.inl (Option.some.inj h)) hgoes
      · next h => exact absurd (.inr (Option.some.inj h)) hgoes
      · next h => cases h
      · refine .next_of_cons hrest ?_
        split
        · exact hgo hstart _
        · split
          · next hcomment =>
            refine skipLine_bind hmore (hgo hstart) ?_
            intro a t b t' u' hne _ hu' hg
            obtain ⟨-, rfl⟩ := eq_of_atEnd (hu'.symm ▸ atEnd_nil) hg
            rw [Bool.and_eq_true, ← hctx.verbose] at hcomment
            exact .inr ⟨hcomment.1, hne, hu'⟩
          · split
            · exact (steady_bracketClass hmore ctx.flags _).bind fun r v _ => hpush before r _ v
            · exact hpush before _ _ _
            · exact hpush before _ _ _
            · exact hpush before _ _ _
            · refine RelatedAt.bind (ih.opening _ hctx) ?_
              rintro ⟨o, c⟩ t ⟨o', c'⟩ t' a v a' v' ⟨ho, hkept⟩ hf hg
              obtain ⟨hc, hc', ht, rfl⟩ := hkept (.inr rfl)
              obtain rfl : o' = o := ho
              obtain rfl : c = ctx := hc
              obtain rfl : c' = ctx' := hc'
              cases o' with
              | none => exact hgo hstart t ht hf hg
              | some r => exact hpush before _ _ t ht hf hg
            · refine (steady_repetition? hmore _ _).bind fun o v _ => ?_
              split
              · exact hpush before _ _ v
              · cases before with
                | nil => exact .malformed_left
                | cons p before =>
                  obtain ⟨r, repeatable⟩ := p
                  cases repeatable with
                  | false => exact .malformed_left
                  | true => exact (steady_greed hmore v).bind fun g w _ => hpush before _ _ w

end ReadsAlike

/-- All readers read alike, whatever their fuel. -/
theorem readsAlike (hmore : Closing more) (n : Nat) : ReadsAlike more flags flags' n := by
  induction n with
  | zero =>
    constructor
    · exact fun _ _ _ _ => .malformed_left
    · exact fun _ _ => .malformed_left
    · exact fun _ _ _ _ => .malformed_left
    · exact fun _ _ _ => .malformed_left
    · exact fun _ _ _ _ => .malformed_left
    · exact fun _ _ _ _ => .malformed_left
  | succ n ih =>
    constructor
    · exact fun _ s hctx hstart => ih.parts_succ hmore s hctx hstart
    · exact fun s hctx => ih.opening_succ hmore s hctx
    · exact fun s hctx hnested hflags => ih.alternatives_succ hmore s hctx hnested hflags
    · exact fun hctx hnested hnested' => ih.enclosed_succ hctx hnested hnested'
    · exact fun hctx hnested hnested' i => ih.capture_succ hctx hnested hnested' i
    · exact fun hctx hnested hnested' negated => ih.lookBehind_succ hctx hnested hnested' negated

end

end Rulebook.Regex.Parser
