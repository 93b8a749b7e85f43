import Rulebook.Proofs.Regex.Nested

/-!
Flags at the start of a pattern. Only what stands before the first part of a pattern can change the flags of the
whole pattern, and only where nothing precedes it. So a pattern that can also be read in a longer text, behind
something, has left its flags as they were.
-/

namespace Rulebook.Regex.Parser

variable {α β : Type}

/-- A reader leaves the flags of the whole pattern as they are. -/
def KeepsFlags (x : P α) : Prop := ∀ ⦃s a t⦄, x.run s = .ok (a, t) → t.flags = s.flags

theorem closing_nil : Closing [] := ⟨fun _ h => (nomatch h), List.not_mem_nil⟩

theorem Alike.refl (a : Flags) : Alike a a := ⟨a.unicode, rfl⟩

theorem State.longer_nil (s : State) : s.longer [] s.flags = s := by
  rw [State.longer, List.append_nil]

namespace KeepsFlags

theorem bind {x : P α} {f : α → P β} (h : KeepsFlags x) (hf : ∀ a, KeepsFlags (f a)) : KeepsFlags (x >>= f) := by
  intro s b u hx
  obtain ⟨a, t, hxa, hfa⟩ := run_bind_ok_iff.mp hx
  exact (hf a hfa).trans (h hxa)

theorem pure (a : α) : KeepsFlags (pure a) := by
  intro s b t hx
  cases hx
  rfl

theorem malformed : KeepsFlags (malformed : P α) := fun _ _ _ hx => nomatch hx

theorem next : KeepsFlags next := by
  intro s b t hx
  cases hx
  rfl

theorem get : KeepsFlags (get : P State) := by
  intro s b t hx
  cases hx
  rfl

/-- A reader that takes the same of a longer text keeps the flags. -/
theorem of_steady {x : P α} (h : ∀ flags, Steady [] flags flags x) : KeepsFlags x := by
  intro s a t hx
  exact (h s.flags s rfl hx (s.longer_nil.symm ▸ hx)).2.1

end KeepsFlags

theorem accept_keepsFlags {c : Char} (hparen : c ≠ ')') (hanchor : c ≠ '$') : KeepsFlags (accept c) :=
  .of_steady fun _ => steady_accept closing_nil hparen hanchor

theorem parts_keepsFlags {n : Nat} {ctx : Context} {first : Bool} {before : List Part}
    (hstart : first = false ∨ before ≠ []) : KeepsFlags (parts n ctx first before) := by
  intro s a t hx
  have hstart' : first = false ∨ before ++ [] ≠ [] := by rwa [List.append_nil]
  have hself : (parts n ctx first (before ++ [])).run (s.longer [] s.flags) = .ok (a, t) := by
    rwa [s.longer_nil, List.append_nil]
  rcases (readsAlike closing_nil n).parts [] s (Alike.refl ctx.flags) hstart' rfl hx hself with
    ⟨_, _, -, ht, -⟩ | ⟨-, hne, -⟩
  · exact ht
  · exact absurd rfl hne

theorem opening_flags {n : Nat} {ctx : Context} {atStart : Bool} {s t : State} {p : Option Regex × Context}
    (hx : (opening n ctx atStart).run s = .ok (p, t)) (hkept : p.1 ≠ none ∨ atStart = false) :
    t.flags = s.flags := by
  have hself : (opening n ctx atStart).run (s.longer [] s.flags) = .ok (p, t) := by rwa [s.longer_nil]
  exact (((readsAlike closing_nil n).opening s (Alike.refl ctx.flags) rfl hx hself).2 hkept).2.2.1

/-- Alternatives after the first change no flags. -/
theorem alternatives_keepsFlags (n : Nat) (ctx : Context) : KeepsFlags (alternatives n ctx false) := by
  induction n generalizing ctx with
  | zero => exact .malformed
  | succ n ih =>
    rw [alternatives]
    refine .bind (parts_keepsFlags (.inl rfl)) fun r => ?_
    refine .bind (accept_keepsFlags (by decide) (by decide)) fun taken => ?_
    split
    · exact .bind .get fun s => .bind (ih _) fun _ => .pure _
    · exact .pure _

/-- The flags that alternatives leave are those that the first leaves. -/
theorem exists_parts_of_alternatives {n : Nat} {ctx : Context} {first : Bool} {s u : State} {a : Regex}
    (hx : (alternatives (n + 1) ctx first).run s = .ok (a, u)) :
    ∃ r t, (parts n ctx (first && !ctx.nested) []).run s = .ok (r, t) ∧ u.flags = t.flags := by
  rw [alternatives] at hx
  obtain ⟨r, t, hparts, hx⟩ := run_bind_ok_iff.mp hx
  refine ⟨r, t, hparts, (accept_keepsFlags (by decide) (by decide)).bind (fun taken => ?_) hx⟩
  split
  · exact .bind .get fun s => .bind (alternatives_keepsFlags n _) fun _ => .pure _
  · exact .pure _

/-! ### Openings that give no part -/

/-- A reader of a group gives a part. -/
def GivesPart (x : P (Option Regex × Context)) : Prop := ∀ ⦃s p t⦄, x.run s = .ok (p, t) → p.1 ≠ none

namespace GivesPart

theorem bind {x : P α} {f : α → P (Option Regex × Context)} (hf : ∀ a, GivesPart (f a)) :
    GivesPart (x >>= f) := by
  intro s p u hx
  obtain ⟨a, t, -, hfa⟩ := run_bind_ok_iff.mp hx
  exact hf a hfa

theorem pure (r : Regex) (ctx : Context) : GivesPart (pure (some r, ctx)) := by
  intro s p t hx
  cases hx
  exact Option.some_ne_none r

theorem malformed : GivesPart malformed := fun _ _ _ hx => nomatch hx

theorem related {more : List Token} {flags flags' : Flags} {s : State} {x y : P (Option Regex × Context)}
    {R : Option Regex × Context → State → Option Regex × Context → State → Prop} (h : GivesPart x) :
    RelatedAt more flags flags' (fun p t p' t' => p.1 = none → R p t p' t') s x y :=
  fun _ _ _ _ _ hx _ hnone => absurd hnone (h hx)

end GivesPart

variable {more : List Token} {flags flags' : Flags}

/-- A group that gives no part is a comment, which is read alike under any flags, or flags for the whole pattern,
which can only be at its start. -/
theorem related_opening_none (hmore : Closing more) {n m : Nat} {ctx ctx' : Context} {atStart atStart' : Bool}
    (s : State) :
    RelatedAt more flags flags' (fun p t p' t' => p.1 = none →
        p = (none, ctx) ∧ p' = (none, ctx') ∧ t.flags = flags ∧ t' = t.longer more flags' ∨
        atStart' = true ∧ ∃ on, t.flags = flags.union on) s
      (opening n ctx atStart) (opening m ctx' atStart') := by
  cases n with
  | zero => exact .malformed_left
  | succ n =>
    cases m with
    | zero => exact .malformed_right
    | succ m =>
      rw [opening, opening]
      dsimp only
      refine (steady_accept hmore (by decide) (by decide) s).bind fun marked t _ => ?_
      split
      · exact GivesPart.related (.bind fun i => .bind fun r => .pure _ _)
      · refine .next rfl fun c t => ?_
        split
        · refine GivesPart.related (.bind fun named => ?_)
          split
          · exact .bind fun name => .bind fun i => .bind fun r => .pure _ _
          · refine .bind fun referred => ?_
            split
            · refine .bind fun name => .bind fun u => ?_
              split
              · exact .bind fun r => .pure _ _
              · exact .malformed
            · exact .malformed
        · exact GivesPart.related (.bind fun r => .pure _ _)
        · -- a comment
          refine (steady_skipComment t).bind fun _ u _ => ?_
          intro p v p' v' hu hx hy _
          cases hx
          cases hy
          exact .inl ⟨rfl, rfl, hu, rfl⟩
        · exact GivesPart.related (.bind fun r => .pure _ _)
        · exact GivesPart.related (.bind fun r => .pure _ _)
        · refine .next rfl fun c t => GivesPart.related ?_
          split
          · exact .bind fun r => .pure _ _
          · exact .bind fun r => .pure _ _
          · exact .malformed
        · refine GivesPart.related (.bind fun i => .bind fun yes => .bind fun barred => ?_)
          split
          · exact .bind fun no => .bind fun _ => .pure _ _
          · exact .bind fun no => .bind fun _ => .pure _ _
        · exact GivesPart.related (.bind fun r => .pure _ _)
        · -- flags
          refine RelatedAt.bind (related_groupFlags _ t) ?_
          rintro (_ | ⟨on, off⟩) u o u' p v p' v' ⟨rfl, -, hunion⟩ hf hg hnone
          · cases atStart' with
            | false => cases hg
            | true =>
              refine .inr ⟨rfl, ?_⟩
              cases atStart <;> cases hf
              exact hunion
          · exact absurd hnone (GivesPart.bind (fun r => .pure _ _) hf)
        · exact .malformed_left

/-! ### The start of a pattern -/

theorem run_next_cons {f : Option Token → P β} {s : State} {u : Token} {rest : List Token}
    (h : s.rest = u :: rest) : (next >>= f).run s = (f (some u)).run { s with rest } := by
  show (f s.rest.head?).run { s with rest := s.rest.tail } = _
  rw [h]
  rfl

theorem not_blank_paren (verbose : Bool) : ¬ (verbose && " \t\n\r\x0b\x0c".toList.contains '(') = true := by
  cases verbose <;> decide

theorem not_comment_paren (verbose : Bool) : ¬ (verbose && '(' == '#') = true := by
  cases verbose <;> decide

/-- The flags after a reading from the start. They stay verbose, and where another reading, which is not at the
start, goes through as well they stay as they were. -/
structure StartFlags (flags : Flags) (first' : Bool) (t : State) : Prop where
  verbose : flags.verbose = true → t.flags.verbose = true
  kept : first' = false → t.flags = flags

theorem StartFlags.of_eq {t : State} {first' : Bool} (h : t.flags = flags) : StartFlags flags first' t :=
  ⟨fun hverbose => h ▸ hverbose, fun _ => h⟩

/-- Before its first part a pattern has blanks and comments, which another reading passes over too, and flags for
the whole pattern, which only grow and which no reading takes behind something. -/
def LeadsAlike (n : Nat) : Prop :=
  ∀ ⦃more : List Token⦄ ⦃flags flags' : Flags⦄ (_ : Closing more) (m : Nat) ⦃ctx ctx' : Context⦄ (first' : Bool)
    (s : State), (ctx.flags.verbose = true → ctx'.flags.verbose = true) →
    RelatedAt more flags flags' (fun _ t _ _ => StartFlags flags first' t) s
      (parts n ctx true []) (parts m ctx' first' [])

namespace LeadsAlike

variable {n m : Nat} {ctx ctx' : Context} {first' : Bool}

theorem group (ih : LeadsAlike n) (hmore : Closing more) (s : State)
    (hverbose : ctx.flags.verbose = true → ctx'.flags.verbose = true) :
    RelatedAt more flags flags' (fun _ t _ _ => StartFlags flags first' t) s
      (do match ← opening n ctx true with
        | (some r, ctx) => parts n ctx true [⟨r, true⟩]
        | (none, ctx) => parts n ctx true [])
      (do match ← opening m ctx' (first' && true) with
        | (some r, ctx) => parts m ctx first' [⟨r, true⟩]
        | (none, ctx) => parts m ctx first' []) := by
  intro a t b t' hs hx hy
  obtain ⟨⟨o, c⟩, u, hopen, hx⟩ := run_bind_ok_iff.mp hx
  obtain ⟨⟨o', c'⟩, u', hopen', hy⟩ := run_bind_ok_iff.mp hy
  cases o with
  | some r =>
    have hu := (opening_flags hopen (.inl (Option.some_ne_none r))).trans hs
    exact .of_eq ((parts_keepsFlags (.inr (List.cons_ne_nil _ _)) hx).trans hu)
  | none =>
    rcases related_opening_none hmore _ hs hopen hopen' rfl with ⟨hp, hp', hu, rfl⟩ | ⟨hstart, on, hu⟩
    · cases hp
      cases hp'
      exact ih hmore m first' u hverbose hu hx hy
    · -- after flags the reading goes on from the start, so it is compared with itself
      have hself := ih closing_nil n true u id rfl hx (u.longer_nil.symm ▸ hx)
      refine ⟨fun h => hself.verbose ?_, fun h => ?_⟩
      · rw [hu, Flags.union, Flags.zip, h, Bool.true_or]
      · rw [h] at hstart
        cases hstart

theorem succ (ih : LeadsAlike n) : LeadsAlike (n + 1) := by
  intro more flags flags' hmore m ctx ctx' first' s hverbose
  have hkept {v : State} {x y : P Regex} (h : KeepsFlags x) :
      RelatedAt more flags flags' (fun _ t _ _ => StartFlags flags first' t) v x y :=
    fun _ _ _ _ hv hx _ => .of_eq ((h hx).trans hv)
  have hpush (p : Part) : KeepsFlags (parts n ctx true [p]) := parts_keepsFlags (.inr (List.cons_ne_nil _ _))
  by_cases hend : AtEnd s.rest
  · intro a t b t' hs hx _
    cases (run_parts_of_atEnd hend).symm.trans hx
    exact .of_eq hs
  cases m with
  | zero => exact .malformed_right
  | succ m =>
    rw [parts, parts]
    obtain ⟨u, rest, hrest, hgoes⟩ := not_atEnd_iff.mp hend
    refine .peek_of_cons hrest ?_
    split
    · next h => cases h
    · next h => exact absurd (.inl (Option.some.inj h)) hgoes
    · next h => exact absurd (.inr (Option.some.inj h)) hgoes
    · exact hkept (.bind .next fun _ => .bind (.of_steady fun _ => steady_escape closing_nil _ _) fun r => hpush _)
    · next c _ _ _ =>
      refine .next_of_cons hrest ?_
      by_cases hblank : (ctx.flags.verbose && " \t\n\r\x0b\x0c".toList.contains c) = true
      · obtain ⟨hon, hblank'⟩ := Bool.and_eq_true_iff.mp hblank
        rw [if_pos hblank, if_pos (by rw [hverbose hon, hblank', Bool.and_true])]
        exact ih hmore m first' _ hverbose
      by_cases hcomment : (ctx.flags.verbose && c == '#') = true
      · obtain ⟨hon, hsharp⟩ := Bool.and_eq_true_iff.mp hcomment
        obtain rfl := beq_iff_eq.mp hsharp
        rw [if_neg hblank, if_pos hcomment, hverbose hon]
        refine .of_flags fun hs => skipLine_bind hmore (fun t => ih hmore m first' t hverbose) ?_
        -- where the comment is the end of the text, the flags are as they were
        intro a t b t' u' _ hf _ _
        obtain ⟨-, rfl⟩ := eq_of_atEnd atEnd_nil hf
        exact .of_eq hs
      rw [if_neg hblank, if_neg hcomment]
      split
      · exact hkept (.bind (.of_steady fun _ => steady_bracketClass closing_nil _) fun r => hpush _)
      · exact hkept (hpush _)
      · exact hkept (hpush _)
      · exact hkept (hpush _)
      · rw [if_neg (not_blank_paren _), if_neg (not_comment_paren _)]
        exact ih.group hmore _ hverbose
      · refine hkept (.bind (.of_steady fun _ => steady_repetition? closing_nil _) fun o => ?_)
        split
        · exact hpush _
        · exact .malformed

end LeadsAlike

theorem leadsAlike (n : Nat) : LeadsAlike n := by
  induction n with
  | zero =>
    intro more flags flags' _ m ctx ctx' first' s _
    exact .malformed_left
  | succ n ih => exact ih.succ

variable {n m : Nat} {ctx ctx' : Context} {s t t' : State} {a b : Regex}

/-- A pattern that is verbose at its start stays so. -/
theorem verbose_of_alternatives (hnested : ctx.nested = false) (hx : (alternatives n ctx true).run s = .ok (a, t))
    (h : s.flags.verbose = true) : t.flags.verbose = true := by
  cases n with
  | zero => cases hx
  | succ n =>
    obtain ⟨r, u, hparts, ht⟩ := exists_parts_of_alternatives hx
    rw [hnested] at hparts
    rw [ht]
    exact (leadsAlike n closing_nil n true s id rfl hparts (s.longer_nil.symm ▸ hparts)).verbose h

/-- A pattern that is also read in parentheses leaves its flags as they were. -/
theorem flags_of_alternatives (hmore : Closing more) (hnested : ctx.nested = false) (hnested' : ctx'.nested = true)
    (hverbose : ctx.flags.verbose = true → ctx'.flags.verbose = true) {first' : Bool}
    (hx : (alternatives n ctx true).run s = .ok (a, t))
    (hy : (alternatives m ctx' first').run (s.longer more flags') = .ok (b, t')) : t.flags = s.flags := by
  cases n with
  | zero => cases hx
  | succ n =>
    cases m with
    | zero => cases hy
    | succ m =>
      obtain ⟨r, u, hparts, ht⟩ := exists_parts_of_alternatives hx
      obtain ⟨r', u', hparts', -⟩ := exists_parts_of_alternatives hy
      rw [hnested] at hparts
      rw [hnested', Bool.not_true, Bool.and_false] at hparts'
      exact ht.trans ((leadsAlike n hmore m false s hverbose rfl hparts hparts').kept rfl)

end Rulebook.Regex.Parser
