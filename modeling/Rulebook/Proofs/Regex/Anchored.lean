import Rulebook.Proofs.Regex.Language
import Rulebook.Proofs.Regex.Leading

/-!
Patterns between anchors. A pattern in parentheses between anchors is held to both ends of a text as a whole.
Without parentheses, only its first alternative is held to the start and only its last to the end.
-/

namespace Rulebook.Regex

namespace Parser

/-! ### From texts to readings -/

theorem tokens?_append {cs ds : List Char} {ts us : List Token} (hcs : tokens? cs = some ts)
    (hds : tokens? ds = some us) : tokens? (cs ++ ds) = some (ts ++ us) := by
  induction cs using tokens?.induct generalizing ts with
  | case1 =>
    cases hcs
    exact hds
  | case2 => cases hcs
  | case3 c rest ih =>
    rw [tokens?] at hcs
    obtain ⟨more, hmore, rfl⟩ := Option.map_eq_some_iff.mp hcs
    rw [List.cons_append, List.cons_append, tokens?, ih hmore]
    rfl
  | case4 c rest hlast hescape ih =>
    have hplain : c ≠ '\\' := by
      rintro rfl
      cases rest with
      | nil => exact hlast rfl rfl
      | cons d rest => exact hescape d rest rfl rfl
    rw [tokens?] at hcs
    · obtain ⟨more, hmore, rfl⟩ := Option.map_eq_some_iff.mp hcs
      rw [List.cons_append, tokens?, ih hmore]
      · rfl
      · exact fun h => absurd h hplain
      · exact fun _ _ h => absurd h hplain
    · exact hlast
    · exact hescape

/-- The state in which the reading of a pattern starts. -/
abbrev State.initial (rest : List Token) (flags : Flags) : State := ⟨rest, flags, 0, [], [], none, [], false⟩

/-- A pattern is the alternatives that its whole text is read as. -/
theorem alternatives_of_compile {flags : Flags} {source : String} {p : Compiled} (h : compile flags source = .ok p) :
    p.source = source ∧ ∃ ts t, tokens? source.toList = some ts ∧ t.rest = [] ∧ t.flags = p.flags ∧
      (alternatives (5 * ts.length + 5) ⟨flags, false⟩ true).run (.initial ts flags) = .ok (p.regex, t) := by
  unfold compile at h
  split at h
  · cases h
  · next ts hts =>
    cases hwhole : (whole ts.length).run (.initial ts flags) with
    | error e =>
      rw [hwhole] at h
      cases h
    | ok q =>
      rw [hwhole] at h
      cases h
      obtain ⟨r, u⟩ := q
      unfold whole at hwhole
      obtain ⟨s, v, hs, hwhole⟩ := run_bind_ok_iff.mp hwhole
      cases hs
      obtain ⟨r', t, hr, hwhole⟩ := run_bind_ok_iff.mp hwhole
      obtain ⟨s, v, hs, hwhole⟩ := run_bind_ok_iff.mp hwhole
      cases hs
      dsimp only at hwhole
      split at hwhole
      · cases hwhole
      · split at hwhole
        · cases hwhole
        · next hrest =>
          split at hwhole
          · cases hwhole
          · cases hwhole
            simp only [Bool.or_eq_true, not_or, Bool.not_eq_true, Bool.not_eq_false', List.isEmpty_iff] at hrest
            exact ⟨rfl, ts, u, hts, hrest.1.1, rfl, hr⟩

/-! ### Steps -/

variable {n : Nat} {ctx : Context} {first : Bool} {before : List Part} {s : State} {rest : List Token}

theorem parts_of_anchor {c : Char} {a : Anchor} {p : Regex × State}
    (hc : c = '^' ∧ a = .textStart ∨ c = '$' ∧ a = .textEnd) (hmultiline : ctx.flags.multiline = false)
    (hrest : s.rest = .plain c :: rest) (hx : (parts n ctx first before).run s = .ok p) :
    ∃ k, (parts k ctx first (⟨.anchor a, false⟩ :: before)).run { s with rest } = .ok p := by
  cases n with
  | zero => cases hx
  | succ n =>
    refine ⟨n, hx ▸ ?_⟩
    rw [parts, run_peek_bind, hrest]
    rcases hc with ⟨rfl, rfl⟩ | ⟨rfl, rfl⟩
    all_goals
      show _ = (next >>= _).run s
      rw [run_next_cons hrest]
      cases hverbose : ctx.flags.verbose <;> simp [hmultiline]

theorem parts_of_noncapturing {p : Regex × State}
    (hrest : s.rest = .plain '(' :: .plain '?' :: .plain ':' :: rest)
    (hx : (parts n ctx first before).run s = .ok p) :
    ∃ k m r t, (alternatives k { ctx with nested := true } false).run { s with rest } = .ok (r, t) ∧
      t.rest.head? = some (.plain ')') ∧
      (parts m ctx first (⟨r, true⟩ :: before)).run { t with rest := t.rest.tail } = .ok p := by
  rcases n with _ | _ | _ | n
  · cases hx
  all_goals
    rw [parts, run_peek_bind, hrest] at hx
    replace hx : (next >>= _).run s = _ := hx
    rw [run_next_cons hrest, if_neg (not_blank_paren _), if_neg (not_comment_paren _)] at hx
    obtain ⟨⟨o, c⟩, t, hopen, hx⟩ := run_bind_ok_iff.mp hx
  · cases hopen
  all_goals
    rw [opening] at hopen
    obtain ⟨_, v, haccept, hopen⟩ := run_bind_ok_iff.mp hopen
    cases haccept
    obtain ⟨_, v, hnext, hopen⟩ := run_bind_ok_iff.mp hopen
    cases hnext
    obtain ⟨r, w, hgroup, hopen⟩ := run_bind_ok_iff.mp hopen
    cases hopen
  · cases hgroup
  · rw [enclosed] at hgroup
    obtain ⟨r, t, hr, hend⟩ := run_bind_ok_iff.mp hgroup
    obtain ⟨_, v, hexpect, hpure⟩ := run_bind_ok_iff.mp hend
    obtain ⟨hhead, rfl⟩ := run_expect_ok_iff.mp hexpect
    cases hpure
    exact ⟨n, _, r, t, hr, hhead, hx⟩

/-- Alternatives that leave nothing after the first are the first. -/
theorem parts_of_alternatives {a : Regex} {t : State} (hx : (alternatives n ctx first).run s = .ok (a, t)) :
    ∃ k r u, (parts k ctx (first && !ctx.nested) []).run s = .ok (r, u) ∧ (u.rest = [] → a = r) := by
  cases n with
  | zero => cases hx
  | succ n =>
    rw [alternatives] at hx
    obtain ⟨r, u, hparts, hx⟩ := run_bind_ok_iff.mp hx
    refine ⟨n, r, u, hparts, fun hrest => ?_⟩
    rw [run_accept_bind_nil hrest] at hx
    cases hx
    rfl

/-! ### A pattern in parentheses -/

theorem closing_paren : Closing [.plain ')', .plain '$'] := ⟨by simp, by decide⟩

/-- A reading in parentheses between anchors is a reading on its own between anchors. -/
theorem alternatives_grouped {flags flags' : Flags} {ts : List Token} {t t' : State} {a b : Regex} {n m : Nat}
    (hmultiline : flags'.multiline = false)
    (hflags : flags' = t.flags ∨ flags' = { t.flags with unicode := true })
    (hx : (alternatives n ⟨flags, false⟩ true).run (.initial ts flags) = .ok (a, t)) (hrest : t.rest = [])
    (hy : (alternatives m ⟨flags', false⟩ true).run
      (.initial ([.plain '^', .plain '(', .plain '?', .plain ':'] ++ ts ++ [.plain ')', .plain '$']) flags') =
        .ok (b, t')) : b = entire a := by
  obtain ⟨_, r, u, hparts, hb⟩ := parts_of_alternatives hy
  obtain ⟨_, hparts⟩ := parts_of_anchor (.inl ⟨rfl, rfl⟩) hmultiline rfl hparts
  obtain ⟨k, _, c, v, hc, hhead, hparts⟩ := parts_of_noncapturing rfl hparts
  replace hc : (alternatives k ⟨flags', true⟩ false).run
    ((State.initial ts flags).longer [.plain ')', .plain '$'] flags') = .ok (c, v) := hc
  have hverbose : flags.verbose = true → flags'.verbose = true := by
    intro h
    have ht := verbose_of_alternatives rfl hx h
    rcases hflags with rfl | rfl <;> exact ht
  obtain rfl : t.flags = flags := flags_of_alternatives closing_paren rfl rfl hverbose hx hc
  have hctx : Alike t.flags flags' := by
    rcases hflags with rfl | rfl
    · exact .refl _
    · exact ⟨true, rfl⟩
  rcases (readsAlike closing_paren n).alternatives _ hctx rfl (.inr rfl) rfl hx hc with
    ⟨rfl, -, rfl⟩ | ⟨-, hnil⟩ | ⟨-, hanchor⟩
  · have hleft : (t.longer [.plain ')', .plain '$'] flags').rest.tail = [.plain '$'] := by
      rw [State.longer, hrest]
      rfl
    obtain ⟨_, hparts⟩ := parts_of_anchor (.inr ⟨rfl, rfl⟩) hmultiline hleft hparts
    obtain ⟨rfl, rfl⟩ := eq_of_atEnd atEnd_nil hparts
    exact hb rfl
  · rw [hnil] at hhead
    cases hhead
  · cases hanchor

/-! ### Alternatives one by one -/

/-- Alternatives up to a closing parenthesis or the end, one by one. -/
def branches : Nat → Context → Bool → P (List Regex)
  | 0, _, _ => malformed
  | fuel + 1, ctx, first => do
    let r ← parts fuel ctx (first && !ctx.nested) []
    if ← accept '|' then
      let flags := (← get).flags
      return r :: (← branches fuel (if ctx.nested then ctx else { ctx with flags }) false)
    else return [r]

theorem branches_of_alternatives {a : Regex} {u : State} (hx : (alternatives n ctx first).run s = .ok (a, u)) :
    ∃ r rs, (branches n ctx first).run s = .ok (r :: rs, u) ∧ a = firstOf (r :: rs) := by
  induction n generalizing ctx first s a with
  | zero => cases hx
  | succ n ih =>
    rw [alternatives] at hx
    obtain ⟨r, t, hparts, hx⟩ := run_bind_ok_iff.mp hx
    obtain ⟨taken, v, haccept, hx⟩ := run_bind_ok_iff.mp hx
    cases taken with
    | true =>
      obtain ⟨_, w, hget, hx⟩ := run_bind_ok_iff.mp hx
      cases hget
      obtain ⟨b, w, hmore, hx⟩ := run_bind_ok_iff.mp hx
      cases hx
      obtain ⟨q, qs, hqs, rfl⟩ := ih hmore
      refine ⟨r, q :: qs, ?_, rfl⟩
      refine run_bind_ok_iff.mpr ⟨r, t, hparts, run_bind_ok_iff.mpr ⟨true, v, haccept, ?_⟩⟩
      exact run_bind_ok_iff.mpr ⟨v, v, rfl, run_bind_ok_iff.mpr ⟨_, _, hqs, rfl⟩⟩
    | false =>
      cases hx
      refine ⟨a, [], ?_, rfl⟩
      exact run_bind_ok_iff.mpr ⟨a, t, hparts, run_bind_ok_iff.mpr ⟨false, u, haccept, rfl⟩⟩

/-- After one alternative there are others, or nothing that separates one. -/
def GoesOn (n : Nat) (ctx : Context) (r : Regex) (t : State) (rs : List Regex) (u : State) : Prop :=
  (t.rest.head? ≠ some (.plain '|') ∧ rs = [r] ∧ u = t) ∨
  ∃ rest qs, t.rest = .plain '|' :: rest ∧ rs = r :: qs ∧
    (branches n (if ctx.nested then ctx else { ctx with flags := t.flags }) false).run { t with rest } = .ok (qs, u)

theorem parts_of_branches {rs : List Regex} {u : State} (hx : (branches n ctx first).run s = .ok (rs, u)) :
    ∃ k r t, (parts k ctx (first && !ctx.nested) []).run s = .ok (r, t) ∧ GoesOn k ctx r t rs u ∧ k < n := by
  cases n with
  | zero => cases hx
  | succ n =>
    rw [branches] at hx
    obtain ⟨r, t, hparts, hx⟩ := run_bind_ok_iff.mp hx
    obtain ⟨taken, v, haccept, hx⟩ := run_bind_ok_iff.mp hx
    refine ⟨n, r, t, hparts, ?_, Nat.lt_succ_self n⟩
    rw [run_accept] at haccept
    split at haccept
    · next hhead =>
      cases haccept
      obtain ⟨rest, hrest⟩ := List.head?_eq_some_iff.mp hhead
      obtain ⟨_, w, hget, hx⟩ := run_bind_ok_iff.mp hx
      cases hget
      obtain ⟨qs, w, hqs, hx⟩ := run_bind_ok_iff.mp hx
      cases hx
      rw [hrest] at hqs
      exact .inr ⟨rest, qs, hrest, rfl, hqs⟩
    · next hhead =>
      cases haccept
      cases hx
      exact .inl ⟨hhead, rfl, rfl⟩

/-! ### A pattern between anchors -/

theorem ends_sequence_cons (r : Regex) (rs : List Regex) (c : Cursor) :
    (sequence (r :: rs)).ends c = ((sequence rs).ends c).flatMap r.ends := by
  induction rs generalizing r with
  | nil => exact (List.flatMap_singleton ..).symm
  | cons q qs ih =>
    have hstep : sequence (r :: q :: qs) = sequence (.seq q r :: qs) := rfl
    rw [hstep, ih, ih, List.flatMap_assoc]
    rfl

theorem ends_sequence_concat (rs : List Regex) (r : Regex) (c : Cursor) :
    (sequence (rs ++ [r])).ends c = (r.ends c).flatMap (sequence rs).ends := by
  cases rs with
  | nil => exact (List.flatMap_singleton' ..).symm
  | cons q qs =>
    have hstep : sequence (q :: qs ++ [r]) = .seq r (sequence (q :: qs)) := by
      rw [List.cons_append, sequence, List.foldl_append]
      rfl
    rw [hstep]
    rfl

end Parser

/-- The last of some alternatives is held to the end. -/
def heldToEnd : List Regex → List Regex
  | [] => []
  | [r] => [.seq r (.anchor .textEnd)]
  | r :: rs => r :: heldToEnd rs

/-- The first of some alternatives is held to the start and the last to the end. -/
def anchored : List Regex → List Regex
  | [] => []
  | r :: rs => heldToEnd (.seq (.anchor .textStart) r :: rs)

namespace Parser

theorem closing_anchor : Closing [.plain '$'] := ⟨by simp, by decide⟩

variable {n m : Nat} {ctx : Context} {first first' : Bool} {s t t' u u' : State} {r r' : Regex}
  {rs rs' : List Regex}

/-- A sequence in front of an anchor is read as it is, and the anchor with it where nothing follows it. -/
theorem parts_before_anchor (base : List Part) (hmultiline : ctx.flags.multiline = false)
    (hverbose : ctx.flags.verbose = false) (hstart : first' = false ∨ base ≠ []) (hs : s.flags = ctx.flags)
    (hx : (parts n ctx first []).run s = .ok (r, t))
    (hy : (parts m ctx first' base).run (s.longer [.plain '$'] ctx.flags) = .ok (r', t')) :
    ∃ xs, r = sequence xs ∧ t.flags = ctx.flags ∧
      (t.rest = [] ∧ t'.rest = [] ∧ r' = sequence (.anchor .textEnd :: (xs ++ base.map (·.regex))) ∨
        t.rest ≠ [] ∧ t' = t.longer [.plain '$'] ctx.flags ∧ r' = sequence (xs ++ base.map (·.regex))) := by
  rcases (readsAlike closing_anchor n).parts base s (Alike.refl _) hstart hs hx hy with
    ⟨xs, k, rfl, ht, hend, hy⟩ | ⟨h, -⟩
  · refine ⟨_, rfl, ht, ?_⟩
    by_cases hrest : t.rest = []
    · have hleft : (t.longer [.plain '$'] ctx.flags).rest = [.plain '$'] := by rw [State.longer, hrest]; rfl
      obtain ⟨_, hy⟩ := parts_of_anchor (.inr ⟨rfl, rfl⟩) hmultiline hleft hy
      obtain ⟨rfl, rfl⟩ := eq_of_atEnd atEnd_nil hy
      exact .inl ⟨hrest, rfl, by rw [List.map_cons, List.map_append]⟩
    · obtain ⟨rfl, rfl⟩ := eq_of_atEnd (hend.longer closing_anchor fun h => hrest h.1) hy
      exact .inr ⟨hrest, rfl, by rw [List.map_append]⟩
  · rw [hverbose] at h
    cases h

/-- The alternatives after one are read as they are, and the anchor with the last. -/
theorem goesOn_anchored (hmultiline : ctx.flags.multiline = false) (hverbose : ctx.flags.verbose = false)
    {ys : List Regex} (hx : GoesOn n ctx r t rs u) (hu : u.rest = [])
    (ht : t.flags = ctx.flags) (hy : GoesOn m ctx r' t' rs' u')
    (h : t.rest = [] ∧ t'.rest = [] ∧ r' = sequence (.anchor .textEnd :: ys) ∨
      t.rest ≠ [] ∧ t' = t.longer [.plain '$'] ctx.flags ∧ r' = sequence ys) :
    ∃ qs, rs = r :: qs ∧ rs'.map ends = (heldToEnd (sequence ys :: qs)).map ends := by
  induction n using Nat.strong_induction_on generalizing m r r' t t' rs rs' ys with
  | _ n ih =>
    have hctx {flags : Flags} (h : flags = ctx.flags) :
        (if ctx.nested then ctx else { ctx with flags }) = ctx := by rw [h, ite_self]
    rcases h with ⟨hrest, hrest', rfl⟩ | ⟨hne, rfl, rfl⟩
    · rcases hx with ⟨-, rfl, -⟩ | ⟨_, _, hbar, -⟩
      · rcases hy with ⟨-, rfl, -⟩ | ⟨_, _, hbar, -⟩
        · exact ⟨[], rfl, congrArg (fun e => [e]) (funext fun c => ends_sequence_cons _ _ c)⟩
        · cases hrest'.symm.trans hbar
      · cases hrest.symm.trans hbar
    · rcases hx with ⟨-, -, rfl⟩ | ⟨rest, qs, hbar, rfl, hqs⟩
      · exact absurd hu hne
      have hbar' : (t.longer [.plain '$'] ctx.flags).rest = .plain '|' :: (rest ++ [.plain '$']) := by
        rw [State.longer, hbar]
        rfl
      rcases hy with ⟨hhead, -⟩ | ⟨rest', qs', hrest', rfl, hqs'⟩
      · exact absurd (by rw [hbar']; rfl) hhead
      rw [hctx ht] at hqs
      obtain rfl : rest' = rest ++ [.plain '$'] := (List.cons.inj (hrest'.symm.trans hbar')).2
      replace hqs' : (branches m (if ctx.nested then ctx else { ctx with flags := ctx.flags }) false).run
        (State.longer [.plain '$'] ctx.flags { t with rest }) = .ok (qs', u') := hqs'
      rw [hctx rfl] at hqs'
      obtain ⟨k, q, v, hparts, hgoes, hlt⟩ := parts_of_branches hqs
      obtain ⟨k', q', v', hparts', hgoes', -⟩ := parts_of_branches hqs'
      obtain ⟨xs, rfl, hv, h⟩ :=
        parts_before_anchor (s := { t with rest }) [] hmultiline hverbose (.inl rfl) ht hparts hparts'
      obtain ⟨qs, rfl, hmap⟩ := ih k hlt hgoes hv hgoes' h
      refine ⟨_, rfl, ?_⟩
      rw [List.map_nil, List.append_nil] at hmap
      rw [List.map_cons, hmap]
      rfl

theorem map_ends_heldToEnd {q : Regex} (h : r.ends = q.ends) (rs : List Regex) :
    (heldToEnd (r :: rs)).map ends = (heldToEnd (q :: rs)).map ends := by
  cases rs with
  | nil => exact congrArg (fun e => [e]) (funext fun c => by rw [ends, ends, h])
  | cons p rs => exact congrArg (· :: (heldToEnd (p :: rs)).map ends) h

/-- The alternatives of a text between anchors have the ends of those of the text, the first held to the start
and the last to the end. -/
theorem branches_anchored {flags : Flags} {ts : List Token} (hmultiline : flags.multiline = false)
    (hverbose : flags.verbose = false)
    (hx : (branches n ⟨flags, false⟩ true).run (.initial ts flags) = .ok (rs, u)) (hu : u.rest = [])
    (hy : (branches m ⟨flags, false⟩ true).run (.initial ([.plain '^'] ++ ts ++ [.plain '$']) flags) =
      .ok (rs', u')) : rs'.map ends = (anchored rs).map ends := by
  obtain ⟨_, r, t, hparts, hgoes, -⟩ := parts_of_branches hx
  obtain ⟨_, r', t', hparts', hgoes', -⟩ := parts_of_branches hy
  obtain ⟨_, hparts'⟩ := parts_of_anchor (.inl ⟨rfl, rfl⟩) hmultiline rfl hparts'
  obtain ⟨xs, rfl, ht, h⟩ :=
    parts_before_anchor _ hmultiline hverbose (.inr (List.cons_ne_nil _ _)) rfl hparts hparts'
  obtain ⟨qs, rfl, hmap⟩ := goesOn_anchored hmultiline hverbose hgoes hu ht hgoes' h
  rw [hmap]
  exact map_ends_heldToEnd (funext fun c => ends_sequence_concat _ _ c) qs

end Parser

/-! ### Matches between anchors -/

/-- A match goes from the start of a text to its end, or to the line feed that ends it. -/
def Spans (r : Regex) (cs : List Char) : Prop := ∃ d ∈ r.ends (.start cs), LastLineFeed d.after

/-- An alternative matches in a text, the first of them only from the start, and the last only up to the end or
the line feed that ends it. -/
def MatchesBetween (rs : List Regex) (cs : List Char) : Prop :=
  ∃ before r after passed rest d, rs = before ++ r :: after ∧ cs = passed ++ rest ∧
    d ∈ r.ends (.between passed rest) ∧ (before = [] → passed = []) ∧ (after = [] → LastLineFeed d.after)

/-- A single alternative is held to both ends. -/
theorem matchesBetween_singleton {r : Regex} {cs : List Char} : MatchesBetween [r] cs ↔ r.Spans cs := by
  constructor
  · rintro ⟨_ | ⟨b, before⟩, q, after, passed, rest, d, heq, rfl, hd, hfirst, hlast⟩
    · cases heq
      obtain rfl := hfirst rfl
      exact ⟨d, hd, hlast rfl⟩
    · simp at heq
  · rintro ⟨d, hd, hlast⟩
    exact ⟨[], r, [], [], cs, d, rfl, rfl, hd, fun _ => rfl, fun _ => hlast⟩

theorem mem_ends_textStart_seq {r : Regex} {passed rest : List Char} {d : Cursor} :
    d ∈ (seq (.anchor .textStart) r).ends (.between passed rest) ↔
      passed = [] ∧ d ∈ r.ends (.between passed rest) := by
  have hholds : Anchor.textStart.holds (.between passed rest) = true ↔ passed = [] := by
    simp [Anchor.holds, Cursor.between]
  rw [ends, ends]
  split
  · next h => simp [hholds.mp h]
  · next h => exact iff_of_false List.not_mem_nil fun hmem => h (hholds.mpr hmem.1)

theorem mem_ends_seq_textEnd {r : Regex} {c d : Cursor} :
    d ∈ (seq r (.anchor .textEnd)).ends c ↔ d ∈ r.ends c ∧ LastLineFeed d.after := by
  rw [ends, List.mem_flatMap]
  constructor
  · rintro ⟨e, he, hd⟩
    rw [ends] at hd
    split at hd
    · next h =>
      obtain rfl := List.mem_singleton.mp hd
      exact ⟨he, textEnd_holds.mp h⟩
    · cases hd
  · rintro ⟨hd, hlast⟩
    refine ⟨d, hd, ?_⟩
    rw [ends, if_pos (textEnd_holds.mpr hlast)]
    exact List.mem_singleton_self d

theorem exists_end_iff (r : Regex) (cs : List Char) : r.matchesFrom [] 0 cs = true ↔
    ∃ passed rest d, cs = passed ++ rest ∧ d ∈ r.ends (.between passed rest) := by
  rw [matchesIn_iff]
  constructor
  · rintro ⟨passed, rest, heq, hne⟩
    obtain ⟨d, hd⟩ := List.exists_mem_of_ne_nil _ hne
    exact ⟨passed, rest, d, heq, hd⟩
  · rintro ⟨passed, rest, d, heq, hd⟩
    exact ⟨passed, rest, heq, List.ne_nil_of_mem hd⟩

theorem entire_matches_iff (r : Regex) (cs : List Char) : (entire r).matchesFrom [] 0 cs = true ↔ r.Spans cs := by
  have hentire : entire r = seq (.anchor .textStart) (seq r (.anchor .textEnd)) := rfl
  rw [exists_end_iff, hentire]
  simp only [mem_ends_textStart_seq, mem_ends_seq_textEnd]
  constructor
  · rintro ⟨passed, rest, d, rfl, rfl, hd, hlast⟩
    exact ⟨d, hd, hlast⟩
  · rintro ⟨d, hd, hlast⟩
    exact ⟨[], cs, d, rfl, rfl, hd, hlast⟩

theorem mem_heldToEnd_iff {q : Regex} {rs : List Regex} : q ∈ heldToEnd rs ↔
    ∃ before r after, rs = before ++ r :: after ∧ q = if after = [] then seq r (.anchor .textEnd) else r := by
  induction rs with
  | nil => simp [heldToEnd]
  | cons r rs ih =>
    cases rs with
    | nil =>
      constructor
      · intro h
        exact ⟨[], r, [], rfl, List.mem_singleton.mp h⟩
      · rintro ⟨_ | ⟨b, before⟩, q, after, heq, rfl⟩
        · cases heq
          exact List.mem_singleton_self _
        · simp at heq
    | cons p rs =>
      have hheld : heldToEnd (r :: p :: rs) = r :: heldToEnd (p :: rs) := rfl
      rw [hheld, List.mem_cons, ih]
      constructor
      · rintro (rfl | ⟨before, q, after, heq, rfl⟩)
        · exact ⟨[], q, p :: rs, rfl, rfl⟩
        · exact ⟨r :: before, q, after, by rw [heq]; rfl, rfl⟩
      · rintro ⟨_ | ⟨b, before⟩, q, after, heq, rfl⟩
        · cases heq
          exact .inl rfl
        · obtain ⟨rfl, hrest⟩ := List.cons.inj heq
          exact .inr ⟨before, q, after, hrest, rfl⟩

/-- Where the last alternative is held to the end, a match of an alternative is one, up to the end if it is the
last. -/
theorem mem_ends_held {r : Regex} {after : List Regex} {c d : Cursor} :
    d ∈ (if after = [] then seq r (.anchor .textEnd) else r).ends c ↔
      d ∈ r.ends c ∧ (after = [] → LastLineFeed d.after) := by
  split
  · next h => rw [mem_ends_seq_textEnd, forall_prop_of_true h]
  · next h => exact ⟨fun hd => ⟨hd, fun h' => absurd h' h⟩, And.left⟩

theorem anchored_matches_iff (rs : List Regex) (cs : List Char) :
    (∃ q ∈ anchored rs, q.matchesFrom [] 0 cs = true) ↔ MatchesBetween rs cs := by
  cases rs with
  | nil => simp [anchored, MatchesBetween]
  | cons r rs =>
    simp only [anchored, mem_heldToEnd_iff, exists_end_iff]
    constructor
    · rintro ⟨_, ⟨_ | ⟨b, before⟩, q, after, heq, rfl⟩, passed, rest, d, hcs, hd⟩
      · cases heq
        obtain ⟨hd, hlast⟩ := mem_ends_held.mp hd
        obtain ⟨hpassed, hd⟩ := mem_ends_textStart_seq.mp hd
        exact ⟨[], r, rs, passed, rest, d, rfl, hcs, hd, fun _ => hpassed, hlast⟩
      · obtain ⟨rfl, rfl⟩ := List.cons.inj heq
        obtain ⟨hd, hlast⟩ := mem_ends_held.mp hd
        exact ⟨r :: before, q, after, passed, rest, d, rfl, hcs, hd, fun h => absurd h (List.cons_ne_nil _ _), hlast⟩
    · rintro ⟨_ | ⟨b, before⟩, q, after, passed, rest, d, heq, hcs, hd, hfirst, hlast⟩
      · cases heq
        refine ⟨_, ⟨[], _, rs, rfl, rfl⟩, passed, rest, d, hcs, mem_ends_held.mpr ⟨?_, hlast⟩⟩
        exact mem_ends_textStart_seq.mpr ⟨hfirst rfl, hd⟩
      · obtain ⟨rfl, rfl⟩ := List.cons.inj heq
        exact ⟨_, ⟨_ :: before, q, after, rfl, rfl⟩, passed, rest, d, hcs, mem_ends_held.mpr ⟨hd, hlast⟩⟩

/-! ### Texts of patterns -/

/-- The alternatives of a pattern, one by one; a text that is no pattern has none. -/
def branchesOf (flags : Flags) (source : String) : List Regex :=
  match Parser.tokens? source.toList with
  | none => []
  | some ts =>
    match (Parser.branches (5 * ts.length + 5) ⟨flags, false⟩ true).run (.initial ts flags) with
    | .ok (rs, _) => rs
    | .error _ => []

variable {flags : Flags} {source : String} {p p' : Compiled}

/-- A text with more before and after it has the tokens of the parts. -/
theorem tokens?_between {before after : String} {ts us vs ws : List Parser.Token}
    (hsource : Parser.tokens? source.toList = some ts) (hbefore : Parser.tokens? before.toList = some us)
    (hafter : Parser.tokens? after.toList = some vs)
    (h : Parser.tokens? (before ++ source ++ after).toList = some ws) : ws = us ++ ts ++ vs := by
  rw [String.toList_append, String.toList_append] at h
  have happend := Parser.tokens?_append (Parser.tokens?_append hbefore hsource) hafter
  exact Option.some.inj (h.symm.trans happend)

/-- The pattern of a text in parentheses between anchors is the pattern of the text between anchors. -/
theorem regex_grouped (hp : compile flags source = .ok p) (hmultiline : p.flags.multiline = false)
    (hp' : compile (if p.flags.ascii then p.flags else { p.flags with unicode := true })
      ("^(?:" ++ source ++ ")$") = .ok p') : p'.regex = entire p.regex := by
  obtain ⟨-, ts, t, hts, hrest, hflags, hx⟩ := Parser.alternatives_of_compile hp
  obtain ⟨-, ws, u, hws, -, -, hy⟩ := Parser.alternatives_of_compile hp'
  have hbefore : Parser.tokens? "^(?:".toList = some [.plain '^', .plain '(', .plain '?', .plain ':'] := rfl
  have hafter : Parser.tokens? ")$".toList = some [.plain ')', .plain '$'] := rfl
  obtain rfl := tokens?_between hts hbefore hafter hws
  refine Parser.alternatives_grouped ?_ ?_ hx hrest hy
  · split
    · exact hmultiline
    · exact hmultiline
  · rw [hflags]
    split
    · exact .inl rfl
    · exact .inr rfl

/-- The pattern of a text is the first of its alternatives that leads to a match, and between anchors these are
held to the ends of a text one by one. -/
theorem regex_anchored (hmultiline : flags.multiline = false) (hverbose : flags.verbose = false)
    (hp : compile flags source = .ok p) (hp' : compile flags ("^" ++ source ++ "$") = .ok p') :
    p.regex = firstOf (branchesOf flags source) ∧
      ∀ cs, p'.regex.matchesFrom [] 0 cs = true ↔ MatchesBetween (branchesOf flags source) cs := by
  obtain ⟨-, ts, t, hts, hrest, -, hx⟩ := Parser.alternatives_of_compile hp
  obtain ⟨-, ws, u, hws, -, -, hy⟩ := Parser.alternatives_of_compile hp'
  have hbefore : Parser.tokens? "^".toList = some [.plain '^'] := rfl
  have hafter : Parser.tokens? "$".toList = some [.plain '$'] := rfl
  obtain rfl := tokens?_between hts hbefore hafter hws
  obtain ⟨r, rs, hrs, hregex⟩ := Parser.branches_of_alternatives hx
  obtain ⟨r', rs', hrs', hregex'⟩ := Parser.branches_of_alternatives hy
  have hbranches : branchesOf flags source = r :: rs := by
    rw [branchesOf, hts]
    dsimp only
    rw [hrs]
  have hmap := Parser.branches_anchored hmultiline hverbose hrs hrest hrs'
  have hexists (es : List Regex) (cs : List Char) : (∃ q ∈ es, q.matchesFrom [] 0 cs = true) ↔
      ∃ e ∈ es.map ends, ∃ passed rest d, cs = passed ++ rest ∧ d ∈ e (.between passed rest) := by
    simp only [exists_end_iff, List.mem_map, exists_exists_and_eq_and]
  refine ⟨hbranches ▸ hregex, fun cs => ?_⟩
  rw [hbranches, ← anchored_matches_iff, hregex', firstOf_matches_iff (List.cons_ne_nil _ _), hexists, hexists, hmap]

end Rulebook.Regex
