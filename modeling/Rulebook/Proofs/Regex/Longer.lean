import Mathlib
import Rulebook.Regex.Parser

/-!
Reading a pattern at the start of a longer text. Where more follows that no part of a pattern goes on with, a
closing parenthesis or an anchor, what is read of the text is the same and what follows is left. This holds of
every reader for a part (`Steady`), and of two readers that differ in nothing that matters (`Together`), as
long as both read what they are given.
-/

namespace Rulebook.Regex.Parser

/-! ### Running readers -/

theorem run_bind_ok_iff {α β : Type} {x : P α} {f : α → P β} {s u : State} {b : β} :
    (x >>= f).run s = .ok (b, u) ↔ ∃ a t, x.run s = .ok (a, t) ∧ (f a).run t = .ok (b, u) := by
  rw [StateT.run_bind]
  cases x.run s with
  | error e => exact iff_of_false (fun h => nomatch h) (fun ⟨_, _, h, _⟩ => nomatch h)
  | ok p =>
    constructor
    · intro h
      exact ⟨p.1, p.2, rfl, h⟩
    · rintro ⟨a, t, h, hf⟩
      cases h
      exact hf

/-! ### Longer texts -/

/-- What follows ends a pattern: a closing parenthesis or an anchor comes first, and no line ends in it. -/
structure Closing (more : List Token) : Prop where
  head : ∀ t ∈ more.head?, t = .plain ')' ∨ t = .plain '$'
  line : .plain '\n' ∉ more

/-- The state in the reading of a longer text, under flags of its own. -/
def State.longer (more : List Token) (flags : Flags) (s : State) : State :=
  { s with rest := s.rest ++ more, flags }

section

variable (more : List Token) (flags flags' : Flags) {α β : Type}

/-- What two readers give, of a text and of a longer one, is related, as long as both give something. -/
def RelatedAt (R : α → State → α → State → Prop) (s : State) (x y : P α) : Prop :=
  ∀ ⦃a t b t'⦄, s.flags = flags → x.run s = .ok (a, t) → y.run (s.longer more flags') = .ok (b, t') → R a t b t'

/-- Two readers take the same and give the same from a state. The flags of the whole pattern stay as they
are. -/
abbrev TogetherAt (s : State) (x y : P α) : Prop :=
  RelatedAt more flags flags' (fun a t b t' => b = a ∧ t.flags = flags ∧ t' = t.longer more flags') s x y

/-- Two readers take the same and give the same from every state. -/
def Together (x y : P α) : Prop := ∀ s, TogetherAt more flags flags' s x y

/-- A reader takes the same of a longer text. -/
abbrev Steady (x : P α) : Prop := Together more flags flags' x x

variable {more flags flags'}

theorem RelatedAt.bind {s : State} {x y : P α} {f g : α → P β} {R : α → State → α → State → Prop}
    {S : β → State → β → State → Prop} (h : RelatedAt more flags flags' R s x y)
    (hfg : ∀ ⦃a t b t' c u c' u'⦄, R a t b t' → (f a).run t = .ok (c, u) → (g b).run t' = .ok (c', u') →
      S c u c' u') : RelatedAt more flags flags' S s (x >>= f) (y >>= g) := by
  intro c u c' u' hs hx hy
  obtain ⟨a, t, hxa, hfa⟩ := run_bind_ok_iff.mp hx
  obtain ⟨b, t', hyb, hgb⟩ := run_bind_ok_iff.mp hy
  exact hfg (h hs hxa hyb) hfa hgb

theorem TogetherAt.bind {s : State} {x y : P α} {f g : α → P β} {R : β → State → β → State → Prop}
    (h : TogetherAt more flags flags' s x y)
    (hfg : ∀ a t, x.run s = .ok (a, t) → RelatedAt more flags flags' R t (f a) (g a)) :
    RelatedAt more flags flags' R s (x >>= f) (y >>= g) := by
  intro b u c u' hs hx hy
  obtain ⟨a, t, hxa, hfa⟩ := run_bind_ok_iff.mp hx
  obtain ⟨a', t', hya, hga⟩ := run_bind_ok_iff.mp hy
  obtain ⟨rfl, ht, rfl⟩ := h hs hxa hya
  exact hfg a' t hxa ht hfa hga

/-- Two readers go on alike after either of two parts. -/
theorem TogetherAt.bind_ite {b : Prop} [Decidable b] {s : State} {x x' y y' : P α} {f g : α → P β}
    {R : β → State → β → State → Prop} (h : TogetherAt more flags flags' s x x')
    (h' : TogetherAt more flags flags' s y y') (hfg : ∀ a t, RelatedAt more flags flags' R t (f a) (g a)) :
    RelatedAt more flags flags' R s (if b then x >>= f else y >>= f) (if b then x' >>= g else y' >>= g) := by
  split
  · exact h.bind fun a t _ => hfg a t
  · exact h'.bind fun a t _ => hfg a t

theorem RelatedAt.malformed_left {R : α → State → α → State → Prop} {s : State} {y : P α} :
    RelatedAt more flags flags' R s malformed y := by
  intro a t b t' _ hx
  cases hx

theorem RelatedAt.malformed_right {R : α → State → α → State → Prop} {s : State} {x : P α} :
    RelatedAt more flags flags' R s x malformed := by
  intro a t b t' _ _ hy
  cases hy

theorem RelatedAt.of_flags {R : α → State → α → State → Prop} {s : State} {x y : P α}
    (h : s.flags = flags → RelatedAt more flags flags' R s x y) : RelatedAt more flags flags' R s x y :=
  fun _ _ _ _ hs => h hs hs

theorem RelatedAt.get {s : State} {f g : State → P β} {R : β → State → β → State → Prop}
    (h : RelatedAt more flags flags' R s (f s) (g (s.longer more flags'))) :
    RelatedAt more flags flags' R s (get >>= f) (get >>= g) :=
  fun _ _ _ _ hs hx hy => h hs hx hy

theorem RelatedAt.peek {s : State} {f g : Option Token → P β} {R : β → State → β → State → Prop}
    (h : RelatedAt more flags flags' R s (f s.rest.head?) (g (s.longer more flags').rest.head?)) :
    RelatedAt more flags flags' R s (peek >>= f) (peek >>= g) :=
  fun _ _ _ _ hs hx hy => h hs hx hy

theorem RelatedAt.peek_of_cons {s : State} {u : Token} {rest : List Token} (hrest : s.rest = u :: rest)
    {f g : Option Token → P β} {R : β → State → β → State → Prop}
    (h : RelatedAt more flags flags' R s (f (some u)) (g (some u))) :
    RelatedAt more flags flags' R s (Parser.peek >>= f) (Parser.peek >>= g) := by
  refine .peek ?_
  rw [State.longer, hrest]
  exact h

/-- The next token, where there is one. -/
theorem RelatedAt.next_of_cons {s : State} {u : Token} {rest : List Token} (hrest : s.rest = u :: rest)
    {f g : Option Token → P β} {R : β → State → β → State → Prop}
    (h : RelatedAt more flags flags' R { s with rest } (f (some u)) (g (some u))) :
    RelatedAt more flags flags' R s (next >>= f) (next >>= g) := by
  intro b t c t' hs hx hy
  obtain ⟨a, v, ha, hfa⟩ := run_bind_ok_iff.mp hx
  obtain ⟨a', v', ha', hga⟩ := run_bind_ok_iff.mp hy
  cases ha
  cases ha'
  simp only [State.longer, hrest, List.cons_append, List.head?_cons, List.tail_cons] at hfa hga
  exact h hs hfa hga

/-- The next token, where nothing can be done without one. -/
theorem RelatedAt.next {s : State} {f g : Option Token → P β} {R : β → State → β → State → Prop}
    (hnone : f none = malformed) (hfg : ∀ t u, RelatedAt more flags flags' R u (f (some t)) (g (some t))) :
    RelatedAt more flags flags' R s (next >>= f) (next >>= g) := by
  cases hrest : s.rest with
  | nil =>
    intro b t c t' _ hx _
    obtain ⟨a, v, ha, hfa⟩ := run_bind_ok_iff.mp hx
    cases ha
    rw [hrest, List.head?_nil, hnone] at hfa
    cases hfa
  | cons t rest => exact .next_of_cons hrest (hfg t _)

namespace Together

theorem pure (a : α) : Steady more flags flags' (pure a) := by
  intro s b t c t' hs hx hy
  cases hx
  cases hy
  exact ⟨rfl, hs, rfl⟩

theorem malformed_left {y : P α} : Together more flags flags' malformed y := fun _ => .malformed_left

theorem malformed_bind {f : α → P β} {y : P β} : Together more flags flags' (malformed >>= f) y :=
  fun _ _ _ _ _ _ hx => nomatch hx

theorem fault_bind {f : Fault} {g : α → P β} {y : P β} : Together more flags flags' (fault f >>= g) y :=
  fun _ _ _ _ _ _ hx => nomatch hx

theorem malformed_right {x : P α} : Together more flags flags' x malformed := fun _ => .malformed_right

theorem bind {x y : P α} {f g : α → P β} (h : Together more flags flags' x y)
    (hfg : ∀ a, Together more flags flags' (f a) (g a)) : Together more flags flags' (x >>= f) (y >>= g) :=
  fun s => (h s).bind fun a t _ => hfg a t

theorem get {f g : State → P β} (hfg : ∀ s, TogetherAt more flags flags' s (f s) (g (s.longer more flags'))) :
    Together more flags flags' (get >>= f) (get >>= g) :=
  fun s _ _ _ _ hs hx hy => hfg s hs hx hy

/-- What is done with the state does not depend on what follows. -/
theorem read {f : State → P β} (hread : ∀ s, f (s.longer more flags') = f s)
    (hf : ∀ s, Steady more flags flags' (f s)) : Steady more flags flags' (MonadState.get >>= f) := by
  refine .get fun s => ?_
  rw [hread]
  exact hf s s

theorem next {f g : Option Token → P β} (hnone : f none = malformed)
    (hfg : ∀ t, Together more flags flags' (f (some t)) (g (some t))) :
    Together more flags flags' (next >>= f) (next >>= g) :=
  fun _ => .next hnone hfg

theorem modify {f : State → State} (hflags : ∀ s, (f s).flags = s.flags)
    (hf : ∀ s : State, f (s.longer more flags') = (f s).longer more flags') :
    Steady more flags flags' (modify f) := by
  intro s a t b t' hs hx hy
  cases hx
  cases hy
  exact ⟨rfl, (hflags s).trans hs, hf s⟩

end Together

/-! ### Characters -/

theorem run_accept (c : Char) (s : State) : (accept c).run s =
    if s.rest.head? = some (.plain c) then .ok (true, { s with rest := s.rest.tail }) else .ok (false, s) := by
  show (if s.rest.head? == some (.plain c) then _ else _ : P Bool) s = _
  split
  · next h => rw [if_pos (beq_iff_eq.mp h)]; rfl
  · next h => rw [if_neg fun heq => h (beq_iff_eq.mpr heq)]; rfl

/-- What follows does not begin with a character that goes on with a part. -/
theorem Closing.head_iff (hmore : Closing more) {c : Char} (hparen : c ≠ ')') (hanchor : c ≠ '$') (s : State) :
    (s.longer more flags').rest.head? = some (.plain c) ↔ s.rest.head? = some (.plain c) := by
  cases hrest : s.rest with
  | nil =>
    rw [State.longer, hrest]
    refine iff_of_false (fun h => ?_) fun h => nomatch h
    rcases hmore.head _ h with h | h <;> cases h
    · exact hparen rfl
    · exact hanchor rfl
  | cons t rest =>
    rw [State.longer, hrest]
    rfl

theorem steady_accept (hmore : Closing more) {c : Char} (hparen : c ≠ ')') (hanchor : c ≠ '$') :
    Steady more flags flags' (accept c) := by
  intro s a t b t' hs hx hy
  rw [run_accept] at hx hy
  rw [if_congr (hmore.head_iff hparen hanchor s) rfl rfl] at hy
  split at hx
  · next hhead =>
    rw [if_pos hhead] at hy
    cases hx
    cases hy
    obtain ⟨rest, hrest⟩ := List.head?_eq_some_iff.mp hhead
    refine ⟨rfl, hs, ?_⟩
    simp only [State.longer, hrest, List.cons_append, List.tail_cons]
  · next hhead =>
    rw [if_neg hhead] at hy
    cases hx
    cases hy
    exact ⟨rfl, hs, rfl⟩

theorem run_expect_ok_iff {c : Char} {s t : State} {u : Unit} : (expect c).run s = .ok (u, t) ↔
    s.rest.head? = some (.plain c) ∧ t = { s with rest := s.rest.tail } := by
  unfold expect
  rw [run_bind_ok_iff]
  simp only [run_accept]
  constructor
  · rintro ⟨taken, v, hv, h⟩
    split at hv
    · next heq =>
      cases hv
      cases h
      exact ⟨heq, rfl⟩
    · cases hv
      cases h
  · rintro ⟨heq, rfl⟩
    exact ⟨true, _, if_pos heq, rfl⟩

theorem steady_expect (c : Char) : Steady more flags flags' (expect c) := by
  intro s a t b t' hs hx hy
  obtain ⟨hhead, rfl⟩ := run_expect_ok_iff.mp hx
  obtain ⟨-, rfl⟩ := run_expect_ok_iff.mp hy
  obtain ⟨rest, hrest⟩ := List.head?_eq_some_iff.mp hhead
  refine ⟨rfl, hs, ?_⟩
  simp only [State.longer, hrest, List.cons_append, List.tail_cons]

theorem leading_length_le (p : Char → Bool) (n : Nat) (ts : List Token) :
    (leading p n ts).length ≤ ts.length := by
  induction n, ts using leading.induct p with
  | case1 n c rest hc ih =>
    rw [leading, if_pos hc]
    exact Nat.succ_le_succ ih
  | case2 n c rest hc =>
    rw [leading, if_neg hc]
    exact Nat.zero_le _
  | case3 n ts h =>
    rw [leading]
    · exact Nat.zero_le _
    · exact h

theorem leading_of_closing (hmore : Closing more) {p : Char → Bool} (hparen : p ')' = false)
    (hanchor : p '$' = false) (n : Nat) : leading p n more = [] := by
  cases n with
  | zero => rfl
  | succ n =>
    cases more with
    | nil => rfl
    | cons t rest => rcases hmore.head t rfl with rfl | rfl <;> simp [leading, hparen, hanchor]

/-- A run of characters ends where the text does, since what follows does not go on with it. -/
theorem leading_append (hmore : Closing more) {p : Char → Bool} (hparen : p ')' = false)
    (hanchor : p '$' = false) {n n' : Nat} {ts : List Token} (h : n' = n ∨ ts.length ≤ n ∧ ts.length ≤ n') :
    leading p n' (ts ++ more) = leading p n ts := by
  induction ts generalizing n n' with
  | nil =>
    rw [List.nil_append, leading_of_closing hmore hparen hanchor]
    cases n <;> rfl
  | cons t ts ih =>
    rcases n with _ | n <;> rcases n' with _ | n'
    · rfl
    · simp at h
    · simp at h
    · cases t with
      | escaped c => rfl
      | plain c =>
        rw [List.cons_append, leading, leading, ih]
        rw [List.length_cons] at h
        omega

theorem run_takeWhile (n : Nat) (p : Char → Bool) (s : State) : (takeWhile n p).run s =
    .ok (leading p n s.rest, { s with rest := s.rest.drop (leading p n s.rest).length }) := rfl

theorem togetherAt_takeWhile (hmore : Closing more) {p : Char → Bool} (hparen : p ')' = false)
    (hanchor : p '$' = false) {n n' : Nat} {s : State}
    (h : n' = n ∨ s.rest.length ≤ n ∧ s.rest.length ≤ n') :
    TogetherAt more flags flags' s (takeWhile n p) (takeWhile n' p) := by
  intro a t b t' hs hx hy
  have hleading : leading p n' (s.longer more flags').rest = leading p n s.rest :=
    leading_append hmore hparen hanchor h
  rw [run_takeWhile] at hx hy
  rw [hleading] at hy
  cases hx
  cases hy
  refine ⟨rfl, hs, ?_⟩
  simp only [State.longer, List.drop_append_of_le_length (leading_length_le p n s.rest)]

theorem steady_takeWhile (hmore : Closing more) {p : Char → Bool} (hparen : p ')' = false)
    (hanchor : p '$' = false) (n : Nat) : Steady more flags flags' (takeWhile n p) :=
  fun _ => togetherAt_takeWhile hmore hparen hanchor (.inl rfl)

/-- What a token is found after, and what follows it. -/
theorem eq_of_dropWhile {u v : Token} {ts rest : List Token} (h : ts.dropWhile (· != u) = v :: rest) :
    ts = ts.takeWhile (· != u) ++ u :: rest ∧ u ∉ ts.takeWhile (· != u) := by
  have hv : v = u := by
    have hhead := List.head_dropWhile_not (· != u) (h.symm ▸ List.cons_ne_nil v rest)
    simpa [h] using hhead
  constructor
  · conv_lhs => rw [← List.takeWhile_append_dropWhile (p := (· != u)) (l := ts), h, hv]
  · intro hmem
    simpa using List.mem_takeWhile_imp hmem

theorem ne_of_notMem {u : Token} {ts : List Token} (h : u ∉ ts) : ∀ v ∈ ts, (v != u) = true :=
  fun _ hv => bne_iff_ne.mpr fun heq => h (heq ▸ hv)

theorem run_nameUpTo_ok_iff {c : Char} {s t : State} {name : String} : (nameUpTo c).run s = .ok (name, t) ↔
    ∃ ts rest, s.rest = ts ++ .plain c :: rest ∧ .plain c ∉ ts ∧ ts ≠ [] ∧
      name = String.ofList (ts.flatMap Token.chars) ∧ t = { s with rest } := by
  have hrun : (nameUpTo c).run s =
      if ((s.rest.takeWhile (· != .plain c)).isEmpty || (s.rest.dropWhile (· != .plain c)).isEmpty) = true then
        .error .malformed
      else .ok (String.ofList ((s.rest.takeWhile (· != .plain c)).flatMap Token.chars),
        { s with rest := (s.rest.dropWhile (· != .plain c)).tail }) := by
    simp only [nameUpTo, List.span_eq_takeWhile_dropWhile]
    show (if _ then _ else _ : P String) s = _
    split <;> rfl
  rw [hrun]
  constructor
  · intro h
    split at h
    · cases h
    · next hfound =>
      cases h
      simp only [Bool.or_eq_true, List.isEmpty_iff, not_or] at hfound
      obtain ⟨u, rest, hdrop⟩ := List.ne_nil_iff_exists_cons.mp hfound.2
      obtain ⟨hrest, hfree⟩ := eq_of_dropWhile hdrop
      exact ⟨_, rest, hrest, hfree, hfound.1, rfl, by rw [hdrop]; rfl⟩
  · rintro ⟨ts, rest, hrest, hfree, hne, rfl, rfl⟩
    rw [hrest, List.takeWhile_append_of_pos (ne_of_notMem hfree), List.dropWhile_append_of_pos (ne_of_notMem hfree)]
    simp [hne]

theorem steady_nameUpTo (c : Char) : Steady more flags flags' (nameUpTo c) := by
  intro s a t b t' hs hx hy
  obtain ⟨ts, rest, hrest, hfree, hne, rfl, rfl⟩ := run_nameUpTo_ok_iff.mp hx
  have hlonger : (nameUpTo c).run (s.longer more flags') = .ok (_, State.longer more flags' { s with rest }) :=
    run_nameUpTo_ok_iff.mpr ⟨ts, rest ++ more, by simp [State.longer, hrest], hfree, hne, rfl, rfl⟩
  cases hy.symm.trans hlonger
  exact ⟨rfl, hs, rfl⟩

/-! ### Escapes -/

theorem steady_namedCode : Steady more flags flags' namedCode := by
  unfold namedCode
  refine .bind (steady_expect _) fun _ => .bind (steady_nameUpTo _) fun name => ?_
  split
  · exact .pure _
  · exact .malformed_left

theorem steady_checkGroup (i : Nat) : Steady more flags flags' (checkGroup i) := by
  unfold checkGroup
  refine .read (fun s => rfl) fun s => ?_
  split
  · split
    · exact .malformed_left
    · exact .pure _
  · exact .pure _

theorem steady_backrefTo (inside : Flags) (i : Nat) : Steady more flags flags' (backrefTo inside i) := by
  unfold backrefTo
  refine .read (fun s => rfl) fun s => ?_
  split
  · exact .malformed_bind
  · exact .bind (steady_checkGroup i) fun _ => .pure _

section

variable (hmore : Closing more)

include hmore

theorem steady_hexCode (n : Nat) : Steady more flags flags' (hexCode n) := by
  unfold hexCode
  refine .bind (steady_takeWhile hmore rfl rfl n) fun cs => ?_
  dsimp only
  split
  · exact .malformed_bind
  · split
    · exact .malformed_bind
    · exact .pure _

theorem steady_commonEscape (c : Char) : Steady more flags flags' (commonEscape c) := by
  unfold commonEscape
  split
  · exact .pure _
  · split
    · exact steady_hexCode hmore 2
    · exact steady_hexCode hmore 4
    · exact steady_hexCode hmore 8
    · exact steady_namedCode
    · split
      · exact .malformed_left
      · exact .pure _

theorem steady_digitEscape (inside : Flags) (c : Char) : Steady more flags flags' (digitEscape inside c) := by
  have hoctal (n : Nat) : Steady more flags flags' (takeWhile n isOctalDigit) :=
    steady_takeWhile hmore rfl rfl n
  unfold digitEscape
  dsimp only
  split
  · exact .bind (hoctal 2) fun cs => .pure _
  · refine .bind (steady_takeWhile hmore rfl rfl 1) fun ds => ?_
    split
    · exact steady_backrefTo inside _
    · have hthird (third : List Char) : Steady more flags flags' (if third.isEmpty then
          backrefTo inside (numberIn 10 (c :: ds)) else do
            let n := numberIn 8 (c :: ds ++ third)
            if 0o377 < n then malformed
            return .one (.single inside.fold false n)) := by
        split
        · exact steady_backrefTo inside _
        · dsimp only
          split
          · exact .malformed_bind
          · exact .pure _
      split
      · exact .bind (hoctal 1) hthird
      · exact .bind (.pure _) hthird

theorem steady_escape (inside : Flags) (c : Char) : Steady more flags flags' (escape inside c) := by
  unfold escape
  split
  · exact .pure _
  · split
    · exact .pure _
    · exact .pure _
    · exact .pure _
    · exact .pure _
    · split
      · exact steady_digitEscape hmore inside c
      · exact .bind (steady_commonEscape hmore c) fun _ => .pure _

/-! ### Sets of characters -/

theorem steady_piece (inside : Flags) (t : Token) : Steady more flags flags' (piece inside t) := by
  cases t with
  | plain c => exact .pure _
  | escaped c =>
    show Steady more flags flags' (classEscape inside c)
    unfold classEscape
    split
    · exact .pure _
    · split
      · refine .bind (steady_takeWhile hmore rfl rfl 2) fun cs => ?_
        dsimp only
        split
        · exact .malformed_bind
        · exact .pure _
      · exact .bind (steady_commonEscape hmore c) fun _ => .pure _

omit hmore in
theorem steady_rangeOf (low high : CharSet.Piece) : Steady more flags flags' (rangeOf low high) := by
  unfold rangeOf
  split
  · split
    · exact .malformed_left
    · exact .pure _
  · exact .malformed_left

theorem together_classPieces (inside : Flags) (n n' : Nat) (before : List CharSet.Piece) :
    Together more flags flags' (classPieces inside n before) (classPieces inside n' before) := by
  induction n generalizing n' before with
  | zero => exact .malformed_left
  | succ n ih =>
    cases n' with
    | zero => exact .malformed_right
    | succ n' =>
      rw [classPieces, classPieces]
      refine .next rfl fun t => ?_
      dsimp only
      split
      · exact .pure _
      · refine .bind (steady_piece hmore inside t) fun low => ?_
        refine .bind (steady_accept hmore (by decide) (by decide)) fun ranged => ?_
        split
        · refine .next rfl fun t => ?_
          split
          · exact .malformed_left
          · exact .pure _
          · exact .bind (steady_piece hmore inside _) fun high => .bind (steady_rangeOf low high) fun _ => ih _ _
        · exact ih _ _

theorem steady_bracketClass (inside : Flags) : Steady more flags flags' (bracketClass inside) := by
  unfold bracketClass
  refine .bind (steady_accept hmore (by decide) (by decide)) fun negated => ?_
  refine .get fun s => ?_
  exact Together.bind (together_classPieces hmore inside _ _ _) (fun _ => .pure _) s

/-! ### Repetitions -/

omit hmore in
theorem steady_count? (ds : List Char) : Steady more flags flags' (count? ds) := by
  unfold count?
  split
  · exact .pure _
  · dsimp only
    split
    · exact .fault_bind
    · split
      · exact .fault_bind
      · exact .pure _

omit hmore in
theorem rest_length_le_of_accept {c : Char} {s t : State} {taken : Bool}
    (h : (accept c).run s = .ok (taken, t)) : t.rest.length ≤ s.rest.length := by
  rw [run_accept] at h
  split at h
  · cases h
    rw [List.length_tail]
    exact Nat.sub_le _ _
  · cases h
    exact le_rfl

theorem steady_bounds? : Steady more flags flags' bounds? := by
  unfold bounds?
  refine .get fun s => .of_flags fun hs => ?_
  -- without a closing brace the state is put back
  have hclose (low high : List Char) : Together more flags flags'
      (do
        if !(← accept '\x7d') then
          set s
          return none
        let least ← count? low
        let most ← count? high
        if most.any (· < least.getD 0) then malformed
        return some (least.getD 0, most))
      (do
        if !(← accept '\x7d') then
          set (s.longer more flags')
          return none
        let least ← count? low
        let most ← count? high
        if most.any (· < least.getD 0) then malformed
        return some (least.getD 0, most)) := by
    refine .bind (steady_accept hmore (by decide) (by decide)) fun closed => ?_
    split
    · intro u a t b t' _ hx hy
      cases hx
      cases hy
      exact ⟨rfl, hs, rfl⟩
    · refine .bind (steady_count? low) fun least => .bind (steady_count? high) fun most => ?_
      dsimp only
      split
      · exact .malformed_bind
      · exact .pure _
  refine .peek ?_
  by_cases hhead : s.rest.head? = some (.plain '\x7d')
  · rw [hhead, (hmore.head_iff (by decide) (by decide) s).mpr hhead]
    exact Together.pure _ s
  · have hhead' : (s.longer more flags').rest.head? ≠ some (.plain '\x7d') :=
      fun h => hhead ((hmore.head_iff (by decide) (by decide) s).mp h)
    rw [if_neg (by simpa using hhead), if_neg (by simpa using hhead')]
    have hlonger : s.rest.length ≤ (s.longer more flags').rest.length := by simp [State.longer]
    refine (togetherAt_takeWhile hmore rfl rfl (.inr ⟨le_rfl, hlonger⟩)).bind fun low t ht => ?_
    have htrest : t.rest.length ≤ s.rest.length := by
      cases ht
      exact (List.drop_suffix _ _).length_le
    refine (steady_accept hmore (by decide) (by decide) t).bind fun comma u hu => ?_
    have hurest := (rest_length_le_of_accept hu).trans htrest
    dsimp only
    split
    · refine (togetherAt_takeWhile hmore rfl rfl (.inr ⟨hurest, hurest.trans hlonger⟩)).bind fun high v _ => ?_
      exact hclose low high v
    · exact hclose low low u

theorem steady_greed : Steady more flags flags' greed := by
  unfold greed
  refine .bind (steady_accept hmore (by decide) (by decide)) fun lazy => ?_
  split
  · exact .pure _
  · refine .bind (steady_accept hmore (by decide) (by decide)) fun possessive => ?_
    split
    · exact .pure _
    · exact .pure _

theorem steady_repetition? (c : Char) : Steady more flags flags' (repetition? c) := by
  unfold repetition?
  split
  · exact .pure _
  · exact .pure _
  · exact .pure _
  · exact steady_bounds? hmore
  · exact .pure _

/-! ### Groups -/

omit hmore in
theorem together_flagsFrom (closing : List Char) (allowed : Flags → Flags → Bool) (n n' : Nat) (soFar : Flags)
    (c : Char) : Together more flags flags' (flagsFrom closing allowed n soFar c)
      (flagsFrom closing allowed n' soFar c) := by
  induction n generalizing n' soFar c with
  | zero => exact .malformed_left
  | succ n ih =>
    cases n' with
    | zero => exact .malformed_right
    | succ n' =>
      rw [flagsFrom, flagsFrom]
      split
      · exact .malformed_left
      · dsimp only
        split
        · exact .malformed_bind
        · refine .next rfl fun t => ?_
          split
          · split
            · exact .pure _
            · exact ih _ _ _
          · exact .malformed_left

omit hmore in
theorem union_none (a : Flags) : a.union .none = a := by
  cases a
  simp [Flags.union, Flags.zip, Flags.none]

omit hmore in
/-- Flags are read alike; those of a group leave the flags of the whole pattern as they are, and others are
added to them. -/
theorem related_groupFlags (c : Char) (s : State) :
    RelatedAt more flags flags' (fun o t o' t' => o' = o ∧
        (o ≠ none → t.flags = flags ∧ t' = t.longer more flags') ∧ ∃ on, t.flags = flags.union on)
      s (groupFlags c) (groupFlags c) := by
  unfold groupFlags
  refine .get (TogetherAt.bind_ite (Together.pure _ s) (together_flagsFrom _ _ _ _ _ _ s) fun p u => ?_)
  have hend (off : Flags) : Steady more flags flags' (do
      if off.template || p.1.inter off != Flags.none then malformed
      return some (p.1, off)) := by
    dsimp only
    split
    · exact .malformed_bind
    · exact .pure _
  have hrest {x y : P (Option (Flags × Flags))} (h : Together more flags flags' x y) :
      RelatedAt more flags flags' (fun o t o' t' => o' = o ∧
        (o ≠ none → t.flags = flags ∧ t' = t.longer more flags') ∧ ∃ on, t.flags = flags.union on) u x y := by
    intro o t o' t' hu hx hy
    obtain ⟨rfl, ht, rfl⟩ := h u hu hx hy
    exact ⟨rfl, fun _ => ⟨ht, rfl⟩, .none, ht.trans (union_none flags).symm⟩
  dsimp only
  split
  · intro o t o' t' hu hx hy
    cases hx
    cases hy
    exact ⟨rfl, fun h => absurd rfl h, p.1, hu ▸ rfl⟩
  · refine hrest ?_
    split
    · exact .malformed_bind
    · split
      · refine .next rfl fun t => ?_
        split
        · exact .bind (together_flagsFrom _ _ _ _ _ _) fun q => hend q.1
        · exact .malformed_bind
      · exact hend Flags.none

omit hmore in
theorem steady_groupName (closing : Char) : Steady more flags flags' (groupName closing) := by
  unfold groupName
  refine .bind (steady_nameUpTo _) fun name => ?_
  dsimp only
  split
  · exact .malformed_bind
  · exact .pure _

omit hmore in
theorem steady_openGroup (name : Option String) : Steady more flags flags' (openGroup name) := by
  unfold openGroup
  cases name with
  | none =>
    intro s a t b t' hs hx hy
    cases hx
    cases hy
    exact ⟨rfl, hs, rfl⟩
  | some name =>
    refine .get fun s => ?_
    have hnames : (s.longer more flags').names = s.names := rfl
    dsimp only
    rw [hnames]
    split
    · exact Together.malformed_bind s
    · intro a t b t' hs hx hy
      cases hx
      cases hy
      exact ⟨rfl, hs, rfl⟩

omit hmore in
theorem steady_closeGroup (i : Nat) (r : Regex) : Steady more flags flags' (closeGroup i r) :=
  .modify (fun _ => rfl) fun _ => rfl

omit hmore in
theorem steady_conditionGroup : Steady more flags flags' conditionGroup := by
  have hcheck (i : Nat) : Steady more flags flags' (do checkGroup i; return i) :=
    .bind (steady_checkGroup i) fun _ => .pure _
  unfold conditionGroup
  refine .bind (steady_nameUpTo _) fun name => ?_
  dsimp only
  split
  · refine .read (fun s => rfl) fun s => ?_
    split
    · exact hcheck _
    · exact .malformed_bind
  · split
    · split
      · exact .malformed_bind
      · exact .bind (.modify (fun _ => rfl) fun _ => rfl) fun _ => hcheck _
    · exact .malformed_bind

omit hmore in
theorem run_skipComment (s : State) : skipComment.run s =
    match s.rest.dropWhile (· != .plain ')') with
    | [] => .error .malformed
    | _ :: rest => .ok ((), { s with rest }) := by
  unfold skipComment
  show StateT.run (match s.rest.dropWhile (· != .plain ')') with | [] => _ | _ :: rest => _ : P Unit) s = _
  cases s.rest.dropWhile (· != .plain ')') <;> rfl

omit hmore in
theorem run_skipComment_ok_iff {s t : State} : skipComment.run s = .ok ((), t) ↔
    ∃ ts rest, s.rest = ts ++ .plain ')' :: rest ∧ .plain ')' ∉ ts ∧ t = { s with rest } := by
  rw [run_skipComment]
  constructor
  · intro h
    split at h
    · cases h
    · next u rest hdrop =>
      cases h
      obtain ⟨hrest, hfree⟩ := eq_of_dropWhile hdrop
      exact ⟨_, rest, hrest, hfree, rfl⟩
  · rintro ⟨ts, rest, hrest, hfree, rfl⟩
    rw [hrest, List.dropWhile_append_of_pos (ne_of_notMem hfree)]
    simp

omit hmore in
theorem steady_skipComment : Steady more flags flags' skipComment := by
  intro s a t b t' hs hx hy
  obtain ⟨ts, rest, hrest, hfree, rfl⟩ := run_skipComment_ok_iff.mp hx
  have hlonger : skipComment.run (s.longer more flags') = .ok ((), State.longer more flags' { s with rest }) :=
    run_skipComment_ok_iff.mpr ⟨ts, rest ++ more, by simp [State.longer, hrest], hfree, rfl⟩
  cases hy.symm.trans hlonger
  exact ⟨rfl, hs, rfl⟩

end

end

end Rulebook.Regex.Parser
