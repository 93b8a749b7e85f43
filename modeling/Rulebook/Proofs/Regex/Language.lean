import Rulebook.Proofs.Regex.Ends
import Rulebook.Regex.Build

/-!
Patterns that spell a language. Where the ends of a pattern are the places reached by passing over a text of
a language, whatever is around it, the pattern spells that language. Characters, sequences, alternatives and
repetitions of what is never empty spell the languages that they should, so the language of a pattern is read
off its parts.
-/

namespace Rulebook.Regex

/-! ### Passing over a text -/

/-- One place is reached from another by passing over a text, with the groups as they were. -/
structure Cursor.Passes (c : Cursor) (xs : List Char) (d : Cursor) : Prop where
  after : c.after = xs ++ d.after
  before : d.before = xs.reverse ++ c.before
  position : d.position = c.position + xs.length
  opened : d.opened = c.opened
  closed : d.closed = c.closed

namespace Cursor.Passes

variable {c d e : Cursor} {x : Char} {xs ys : List Char}

theorem nil_iff : c.Passes [] d ↔ d = c := by
  constructor
  · intro h
    obtain ⟨hafter, hbefore, hposition, hopened, hclosed⟩ := h
    cases c
    cases d
    simp_all
  · rintro rfl
    exact ⟨rfl, rfl, rfl, rfl, rfl⟩

theorem cons_iff : c.Passes (x :: xs) e ↔ ∃ d, c.advance? = some (x, d) ∧ d.Passes xs e := by
  constructor
  · intro h
    refine ⟨{ c with before := x :: c.before, after := xs ++ e.after, position := c.position + 1 }, ?_, ?_⟩
    · rw [advance?, h.after]
      rfl
    · refine ⟨rfl, ?_, ?_, h.opened, h.closed⟩
      · rw [h.before, List.reverse_cons, List.append_assoc]
        rfl
      · dsimp only
        rw [h.position, List.length_cons, Nat.add_right_comm, Nat.add_assoc]
  · rintro ⟨d, hadvance, h⟩
    unfold advance? at hadvance
    split at hadvance
    · cases hadvance
    · next y rest hafter =>
      cases hadvance
      refine ⟨?_, ?_, ?_, h.opened, h.closed⟩
      · rw [hafter, show rest = _ from h.after]
        rfl
      · rw [h.before, List.reverse_cons, List.append_assoc]
        rfl
      · rw [h.position, List.length_cons, Nat.add_comm xs.length, ← Nat.add_assoc]

theorem append_iff : c.Passes (xs ++ ys) e ↔ ∃ d, c.Passes xs d ∧ d.Passes ys e := by
  induction xs generalizing c with
  | nil => simp [nil_iff]
  | cons x xs ih =>
    simp only [List.cons_append, cons_iff, ih]
    constructor
    · rintro ⟨d, hd, f, hf, h⟩
      exact ⟨f, ⟨d, hd, hf⟩, h⟩
    · rintro ⟨f, ⟨d, hd, hf⟩, h⟩
      exact ⟨d, hd, f, hf, h⟩

end Cursor.Passes

theorem Cursor.exists_passes_iff {c : Cursor} {xs : List Char} : (∃ d, c.Passes xs d) ↔ xs <+: c.after := by
  constructor
  · rintro ⟨d, h⟩
    exact ⟨d.after, h.after.symm⟩
  · rintro ⟨rest, h⟩
    exact ⟨⟨xs.reverse ++ c.before, rest, c.position + xs.length, c.opened, c.closed⟩, h.symm, rfl, rfl, rfl, rfl⟩

/-! ### Languages of patterns -/

/-- The ends of a pattern are the places after the texts of a language. -/
def Spells (r : Regex) (L : Language Char) : Prop := ∀ c d, d ∈ r.ends c ↔ ∃ xs ∈ L, c.Passes xs d

/-- The texts of one character of a set. -/
def CharSet.language (s : CharSet) : Language Char := {w | ∃ x, s.contains x = true ∧ w = [x]}

/-- The texts made of a number of texts of a language that is within bounds. -/
def repeated (least : Nat) (most : Option Nat) (L : Language Char) : Language Char :=
  {w | ∃ n, least ≤ n ∧ most.all (n ≤ ·) = true ∧ w ∈ L ^ n}

variable {r s : Regex} {L M : Language Char}

theorem Spells.ends_ne_nil_iff (hr : r.Spells L) (c : Cursor) : r.ends c ≠ [] ↔ ∃ w ∈ L, w <+: c.after := by
  simp only [← Cursor.exists_passes_iff, List.ne_nil_iff_exists_cons]
  constructor
  · rintro ⟨d, ds, hends⟩
    obtain ⟨w, hw, hpass⟩ := (hr c d).mp (hends ▸ List.mem_cons_self)
    exact ⟨w, hw, d, hpass⟩
  · rintro ⟨w, hw, d, hpass⟩
    exact List.ne_nil_iff_exists_cons.mp (List.ne_nil_of_mem ((hr c d).mpr ⟨w, hw, hpass⟩))

/-- A pattern that spells a language matches in a text when a text of the language stands there. -/
theorem Spells.matchesIn_iff (hr : r.Spells L) (cs : List Char) :
    r.matchesFrom [] 0 cs = true ↔ ∃ w ∈ L, w <:+: cs := by
  rw [r.matchesIn_iff]
  simp only [hr.ends_ne_nil_iff]
  constructor
  · rintro ⟨passed, rest, rfl, w, hw, hprefix⟩
    exact ⟨w, hw, hprefix.isInfix.trans (List.suffix_append passed rest).isInfix⟩
  · rintro ⟨w, hw, passed, left, rfl⟩
    exact ⟨passed, w ++ left, List.append_assoc .., w, hw, List.prefix_append w left⟩

theorem spells_empty : Spells .empty 1 := by
  intro c d
  simp [ends, Language.mem_one, Cursor.Passes.nil_iff]

theorem spells_one (s : CharSet) : Spells (.one s) s.language := by
  intro c d
  rw [ends]
  constructor
  · intro h
    split at h
    · next x e hadvance =>
      split at h
      · next hx =>
        obtain rfl := List.mem_singleton.mp h
        exact ⟨[x], ⟨x, hx, rfl⟩, Cursor.Passes.cons_iff.mpr ⟨d, hadvance, Cursor.Passes.nil_iff.mpr rfl⟩⟩
      · cases h
    · cases h
  · rintro ⟨_, ⟨x, hx, rfl⟩, hpass⟩
    obtain ⟨e, hadvance, he⟩ := Cursor.Passes.cons_iff.mp hpass
    obtain rfl := Cursor.Passes.nil_iff.mp he
    simp [hadvance, hx]

theorem Spells.seq (hr : r.Spells L) (hs : s.Spells M) : Spells (.seq r s) (L * M) := by
  intro c e
  rw [ends, List.mem_flatMap]
  constructor
  · rintro ⟨d, hd, he⟩
    obtain ⟨xs, hxs, hcd⟩ := (hr c d).mp hd
    obtain ⟨ys, hys, hde⟩ := (hs d e).mp he
    exact ⟨xs ++ ys, Language.append_mem_mul hxs hys, Cursor.Passes.append_iff.mpr ⟨d, hcd, hde⟩⟩
  · rintro ⟨_, hw, hpass⟩
    obtain ⟨xs, hxs, ys, hys, rfl⟩ := Language.mem_mul.mp hw
    obtain ⟨d, hcd, hde⟩ := Cursor.Passes.append_iff.mp hpass
    exact ⟨d, (hr c d).mpr ⟨xs, hxs, hcd⟩, (hs d e).mpr ⟨ys, hys, hde⟩⟩

theorem Spells.alt (hr : r.Spells L) (hs : s.Spells M) : Spells (.alt r s) (L + M) := by
  intro c d
  rw [ends, List.mem_append, hr c d, hs c d]
  simp only [Language.mem_add, or_and_right, exists_or]

/-! ### Repetitions -/

section Loop

variable {body : Cursor → List Cursor} {least : Nat} {most : Option Nat}

/-- Another iteration passes over one text of the language more. -/
theorem mem_flatMap_body (hbody : ∀ c d, d ∈ body c ↔ ∃ xs ∈ L, c.Passes xs d) {rest : Cursor → List Cursor}
    {P : Nat → Prop} {c e : Cursor}
    (hrest : ∀ xs d, xs ∈ L → c.Passes xs d → (e ∈ rest d ↔ ∃ n, P (n + 1) ∧ ∃ ys ∈ L ^ n, d.Passes ys e)) :
    e ∈ (body c).flatMap rest ↔ ∃ n, P (n + 1) ∧ ∃ w ∈ L ^ (n + 1), c.Passes w e := by
  rw [List.mem_flatMap]
  constructor
  · rintro ⟨d, hd, he⟩
    obtain ⟨xs, hxs, hcd⟩ := (hbody c d).mp hd
    obtain ⟨n, hn, ys, hys, hde⟩ := (hrest xs d hxs hcd).mp he
    refine ⟨n, hn, xs ++ ys, ?_, Cursor.Passes.append_iff.mpr ⟨d, hcd, hde⟩⟩
    rw [pow_succ']
    exact Language.append_mem_mul hxs hys
  · rintro ⟨n, hn, w, hw, hpass⟩
    rw [pow_succ'] at hw
    obtain ⟨xs, hxs, ys, hys, rfl⟩ := Language.mem_mul.mp hw
    obtain ⟨d, hcd, hde⟩ := Cursor.Passes.append_iff.mp hpass
    exact ⟨d, (hbody c d).mpr ⟨xs, hxs, hcd⟩, (hrest xs d hxs hcd).mpr ⟨n, hn, ys, hys, hde⟩⟩

/-- Iterations of a body that is never empty: each takes a character, so there is fuel for all of them and
none is taken for the last. -/
theorem mem_iterateEnds_iff (hbody : ∀ c d, d ∈ body c ↔ ∃ xs ∈ L, c.Passes xs d) (hL : [] ∉ L)
    (hbounds : most.all (least ≤ ·) = true) (lazy : Bool) {fuel count : Nat} {last : Option Nat} {c d : Cursor}
    (hfuel : c.after.length < fuel) (hcount : most.all (count ≤ ·) = true)
    (hlast : ∀ p, last = some p → p < c.position) :
    d ∈ iterateEnds body lazy least most fuel count last c ↔
      ∃ n, (least ≤ count + n ∧ most.all (count + n ≤ ·) = true) ∧ ∃ xs ∈ L ^ n, c.Passes xs d := by
  induction fuel generalizing count last c with
  | zero => exact absurd hfuel (Nat.not_lt_zero _)
  | succ fuel ih =>
    have hnext {last : Option Nat} (hless : most.all (count + 1 ≤ ·) = true)
        (hlast : ∀ p, last = some p → p ≤ c.position) :
        d ∈ (body c).flatMap (iterateEnds body lazy least most fuel (count + 1) last) ↔
          ∃ n, (least ≤ count + (n + 1) ∧ most.all (count + (n + 1) ≤ ·) = true) ∧
            ∃ xs ∈ L ^ (n + 1), c.Passes xs d := by
      refine mem_flatMap_body (P := fun n => least ≤ count + n ∧ most.all (count + n ≤ ·) = true) hbody
        fun xs e hxs hpass => ?_
      have hpos : 0 < xs.length := List.length_pos_iff.mpr fun h => hL (h ▸ hxs)
      have hafter := congrArg List.length hpass.after
      rw [List.length_append] at hafter
      have hposition := hpass.position
      rw [ih (by omega) hless fun p hp => by have := hlast p hp; omega]
      simp only [Nat.add_assoc, Nat.add_comm 1]
    by_cases hleast : count < least
    · rw [mem_iterateEnds_of_lt hleast,
        hnext (by cases most <;> simp_all; omega) fun p hp => (hlast p hp).le]
      constructor
      · rintro ⟨n, h⟩
        exact ⟨n + 1, h⟩
      · rintro ⟨_ | n, h⟩
        · omega
        · exact ⟨n, h⟩
    · have hreached : least ≤ count := Nat.not_lt.mp hleast
      have hfresh : last ≠ some c.position := fun h => absurd (hlast _ h) (Nat.lt_irrefl _)
      rw [mem_iterateEnds_of_le hreached]
      constructor
      · rintro (rfl | ⟨hless, -, h⟩)
        · exact ⟨0, ⟨hreached, hcount⟩, [], rfl, Cursor.Passes.nil_iff.mpr rfl⟩
        · obtain ⟨n, h⟩ := (hnext hless fun p hp => (Option.some.inj hp).ge).mp h
          exact ⟨n + 1, h⟩
      · rintro ⟨_ | n, hn, xs, hxs, hpass⟩
        · obtain rfl : xs = [] := hxs
          exact .inl (Cursor.Passes.nil_iff.mp hpass)
        · have hless : most.all (count + 1 ≤ ·) = true := by
            cases most with
            | none => rfl
            | some m =>
              simp only [Option.all_some, decide_eq_true_eq] at hn ⊢
              omega
          exact .inr ⟨hless, hfresh, (hnext hless fun p hp => (Option.some.inj hp).ge).mpr
            ⟨n, hn, xs, hxs, hpass⟩⟩

end Loop

/-- A repetition of what is never empty and that gives characters back. -/
theorem Spells.loop (hr : r.Spells L) (hL : [] ∉ L) {greed : Greed} (hgreed : greed ≠ .possessive) {least : Nat}
    {most : Option Nat} (hbounds : most.all (least ≤ ·) = true) :
    Spells (.loop greed least most r) (repeated least most L) := by
  intro c d
  have hiterate (lazy : Bool) :
      d ∈ iterateEnds (ends r) lazy least most (least + c.after.length + 2) 0 none c ↔
        ∃ n, (least ≤ 0 + n ∧ most.all (0 + n ≤ ·) = true) ∧ ∃ xs ∈ L ^ n, c.Passes xs d :=
    mem_iterateEnds_iff hr hL hbounds lazy (by omega) (by cases most <;> simp) (by simp)
  have hrepeated : (∃ xs ∈ repeated least most L, c.Passes xs d) ↔
      ∃ n, (least ≤ 0 + n ∧ most.all (0 + n ≤ ·) = true) ∧ ∃ xs ∈ L ^ n, c.Passes xs d := by
    simp only [Nat.zero_add]
    constructor
    · rintro ⟨xs, ⟨n, hleast, hmost, hxs⟩, hpass⟩
      exact ⟨n, ⟨hleast, hmost⟩, xs, hxs, hpass⟩
    · rintro ⟨n, ⟨hleast, hmost⟩, xs, hxs, hpass⟩
      exact ⟨xs, ⟨n, hleast, hmost, hxs⟩, hpass⟩
  rw [hrepeated]
  match greed with
  | .greedy => exact hiterate false
  | .lazy => exact hiterate true
  | .possessive => exact absurd rfl hgreed

theorem Spells.exactly (hr : r.Spells L) (hL : [] ∉ L) (n : Nat) : Spells (r.exactly n) (L ^ n) := by
  have h : Spells (r.exactly n) (repeated n (some n) L) := hr.loop hL (by decide) (by simp)
  have hpow : repeated n (some n) L = L ^ n := by
    ext w
    constructor
    · rintro ⟨m, hleast, hmost, hw⟩
      obtain rfl : m = n := le_antisymm (by simpa using hmost) hleast
      exact hw
    · intro hw
      exact ⟨n, le_rfl, by simp, hw⟩
  exact hpow ▸ h

theorem Spells.optional (hr : r.Spells L) (hL : [] ∉ L) : Spells r.optional (1 + L) := by
  have h : Spells r.optional (repeated 0 (some 1) L) := hr.loop hL (by decide) (by simp)
  have hone : repeated 0 (some 1) L = 1 + L := by
    ext w
    rw [Language.mem_add]
    constructor
    · rintro ⟨_ | _ | n, -, hmost, hw⟩
      · exact .inl hw
      · exact .inr (pow_one L ▸ hw)
      · simp at hmost
    · rintro (hw | hw)
      · exact ⟨0, le_rfl, rfl, hw⟩
      · exact ⟨1, Nat.zero_le 1, rfl, (pow_one L).symm ▸ hw⟩
  exact hone ▸ h

theorem mem_singleton_mul {t w : List Char} : w ∈ ({t} : Language Char) * L ↔ ∃ v ∈ L, w = t ++ v := by
  rw [Language.mem_mul]
  constructor
  · rintro ⟨_, rfl, v, hv, rfl⟩
    exact ⟨v, hv, rfl⟩
  · rintro ⟨v, hv, rfl⟩
    exact ⟨t, rfl, v, hv, rfl⟩

theorem nil_notMem_singleton_mul {x : Char} : [] ∉ ({[x]} : Language Char) * L := by
  rw [mem_singleton_mul]
  rintro ⟨v, -, h⟩
  cases h

theorem nil_notMem_mul (hM : [] ∉ M) : [] ∉ L * M := by
  intro h
  obtain ⟨u, -, v, hv, heq⟩ := Language.mem_mul.mp h
  exact hM ((List.append_eq_nil_iff.mp heq).2 ▸ hv)

/-! ### Sets of characters -/

namespace CharSet

theorem contains_between {low high x : Char} : (between low high).contains x = true ↔ low ≤ x ∧ x ≤ high := by
  simp [contains, between, CaseFold.apply, Item.holds, Char.le_def, UInt32.le_iff_toNat_le]

theorem contains_char {c x : Char} : (char c).contains x = true ↔ x = c := by
  rw [char, contains_between]
  exact ⟨fun h => Char.le_antisymm h.2 h.1, fun h => h ▸ ⟨Char.le_refl x, Char.le_refl x⟩⟩

theorem contains_ofRanges {ranges : List (Char × Char)} {singles : String} {x : Char} :
    (ofRanges ranges singles).contains x = true ↔
      (∃ p ∈ ranges, p.1 ≤ x ∧ x ≤ p.2) ∨ x ∈ singles.toList := by
  simp [contains, ofRanges, CaseFold.apply, Item.holds, Char.le_def, UInt32.le_iff_toNat_le,
    ← Nat.le_antisymm_iff, Char.toNat_inj]

theorem contains_anything {x : Char} : (anything false).contains x = true ↔ x ≠ '\n' := by
  have h : x.toNat = 10 ↔ x = '\n' := Char.toNat_inj (d := '\n')
  simp [contains, anything, CaseFold.apply, Item.holds, h]

theorem mem_language {s : CharSet} {w : List Char} : w ∈ s.language ↔ ∃ x, s.contains x = true ∧ w = [x] :=
  Iff.rfl

theorem nil_notMem_language {s : CharSet} : [] ∉ s.language := by
  rintro ⟨x, -, h⟩
  cases h

theorem mem_language_mul {s : CharSet} {w : List Char} :
    w ∈ s.language * L ↔ ∃ x v, s.contains x = true ∧ v ∈ L ∧ w = x :: v := by
  rw [Language.mem_mul]
  constructor
  · rintro ⟨_, ⟨x, hx, rfl⟩, v, hv, rfl⟩
    exact ⟨x, v, hx, hv, rfl⟩
  · rintro ⟨x, v, hx, hv, rfl⟩
    exact ⟨[x], ⟨x, hx, rfl⟩, v, hv, rfl⟩

theorem mem_language_pow {s : CharSet} {n : Nat} {w : List Char} :
    w ∈ s.language ^ n ↔ w.length = n ∧ ∀ x ∈ w, s.contains x = true := by
  induction n generalizing w with
  | zero =>
    rw [pow_zero, Language.mem_one, List.length_eq_zero_iff]
    exact ⟨fun h => ⟨h, by simp [h]⟩, And.left⟩
  | succ n ih =>
    rw [pow_succ', mem_language_mul]
    constructor
    · rintro ⟨x, v, hx, hv, rfl⟩
      obtain ⟨hlength, hall⟩ := ih.mp hv
      exact ⟨congrArg (· + 1) hlength, List.forall_mem_cons.mpr ⟨hx, hall⟩⟩
    · rintro ⟨hlength, hall⟩
      obtain ⟨x, v, rfl, hv⟩ := List.exists_of_length_succ w hlength
      obtain ⟨hx, hall⟩ := List.forall_mem_cons.mp hall
      exact ⟨x, v, hx, ih.mpr ⟨Nat.succ.inj hlength, hall⟩, rfl⟩

theorem mem_repeated_language {s : CharSet} {least : Nat} {most : Option Nat} {w : List Char} :
    w ∈ repeated least most s.language ↔
      least ≤ w.length ∧ most.all (w.length ≤ ·) = true ∧ ∀ x ∈ w, s.contains x = true := by
  constructor
  · rintro ⟨n, hleast, hmost, hw⟩
    obtain ⟨rfl, hall⟩ := mem_language_pow.mp hw
    exact ⟨hleast, hmost, hall⟩
  · rintro ⟨hleast, hmost, hall⟩
    exact ⟨w.length, hleast, hmost, mem_language_pow.mpr ⟨rfl, hall⟩⟩

end CharSet

/-- A text as it is spells that text alone. -/
theorem spells_text (t : String) : Spells (text t) {t.toList} := by
  suffices h : ∀ cs : List Char, Spells (inTurn (cs.map fun c => .one (.char c))) {cs} from h t.toList
  intro cs
  induction cs with
  | nil => exact spells_empty
  | cons c cs ih =>
    have hone : Spells (.one (.char c)) {[c]} := by
      have h : (CharSet.char c).language = {[c]} := by
        ext w
        exact ⟨fun ⟨x, hx, hw⟩ => by rw [hw, CharSet.contains_char.mp hx]; rfl,
          fun hw => ⟨c, CharSet.contains_char.mpr rfl, hw⟩⟩
      exact h ▸ spells_one (.char c)
    cases cs with
    | nil => exact hone
    | cons d cs =>
      have h := hone.seq ih
      rwa [show ({[c]} : Language Char) * {d :: cs} = {c :: d :: cs} from Set.image2_singleton] at h

/-! ### Ends of what is not read off a language -/

/-- Nothing, or the line feed that ends a text. -/
def LastLineFeed (tail : List Char) : Prop := tail = [] ∨ tail = ['\n']

theorem textEnd_holds {c : Cursor} : Anchor.textEnd.holds c = true ↔ LastLineFeed c.after := by
  simp [Anchor.holds, LastLineFeed]

/-- What `sizeAhead` looks for: the rest of the last line, of a length within bounds. -/
theorem ends_lineAhead_iff {least most : Nat} (hbounds : least ≤ most) (c : Cursor) :
    (seq (times least most (.one (.anything false))) (.anchor .textEnd)).ends c ≠ [] ↔
      ∃ line tail, c.after = line ++ tail ∧ least ≤ line.length ∧ line.length ≤ most ∧ '\n' ∉ line ∧
        LastLineFeed tail := by
  have hline : Spells (times least most (.one (.anything false))) _ :=
    (spells_one (.anything false)).loop CharSet.nil_notMem_language (by decide) (by simpa using hbounds)
  have hwithin (line : List Char) : line ∈ repeated least (some most) (CharSet.anything false).language ↔
      least ≤ line.length ∧ line.length ≤ most ∧ '\n' ∉ line := by
    rw [CharSet.mem_repeated_language]
    simp only [Option.all_some, decide_eq_true_eq, CharSet.contains_anything]
    refine and_congr_right fun _ => and_congr_right fun _ => ?_
    exact ⟨fun h hmem => h _ hmem rfl, fun h x hx heq => h (heq ▸ hx)⟩
  constructor
  · intro h
    obtain ⟨e, he⟩ := List.exists_mem_of_ne_nil _ h
    rw [ends, List.mem_flatMap] at he
    obtain ⟨d, hd, he⟩ := he
    obtain ⟨line, hmem, hpass⟩ := (hline c d).mp hd
    obtain ⟨hleast, hmost, hfree⟩ := (hwithin line).mp hmem
    rw [ends] at he
    split at he
    · next hend => exact ⟨line, d.after, hpass.after, hleast, hmost, hfree, textEnd_holds.mp hend⟩
    · cases he
  · rintro ⟨line, tail, hafter, hleast, hmost, hfree, htail⟩
    obtain ⟨d, hpass⟩ := Cursor.exists_passes_iff.mpr ⟨tail, hafter.symm⟩
    have hd := (hline c d).mpr ⟨line, (hwithin line).mpr ⟨hleast, hmost, hfree⟩, hpass⟩
    have hrest : d.after = tail := List.append_cancel_left (hpass.after.symm.trans hafter)
    refine List.ne_nil_of_mem (a := d) ?_
    rw [ends, List.mem_flatMap]
    exact ⟨d, hd, by simp [ends, textEnd_holds.mpr (hrest ▸ htail)]⟩

theorem ends_ahead_seq_iff {r s : Regex} (c : Cursor)
    (hs : ∀ d, s.ends (c.withGroups d) ≠ [] ↔ s.ends c ≠ []) :
    (seq (.ahead false r) s).ends c ≠ [] ↔ r.ends c ≠ [] ∧ s.ends c ≠ [] := by
  rw [ends, ends]
  cases hr : r.ends c with
  | nil => simp
  | cons d ds => simpa using hs d

theorem ends_loop_ne_nil {r : Regex} {most : Option Nat} (c : Cursor) :
    (loop .greedy 0 most r).ends c ≠ [] := by
  show iterateEnds _ false 0 most (0 + c.after.length + 1 + 1) 0 none c ≠ []
  rw [iterateEnds]
  simp

theorem ends_seq_ne_nil_iff {r s : Regex} (hs : ∀ d, s.ends d ≠ []) (c : Cursor) :
    (seq r s).ends c ≠ [] ↔ r.ends c ≠ [] := by
  rw [ends, ne_eq, List.flatMap_eq_nil_iff]
  constructor
  · intro h hr
    simp [hr] at h
  · intro h hr
    obtain ⟨d, hd⟩ := List.exists_mem_of_ne_nil _ h
    exact hs d (hr d hd)

theorem ends_firstOf_iff {rs : List Regex} (hrs : rs ≠ []) (c : Cursor) :
    (firstOf rs).ends c ≠ [] ↔ ∃ r ∈ rs, r.ends c ≠ [] := by
  induction rs with
  | nil => exact absurd rfl hrs
  | cons r rs ih =>
    cases rs with
    | nil => simp [firstOf]
    | cons s rs =>
      have h : firstOf (r :: s :: rs) = .alt r (firstOf (s :: rs)) := rfl
      rw [h, ends, List.exists_mem_cons_iff, ← ih (List.cons_ne_nil _ _), ne_eq, List.append_eq_nil_iff,
        not_and_or]

theorem firstOf_matches_iff {rs : List Regex} (hrs : rs ≠ []) (cs : List Char) :
    (firstOf rs).matchesFrom [] 0 cs = true ↔ ∃ r ∈ rs, r.matchesFrom [] 0 cs = true := by
  simp only [matchesIn_iff, ends_firstOf_iff hrs]
  constructor
  · rintro ⟨passed, rest, heq, r, hr, h⟩
    exact ⟨r, hr, passed, rest, heq, h⟩
  · rintro ⟨r, hr, passed, rest, heq, h⟩
    exact ⟨passed, rest, heq, r, hr, h⟩

end Rulebook.Regex
