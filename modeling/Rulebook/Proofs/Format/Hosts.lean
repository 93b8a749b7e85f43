import Rulebook.Proofs.Regex.Language
import Rulebook.Format.Basic

/-!
Hosts, addresses with colons and mail. The patterns of hosts and of addresses with colons are not tied to
the ends of the text, so a text is accepted when there is enough of a host or of an address somewhere in it,
whatever else is around. What is enough is small: of a host, one letter or digit; of an address, two colons
in a row or eight places.
-/

namespace Rulebook

open Regex

namespace Grammar

/-! ### Hosts -/

/-- A letter or digit that is one of the last 255 characters of the last line. -/
def HostIn (cs : List Char) : Prop :=
  ∃ passed x rest tail, cs = passed ++ x :: (rest ++ tail) ∧ x.isAlphanum = true ∧ rest.length < 255 ∧
    '\n' ∉ rest ∧ LastLineFeed tail

theorem contains_alphanumeric {x : Char} : alphanumeric.contains x = true ↔ x.isAlphanum = true := by
  rw [alphanumeric, CharSet.contains_ofRanges]
  simp [Char.isAlphanum, Char.isAlpha, Char.isUpper, Char.isLower, Char.isDigit, Char.le_def]
  exact or_comm

/-- After its first character a host has nothing that it must have. -/
theorem ends_labels_iff (c : Cursor) :
    (inTurn [hostLabel, many (.seq (text ".") hostLabel), optional (text ".")]).ends c ≠ [] ↔
      ∃ x rest, c.after = x :: rest ∧ x.isAlphanum = true := by
  have hdots (d : Cursor) :
      (Regex.seq (many (.seq (text ".") hostLabel)) (optional (text "."))).ends d ≠ [] :=
    (ends_seq_ne_nil_iff ends_loop_ne_nil d).mpr (ends_loop_ne_nil d)
  have hlabel : hostLabel.ends c ≠ [] ↔ (Regex.one alphanumeric).ends c ≠ [] :=
    ends_seq_ne_nil_iff ends_loop_ne_nil c
  show (Regex.seq hostLabel (.seq (many (.seq (text ".") hostLabel)) (optional (text ".")))).ends c ≠ [] ↔ _
  rw [ends_seq_ne_nil_iff hdots, hlabel, (spells_one alphanumeric).ends_ne_nil_iff]
  constructor
  · rintro ⟨_, ⟨x, hx, rfl⟩, rest, hafter⟩
    exact ⟨x, rest, hafter.symm, contains_alphanumeric.mp hx⟩
  · rintro ⟨x, rest, hafter, hx⟩
    exact ⟨[x], ⟨x, contains_alphanumeric.mpr hx, rfl⟩, rest, hafter.symm⟩

theorem hostname_matches_iff (cs : List Char) : hostname.matchesFrom [] 0 cs = true ↔ HostIn cs := by
  have hends (c : Cursor) : hostname.ends c ≠ [] ↔
      ∃ x rest tail, c.after = x :: (rest ++ tail) ∧ x.isAlphanum = true ∧ rest.length < 255 ∧ '\n' ∉ rest ∧
        LastLineFeed tail := by
    have hparts : hostname = .seq (sizeAhead 1 255)
      (inTurn [hostLabel, many (.seq (text ".") hostLabel), optional (text ".")]) := rfl
    rw [hparts, sizeAhead, ends_ahead_seq_iff c fun d => by rw [ends_labels_iff, ends_labels_iff]; rfl,
      ends_lineAhead_iff (by decide), ends_labels_iff]
    constructor
    · rintro ⟨⟨line, tail, hafter, hleast, hmost, hfree, htail⟩, x, rest, hcons, hx⟩
      obtain ⟨y, rest, rfl⟩ := List.exists_cons_of_length_pos hleast
      obtain rfl : y = x := (List.cons.inj (hafter.symm.trans hcons)).1
      exact ⟨y, rest, tail, hafter, hx, hmost, fun h => hfree (List.mem_cons_of_mem _ h), htail⟩
    · rintro ⟨x, rest, tail, hafter, hx, hlength, hfree, htail⟩
      refine ⟨⟨x :: rest, tail, hafter, Nat.succ_pos _, hlength, ?_, htail⟩, x, _, hafter, hx⟩
      rintro (_ | ⟨_, h⟩)
      · exact absurd hx (by decide)
      · exact hfree h
  rw [hostname.matchesIn_iff]
  simp only [hends]
  constructor
  · rintro ⟨passed, _, rfl, x, rest, tail, hafter, h⟩
    exact ⟨passed, x, rest, tail, congrArg (passed ++ ·) hafter, h⟩
  · rintro ⟨passed, x, rest, tail, rfl, h⟩
    exact ⟨passed, _, rfl, x, rest, tail, rfl, h⟩

/-! ### Addresses with colons -/

def IsHexDigit (x : Char) : Prop := ('0' ≤ x ∧ x ≤ '9') ∨ ('A' ≤ x ∧ x ≤ 'F') ∨ ('a' ≤ x ∧ x ≤ 'f')
  deriving Decidable

def HexDigit : Language Char := {w | ∃ x, IsHexDigit x ∧ w = [x]}

/-- One to four hexadecimal digits. -/
def HexField : Language Char := {w | 1 ≤ w.length ∧ w.length ≤ 4 ∧ ∀ x ∈ w, IsHexDigit x}

/-- A number up to 255 without leading zeros, its digits of any script except where they bound it. -/
inductive IsOctet : List Char → Prop
  | one {x : Char} (hx : isDecimalDigit x = true) : IsOctet [x]
  | two {x y : Char} (hlow : '1' ≤ x) (hhigh : x ≤ '9') (hy : isDecimalDigit y = true) : IsOctet [x, y]
  | hundreds {x y : Char} (hx : isDecimalDigit x = true) (hy : isDecimalDigit y = true) : IsOctet ['1', x, y]
  | belowFifty {x y : Char} (hlow : '0' ≤ x) (hhigh : x ≤ '4') (hy : isDecimalDigit y = true) :
    IsOctet ['2', x, y]
  | fifties {x : Char} (hlow : '0' ≤ x) (hhigh : x ≤ '5') : IsOctet ['2', '5', x]

def Octet : Language Char := {w | IsOctet w}

/-- Four octets with dots between them. -/
def DottedQuad : Language Char := Octet * ({['.']} * Octet) ^ 3

/-- What is enough of an address: two colons in a row, or seven fields with their colons and one digit more,
or six such fields and a dotted quad. -/
def ColonAddress : Language Char :=
  {[':', ':']} + (HexField * {[':']}) ^ 7 * HexDigit + (HexField * {[':']}) ^ 6 * DottedQuad

theorem spells_hexField : Spells hexField HexField := by
  have h : Spells hexField _ := (spells_one (.ofRanges [('0', '9'), ('A', 'F'), ('a', 'f')] "")).loop
    CharSet.nil_notMem_language (by decide) (by decide)
  convert h using 1
  ext w
  rw [CharSet.mem_repeated_language]
  simp only [Option.all_some, decide_eq_true_eq, CharSet.contains_ofRanges]
  simp only [List.mem_cons, List.not_mem_nil, or_false, exists_eq_or_imp, exists_eq_left, String.toList_empty]
  exact Iff.rfl

theorem contains_anyDigit {x : Char} :
    (CharSet.mk false .exact [.category .digit false false]).contains x = isDecimalDigit x := by
  simp [CharSet.contains, CaseFold.apply, Item.holds, Category.holds]

theorem spells_plainOctet : Spells plainOctet Octet := by
  have h : Spells plainOctet _ :=
    ((spells_text "25").seq (spells_one (.between '0' '5'))).alt
      (((spells_text "2").seq ((spells_one (.between '0' '4')).seq (spells_one _))).alt
        (((spells_text "1").seq ((spells_one _).seq (spells_one _))).alt
          (((spells_one (.between '1' '9')).optional CharSet.nil_notMem_language).seq (spells_one _))))
  convert h using 1
  ext w
  simp only [add_mul, one_mul, Language.mem_add, mem_singleton_mul, CharSet.mem_language_mul,
    CharSet.mem_language, contains_anyDigit, CharSet.contains_between]
  constructor
  · rintro (hx | ⟨hlow, hhigh, hy⟩ | ⟨hx, hy⟩ | ⟨hlow, hhigh, hy⟩ | ⟨hlow, hhigh⟩)
    · exact .inr (.inr (.inr (.inl ⟨_, hx, rfl⟩)))
    · exact .inr (.inr (.inr (.inr ⟨_, _, ⟨hlow, hhigh⟩, ⟨_, hy, rfl⟩, rfl⟩)))
    · exact .inr (.inr (.inl ⟨_, ⟨_, _, hx, ⟨_, hy, rfl⟩, rfl⟩, rfl⟩))
    · exact .inr (.inl ⟨_, ⟨_, _, ⟨hlow, hhigh⟩, ⟨_, hy, rfl⟩, rfl⟩, rfl⟩)
    · exact .inl ⟨_, ⟨_, ⟨hlow, hhigh⟩, rfl⟩, rfl⟩
  · rintro (⟨_, ⟨x, ⟨hlow, hhigh⟩, rfl⟩, rfl⟩ | ⟨_, ⟨x, _, ⟨hlow, hhigh⟩, ⟨y, hy, rfl⟩, rfl⟩, rfl⟩ |
      ⟨_, ⟨x, _, hx, ⟨y, hy, rfl⟩, rfl⟩, rfl⟩ | ⟨x, hx, rfl⟩ | ⟨x, _, ⟨hlow, hhigh⟩, ⟨y, hy, rfl⟩, rfl⟩)
    · exact .fifties hlow hhigh
    · exact .belowFifty hlow hhigh hy
    · exact .hundreds hx hy
    · exact .one hx
    · exact .two hlow hhigh hy

theorem spells_dottedTail : Spells dottedTail DottedQuad :=
  spells_plainOctet.seq (((spells_text ".").seq spells_plainOctet).exactly nil_notMem_singleton_mul 3)

theorem spells_colonField : Spells colonField ({[':']} * HexField) := (spells_text ":").seq spells_hexField

theorem spells_fields (n : Nat) : Spells (exactly n (.seq hexField (text ":"))) ((HexField * {[':']}) ^ n) := by
  refine (spells_hexField.seq (spells_text ":")).exactly ?_ n
  rw [Language.mem_mul]
  rintro ⟨u, -, _, rfl, h⟩
  exact List.append_ne_nil_of_right_ne_nil u (List.cons_ne_nil _ _) h

theorem colon_prefix_of_mul {L : Language Char} {w : List Char} (hw : w ∈ ({[':']} : Language Char) * L) :
    [':'] <+: w := by
  obtain ⟨v, -, rfl⟩ := mem_singleton_mul.mp hw
  exact List.prefix_append _ _

theorem colon_prefix_of_pow_mul {L M : Language Char} (hM : ∀ w ∈ M, [':'] <+: w) {k : Nat} {w : List Char}
    (hw : w ∈ ({[':']} * L) ^ k * M) : [':'] <+: w := by
  cases k with
  | zero => exact hM w (by rwa [pow_zero, one_mul] at hw)
  | succ k =>
    rw [pow_succ', mul_assoc, mul_assoc] at hw
    exact colon_prefix_of_mul hw

/-- After at most five fields comes a colon, and it may come alone. -/
theorem afterFields_led {n : Nat} (hn : n ≤ 5) :
    ∃ M : Language Char, Spells (afterFields n) M ∧ [':'] ∈ M ∧ ∀ w ∈ M, [':'] <+: w := by
  have hfields : Spells (times 1 (7 - n) colonField) (repeated 1 (some (7 - n)) ({[':']} * HexField)) :=
    spells_colonField.loop nil_notMem_singleton_mul (by decide) (by simp; omega)
  have htail : Spells (.seq (text ":") dottedTail) ({[':']} * DottedQuad) :=
    (spells_text ":").seq spells_dottedTail
  obtain ⟨spaced, N, hspaced, hled, heq⟩ : ∃ (spaced : Regex) (N : Language Char), Spells spaced N ∧
      (∀ w ∈ N, [':'] <+: w) ∧ afterFields n = firstOf [times 1 (7 - n) colonField, spaced, text ":"] := by
    rcases Nat.lt_or_eq_of_le hn with h | rfl
    · have hmany : Spells (times 0 (5 - n) colonField) (repeated 0 (some (5 - n)) ({[':']} * HexField)) :=
        spells_colonField.loop nil_notMem_singleton_mul (by decide) (by simp)
      refine ⟨_, _, hmany.seq htail, ?_, by interval_cases n <;> rfl⟩
      intro w hw
      obtain ⟨u, ⟨k, -, -, hu⟩, v, hv, rfl⟩ := Language.mem_mul.mp hw
      exact colon_prefix_of_pow_mul (fun _ => colon_prefix_of_mul) (Language.append_mem_mul hu hv)
    · exact ⟨_, _, htail, fun _ => colon_prefix_of_mul, rfl⟩
  have hspells : Spells (firstOf [_, spaced, text ":"]) _ := hfields.alt (hspaced.alt (spells_text ":"))
  rw [← heq] at hspells
  refine ⟨_, hspells, .inr (.inr rfl), ?_⟩
  rintro w (⟨_ | k, hleast, -, hw⟩ | hw | rfl)
  · cases hleast
  · rw [pow_succ', mul_assoc] at hw
    exact colon_prefix_of_mul hw
  · exact hled w hw
  · exact List.prefix_rfl

/-- A text has two colons in a row where fields with their colons are followed by a colon. -/
theorem colons_of_fields {n : Nat} {u v : List Char} (hu : u ∈ (HexField * {[':']}) ^ (n + 1))
    (hv : [':'] <+: v) : [':', ':'] <:+: u ++ v := by
  rw [pow_succ, ← mul_assoc] at hu
  obtain ⟨t, -, _, rfl, rfl⟩ := Language.mem_mul.mp hu
  obtain ⟨rest, rfl⟩ := hv
  exact ⟨t, rest, by simp⟩

theorem spells_afterSix : Spells (afterFields 6) ({[':']} * HexField + (DottedQuad + {[':']})) :=
  spells_colonField.alt (spells_dottedTail.alt (spells_text ":"))

theorem spells_afterSeven : Spells (afterFields 7) (HexField + {[':']}) := spells_hexField.alt (spells_text ":")

theorem ipv6_matches_iff (cs : List Char) :
    ipv6.matchesFrom [] 0 cs = true ↔ ∃ w ∈ ColonAddress, w <:+: cs := by
  have hparts (r : Regex) : r ∈ [7, 6, 5, 4, 3, 2, 1].map (fun n =>
      .seq (exactly n (.seq hexField (text ":"))) (afterFields n)) ++ [.seq (text ":") (afterFields 0)] ↔
      (∃ n < 7, r = .seq (exactly (n + 1) (.seq hexField (text ":"))) (afterFields (n + 1))) ∨
        r = .seq (text ":") (afterFields 0) := by
    rw [List.mem_append, List.mem_map, List.mem_singleton]
    refine or_congr_left ⟨?_, ?_⟩
    · rintro ⟨n, hn, rfl⟩
      have hbounds : 1 ≤ n ∧ n ≤ 7 := by fin_cases hn <;> decide
      obtain ⟨m, rfl⟩ := Nat.exists_eq_add_of_le' hbounds.1
      exact ⟨m, Nat.lt_of_succ_le hbounds.2, rfl⟩
    · rintro ⟨n, hn, rfl⟩
      refine ⟨n + 1, ?_, rfl⟩
      interval_cases n <;> decide
  have hcolons {w : List Char} (hw : w <:+: cs) (hv : [':', ':'] <:+: w) : ∃ w ∈ ColonAddress, w <:+: cs :=
    ⟨[':', ':'], .inl (.inl rfl), hv.trans hw⟩
  rw [ipv6, firstOf_matches_iff (by simp)]
  constructor
  · rintro ⟨r, hr, hmatches⟩
    rcases (hparts r).mp hr with ⟨n, hn, rfl⟩ | rfl
    · obtain hle | rfl | rfl : n + 1 ≤ 5 ∨ n = 5 ∨ n = 6 := by omega
      · obtain ⟨M, hM, -, hled⟩ := afterFields_led hle
        obtain ⟨w, hw, hwithin⟩ := (((spells_fields (n + 1)).seq hM).matchesIn_iff cs).mp hmatches
        obtain ⟨u, hu, v, hv, rfl⟩ := Language.mem_mul.mp hw
        exact hcolons hwithin (colons_of_fields hu (hled v hv))
      · obtain ⟨w, hw, hwithin⟩ := (((spells_fields 6).seq spells_afterSix).matchesIn_iff cs).mp hmatches
        obtain ⟨u, hu, v, hv | hv | rfl, rfl⟩ := Language.mem_mul.mp hw
        · exact hcolons hwithin (colons_of_fields hu (colon_prefix_of_mul hv))
        · exact ⟨_, .inr (Language.append_mem_mul hu hv), hwithin⟩
        · exact hcolons hwithin (colons_of_fields hu List.prefix_rfl)
      · obtain ⟨w, hw, hwithin⟩ := (((spells_fields 7).seq spells_afterSeven).matchesIn_iff cs).mp hmatches
        obtain ⟨u, hu, v, hv | rfl, rfl⟩ := Language.mem_mul.mp hw
        · obtain ⟨hlength, -, hall⟩ := hv
          obtain ⟨x, rest, rfl⟩ := List.exists_cons_of_length_pos hlength
          refine ⟨u ++ [x], .inl (.inr (Language.append_mem_mul hu ⟨x, hall x List.mem_cons_self, rfl⟩)), ?_⟩
          exact List.IsInfix.trans ⟨[], rest, by simp⟩ hwithin
        · exact hcolons hwithin (colons_of_fields hu List.prefix_rfl)
    · obtain ⟨M, hM, -, hled⟩ := afterFields_led (Nat.zero_le 5)
      obtain ⟨w, hw, hwithin⟩ := (((spells_text ":").seq hM).matchesIn_iff cs).mp hmatches
      obtain ⟨v, hv, rfl⟩ := mem_singleton_mul.mp hw
      obtain ⟨rest, rfl⟩ := hled v hv
      exact hcolons hwithin ⟨[], rest, rfl⟩
  · rintro ⟨w, (rfl | hw) | hw, hwithin⟩
    · obtain ⟨M, hM, hcolon, -⟩ := afterFields_led (Nat.zero_le 5)
      exact ⟨_, (hparts _).mpr (.inr rfl), (((spells_text ":").seq hM).matchesIn_iff cs).mpr
        ⟨_, Language.append_mem_mul rfl hcolon, hwithin⟩⟩
    · obtain ⟨u, hu, _, ⟨x, hx, rfl⟩, rfl⟩ := Language.mem_mul.mp hw
      refine ⟨_, (hparts _).mpr (.inl ⟨6, by decide, rfl⟩), ?_⟩
      refine (((spells_fields 7).seq spells_afterSeven).matchesIn_iff cs).mpr ⟨u ++ [x], ?_, hwithin⟩
      exact Language.append_mem_mul hu (.inl ⟨le_rfl, by simp, by simpa using hx⟩)
    · obtain ⟨u, hu, v, hv, rfl⟩ := Language.mem_mul.mp hw
      refine ⟨_, (hparts _).mpr (.inl ⟨5, by decide, rfl⟩), ?_⟩
      refine (((spells_fields 6).seq spells_afterSix).matchesIn_iff cs).mpr ⟨u ++ v, ?_, hwithin⟩
      exact Language.append_mem_mul hu (.inr (.inl hv))

end Grammar

/-! ### Mail -/

namespace Format

variable {c : Char} {cs before after : List Char}

theorem splitAt_cons {part : List Char} {rest : List (List Char)} (h : splitAt c cs = part :: rest) (x : Char) :
    splitAt c (x :: cs) = if x == c then [] :: part :: rest else (x :: part) :: rest := by
  unfold splitAt at h ⊢
  rw [List.foldr_cons, h]

theorem splitAt_cons_of_ne {part : List Char} {rest : List (List Char)} (h : splitAt c cs = part :: rest) {x : Char}
    (hx : c ≠ x) : splitAt c (x :: cs) = (x :: part) :: rest := by
  rw [splitAt_cons h, if_neg fun heq => hx (beq_iff_eq.mp heq).symm]

theorem splitAt_of_notMem (h : c ∉ cs) : splitAt c cs = [cs] := by
  induction cs with
  | nil => rfl
  | cons x cs ih =>
    obtain ⟨hx, hcs⟩ := List.ne_and_not_mem_of_not_mem_cons h
    exact splitAt_cons_of_ne (ih hcs) hx

theorem splitAt_ne_nil : splitAt c cs ≠ [] := by
  induction cs with
  | nil => exact List.cons_ne_nil _ _
  | cons x cs ih =>
    obtain ⟨part, rest, h⟩ := List.exists_cons_of_ne_nil ih
    rw [splitAt_cons h]
    split <;> exact List.cons_ne_nil _ _

theorem splitAt_append (h : c ∉ before) : splitAt c (before ++ c :: after) = before :: splitAt c after := by
  induction before with
  | nil =>
    obtain ⟨part, rest, hafter⟩ := List.exists_cons_of_ne_nil (@splitAt_ne_nil c after)
    rw [List.nil_append, splitAt_cons hafter, if_pos (beq_self_eq_true c), hafter]
  | cons x before ih =>
    obtain ⟨hx, hbefore⟩ := List.ne_and_not_mem_of_not_mem_cons h
    exact splitAt_cons_of_ne (ih hbefore) hx

theorem splitAt_eq_pair :
    splitAt c cs = [before, after] ↔ cs = before ++ c :: after ∧ c ∉ before ∧ c ∉ after := by
  constructor
  · intro h
    by_cases hmem : c ∈ cs
    · obtain ⟨first, others, rfl, hfirst⟩ := List.eq_append_cons_of_mem hmem
      obtain ⟨rfl, hothers⟩ := List.cons.inj ((splitAt_append hfirst).symm.trans h)
      by_cases hmem : c ∈ others
      · obtain ⟨second, more, rfl, hsecond⟩ := List.eq_append_cons_of_mem hmem
        exact absurd (List.cons.inj ((splitAt_append hsecond).symm.trans hothers)).2 splitAt_ne_nil
      · obtain ⟨rfl, -⟩ := List.cons.inj ((splitAt_of_notMem hmem).symm.trans hothers)
        exact ⟨rfl, hfirst, hmem⟩
    · cases (splitAt_of_notMem hmem).symm.trans h
  · rintro ⟨rfl, hbefore, hafter⟩
    rw [splitAt_append hbefore, splitAt_of_notMem hafter]

theorem isEmail_iff (s : String) :
    isEmail s = true ↔ ∃ before after, s.toList = before ++ '@' :: after ∧ '@' ∉ before ∧ '@' ∉ after ∧
      Grammar.mailLocal.matchesFrom [] 0 before = true ∧ Grammar.HostIn after := by
  unfold isEmail
  split
  · next before after hsplit =>
    obtain ⟨heq, hbefore, hafter⟩ := splitAt_eq_pair.mp hsplit
    rw [Bool.and_eq_true, Grammar.hostname_matches_iff]
    constructor
    · rintro ⟨hlocal, hhost⟩
      exact ⟨before, after, heq, hbefore, hafter, hlocal, hhost⟩
    · rintro ⟨_, _, heq', hbefore', hafter', h⟩
      cases hsplit.symm.trans (splitAt_eq_pair.mpr ⟨heq', hbefore', hafter'⟩)
      exact h
  · next hsplit =>
    refine iff_of_false Bool.false_ne_true ?_
    rintro ⟨before, after, heq, hbefore, hafter, -⟩
    exact hsplit _ _ (splitAt_eq_pair.mpr ⟨heq, hbefore, hafter⟩)

/-- The formats that are searched for anywhere in a text: what a text needs for a host, for an address with
colons and, after its one sign, for mail. -/
theorem accepts_anywhere_iff (s : String) :
    (hostname.accepts s = true ↔ Grammar.HostIn s.toList) ∧
    (ipv6.accepts s = true ↔ ∃ w ∈ Grammar.ColonAddress, w <:+: s.toList) ∧
    (email.accepts s = true ↔ ∃ before after, s.toList = before ++ '@' :: after ∧ '@' ∉ before ∧ '@' ∉ after ∧
      Grammar.mailLocal.matchesFrom [] 0 before = true ∧ Grammar.HostIn after) :=
  ⟨Grammar.hostname_matches_iff _, Grammar.ipv6_matches_iff _, isEmail_iff s⟩

/-- A text without the line feed that ends it. -/
def chomp (cs : List Char) : List Char := if cs.getLast? = some '\n' then cs.dropLast else cs

set_option maxRecDepth 10000 in
/-- A blank or a letter beside what is enough of a host or of an address does not matter. -/
theorem accepts_strays :
    (hostname.accepts "a b" = true ∧
      ¬ ∀ x ∈ chomp "a b".toList, x.isAlphanum = true ∨ x = '-' ∨ x = '.') ∧
    (ipv6.accepts "x::" = true ∧
      ¬ ∀ x ∈ chomp "x::".toList, Grammar.IsHexDigit x ∨ isDecimalDigit x = true ∨ x = ':' ∨ x = '.') ∧
    (email.accepts "a@b c" = true ∧
      ¬ ∀ x ∈ chomp "b c".toList, x.isAlphanum = true ∨ x = '-' ∨ x = '.') := by
  refine ⟨⟨by cbv, by simp [chomp]⟩, ⟨by cbv, fun h => ?_⟩, (isEmail_iff "a@b c").mpr ?_, by simp [chomp]⟩
  · rcases h 'x' (by simp [chomp]) with h | h | h | h <;> revert h <;> decide +kernel
  · have hhost : Grammar.HostIn ['b', ' ', 'c'] :=
      ⟨['b', ' '], 'c', [], [], rfl, by decide, by decide, List.not_mem_nil, .inl rfl⟩
    exact ⟨['a'], ['b', ' ', 'c'], by simp, by decide, by decide, by decide +kernel, hhost⟩

end Format

end Rulebook
