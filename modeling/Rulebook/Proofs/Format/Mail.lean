import Rulebook.Proofs.Format.Numerals
import Rulebook.Rule.Keyword

/-!
Mail in one pattern and in two. The pattern of a whole address looks ahead for its size and for the size of the
part before the sign, and then takes words, the sign and labels. What it accepts is an address by the other rule
too, which splits a text at its one sign: the words are words there as well, and a label is more than enough of a
host.
-/

namespace Rulebook

open Regex

namespace Grammar

variable {L M : Language Char} {w : List Char}

/-! ### Texts with dots between them -/

/-- One or more texts of a language with dots between them. -/
def Dotted (L : Language Char) : Language Char :=
  {w | ∃ fields : List (List Char), fields ≠ [] ∧ (∀ f ∈ fields, f ∈ L) ∧ w = ['.'].intercalate fields}

theorem mul_repeated_dot (L : Language Char) : L * repeated 0 none ({['.']} * L) = Dotted L := by
  ext w
  have hcount (n : Nat) : w ∈ L * ({['.']} * L) ^ n ↔ ∃ fields : List (List Char), fields.length = n + 1 ∧
      (∀ f ∈ fields, f ∈ L) ∧ w = ['.'].intercalate fields := by
    rw [← mul_pow_mul, mem_separated_iff]
  constructor
  · intro hw
    obtain ⟨u, hu, v, ⟨n, -, -, hv⟩, rfl⟩ := Language.mem_mul.mp hw
    obtain ⟨fields, hlength, h⟩ := (hcount n).mp (Language.append_mem_mul hu hv)
    refine ⟨fields, ?_, h⟩
    rintro rfl
    cases hlength
  · rintro ⟨fields, hne, h⟩
    obtain ⟨n, hn⟩ := Nat.exists_eq_succ_of_ne_zero fun h => hne (List.length_eq_zero_iff.mp h)
    obtain ⟨u, hu, v, hv, rfl⟩ := Language.mem_mul.mp ((hcount n).mpr ⟨fields, hn, h⟩)
    exact Language.append_mem_mul hu ⟨n, Nat.zero_le n, rfl, hv⟩

theorem dotted_mono (h : ∀ f ∈ L, f ∈ M) (hw : w ∈ Dotted L) : w ∈ Dotted M := by
  obtain ⟨fields, hne, hall, rfl⟩ := hw
  exact ⟨fields, hne, fun f hf => h f (hall f hf), rfl⟩

/-- A text with dots begins with one of the texts between them. -/
theorem prefix_of_dotted (hw : w ∈ Dotted L) : ∃ f ∈ L, f <+: w := by
  obtain ⟨fields, hne, hall, rfl⟩ := hw
  match fields with
  | [] => exact absurd rfl hne
  | [f] => exact ⟨f, hall f List.mem_cons_self, by simp⟩
  | f :: g :: rest =>
    refine ⟨f, hall f List.mem_cons_self, ?_⟩
    rw [List.intercalate_cons_cons, List.append_assoc]
    exact List.prefix_append _ _

theorem notMem_dotted {x : Char} (hx : x ≠ '.') (hL : ∀ f ∈ L, x ∉ f) (hw : w ∈ Dotted L) : x ∉ w := by
  obtain ⟨fields, -, hall, rfl⟩ := hw
  induction fields with
  | nil => simp
  | cons f rest ih =>
    obtain ⟨hf, hrest⟩ := List.forall_mem_cons.mp hall
    cases rest with
    | nil => simpa using hL f hf
    | cons g rest =>
      rw [List.intercalate_cons_cons]
      simp only [List.mem_append, List.mem_singleton, not_or]
      exact ⟨⟨hL f hf, hx⟩, ih hrest⟩

/-! ### Words before the sign -/

/-- A letter, a digit or a sign that a word may hold. -/
def IsWordChar (x : Char) : Prop := x.isAlphanum = true ∨ x ∈ localSigns.toList

def Word : Language Char := {w | w ≠ [] ∧ ∀ x ∈ w, IsWordChar x}

theorem contains_alphanumeric_and {singles : String} {x : Char} :
    (CharSet.ofRanges [('0', '9'), ('A', 'Z'), ('a', 'z')] singles).contains x = true ↔
      x.isAlphanum = true ∨ x ∈ singles.toList := by
  rw [← contains_alphanumeric, alphanumeric, CharSet.contains_ofRanges, CharSet.contains_ofRanges]
  simp

theorem mem_repeated_one {s : CharSet} :
    w ∈ repeated 1 none s.language ↔ w ≠ [] ∧ ∀ x ∈ w, s.contains x = true := by
  rw [CharSet.mem_repeated_language, ← List.length_pos_iff]
  simp [Nat.succ_le_iff]

theorem spells_mailWord : Spells mailWord Word := by
  have h : Spells mailWord _ := spells_row (.ofRanges [('0', '9'), ('A', 'Z'), ('a', 'z')] localSigns)
  convert h using 1
  ext w
  rw [mem_repeated_one]
  simp only [contains_alphanumeric_and]
  exact Iff.rfl

theorem toNat_lt_of_isWordChar {x : Char} (hx : IsWordChar x) : x.toNat < 128 := by
  rcases hx with hx | hx
  · rw [← contains_alphanumeric] at hx
    simp [alphanumeric, CharSet.contains_ofRanges, Char.le_def, UInt32.le_iff_toNat_le] at hx
    omega
  · have hascii : localSigns.toList.all (·.toNat < 128) = true := by decide +kernel
    exact of_decide_eq_true (List.all_eq_true.mp hascii x hx)

/-- Letter case aside, the words of a local part have the same characters. -/
theorem contains_folded {x : Char} (hx : IsWordChar x) :
    (foldedRanges [(0x61, 0x7A), (0x30, 0x39)] localSigns).contains x = true := by
  have hascii : ∀ n < 128,
      (CharSet.ofRanges [('0', '9'), ('A', 'Z'), ('a', 'z')] localSigns).contains (Char.ofNat n) = true →
      (foldedRanges [(0x61, 0x7A), (0x30, 0x39)] localSigns).contains (Char.ofNat n) = true := by
    decide +kernel
  have h := hascii x.toNat (toNat_lt_of_isWordChar hx)
  rw [Char.ofNat_toNat] at h
  exact h (contains_alphanumeric_and.mpr hx)

/-- Words with dots between them are a local part. -/
theorem mailLocal_matches (hw : w ∈ Dotted Word) : mailLocal.matchesFrom [] 0 w = true := by
  let atoms := repeated 1 none (foldedRanges [(0x61, 0x7A), (0x30, 0x39)] localSigns).language
  have hatom : Spells localAtom atoms := spells_row _
  have hatoms : Spells (.seq localAtom (many (.seq (text ".") localAtom))) (Dotted atoms) := by
    rw [← mul_repeated_dot]
    exact hatom.seq (((spells_text ".").seq hatom).loop nil_notMem_singleton_mul (by decide) rfl)
  have hmem : w ∈ Dotted atoms := dotted_mono (fun f hf =>
    mem_repeated_one.mpr ⟨hf.1, fun x hx => contains_folded (hf.2 x hx)⟩) hw
  obtain ⟨d, hpass⟩ := (Cursor.exists_passes_iff (c := .start w)).mpr List.prefix_rfl
  have hafter : [] = d.after := List.append_cancel_left ((List.append_nil w).trans hpass.after)
  rw [mailLocal, Regex.entire_matches_iff]
  exact ⟨d, List.mem_append_left _ ((hatoms _ d).mpr ⟨w, hmem, hpass⟩), .inl hafter.symm⟩

/-! ### Labels after the sign -/

/-- At most 63 letters, digits and hyphens, the first and the last no hyphen. -/
def Label : Language Char :=
  {w | w.length ≤ 63 ∧ (∀ x ∈ w, x.isAlphanum = true ∨ x = '-') ∧
    (∃ x rest, w = x :: rest ∧ x.isAlphanum = true) ∧ ∃ rest x, w = rest ++ [x] ∧ x.isAlphanum = true}

theorem spells_mailLabel : Spells mailLabel Label := by
  have hinner : Spells (times 0 61 (.one (.ofRanges [('0', '9'), ('A', 'Z'), ('a', 'z')] "-"))) _ :=
    (spells_one _).loop CharSet.nil_notMem_language (by decide) rfl
  have hmore : [] ∉ repeated 0 (some 61) (CharSet.ofRanges [('0', '9'), ('A', 'Z'), ('a', 'z')] "-").language *
      alphanumeric.language := nil_notMem_mul CharSet.nil_notMem_language
  have h : Spells mailLabel _ :=
    (spells_one alphanumeric).seq ((hinner.seq (spells_one alphanumeric)).optional hmore)
  convert h using 1
  ext w
  rw [CharSet.mem_language_mul]
  simp only [Language.mem_add, Language.mem_one, Language.mem_mul, CharSet.mem_repeated_language,
    CharSet.mem_language, contains_alphanumeric, contains_alphanumeric_and]
  constructor
  · rintro ⟨hlength, hall, ⟨x, v, rfl, hx⟩, rest, y, hlast, hy⟩
    refine ⟨x, v, hx, ?_, rfl⟩
    rcases List.eq_nil_or_concat v with rfl | ⟨u, z, rfl⟩
    · exact .inl rfl
    · rw [List.concat_eq_append] at hlength hall hlast ⊢
      have hlast : (x :: u) ++ [z] = rest ++ [y] := hlast
      obtain ⟨-, hz⟩ := List.append_inj' hlast rfl
      obtain rfl := List.singleton_inj.mp hz
      have hsize : u.length ≤ 61 := by
        simp only [List.length_cons, List.length_append, List.length_nil] at hlength
        omega
      refine .inr ⟨u, ⟨Nat.zero_le _, decide_eq_true hsize, fun c hc => ?_⟩, [z], ⟨z, hy, rfl⟩, rfl⟩
      simpa using hall c (by simp [hc])
  · rintro ⟨x, v, hx, rfl | ⟨u, ⟨-, hlength, hall⟩, _, ⟨y, hy, rfl⟩, rfl⟩, rfl⟩
    · exact ⟨by simp, by simp [hx], ⟨x, [], rfl, hx⟩, [], x, rfl, hx⟩
    · have hsize : u.length ≤ 61 := of_decide_eq_true hlength
      refine ⟨?_, ?_, ⟨x, _, rfl, hx⟩, x :: u, y, rfl, hy⟩
      · simp only [List.length_cons, List.length_append, List.length_nil]
        omega
      simp only [List.mem_cons, List.mem_append, List.not_mem_nil, or_false]
      rintro c (rfl | hc | rfl)
      · exact .inl hx
      · simpa using hall c hc
      · exact .inl hy

/-! ### Whole addresses -/

/-- Words before a sign and labels after it. -/
structure AreParts (before after : List Char) : Prop where
  words : before ∈ Dotted Word
  labels : after ∈ Dotted Label

/-- Words, a sign and labels, of at most 64 characters before the sign and at most 254 in all. -/
def Address : Language Char :=
  {w | ∃ before after, w = before ++ '@' :: after ∧ AreParts before after ∧ before.length ≤ 64 ∧ w.length ≤ 254}

theorem notMem_words {x : Char} (hdot : x ≠ '.') (hx : ¬ IsWordChar x) (hw : w ∈ Dotted Word) : x ∉ w :=
  notMem_dotted hdot (fun _ hf hmem => hx (hf.2 x hmem)) hw

theorem notMem_labels {x : Char} (hdot : x ≠ '.') (hx : ¬ (x.isAlphanum = true ∨ x = '-')) (hw : w ∈ Dotted Label) :
    x ∉ w :=
  notMem_dotted hdot (fun _ hf hmem => hx (hf.2.1 x hmem)) hw

theorem not_isWordChar {x : Char} (hx : x = '@' ∨ x = '\n') : ¬ IsWordChar x := by
  have hsigns : localSigns.toList.all (fun c => c != '@' && c != '\n') = true := by decide +kernel
  rintro (h | h)
  · rcases hx with rfl | rfl <;> revert h <;> decide
  · have hne := List.all_eq_true.mp hsigns x h
    rcases hx with rfl | rfl <;> simp at hne

namespace AreParts

variable {before after : List Char} (h : AreParts before after)

include h

theorem sign_notMem_before : '@' ∉ before := notMem_words (by decide) (not_isWordChar (.inl rfl)) h.words

theorem sign_notMem_after : '@' ∉ after := notMem_labels (by decide) (by decide) h.labels

theorem feed_notMem_before : '\n' ∉ before := notMem_words (by decide) (not_isWordChar (.inr rfl)) h.words

theorem feed_notMem_after : '\n' ∉ after := notMem_labels (by decide) (by decide) h.labels

theorem before_ne_nil : before ≠ [] := by
  obtain ⟨f, hf, hprefix⟩ := prefix_of_dotted h.words
  exact fun hnil => hf.1 (List.prefix_nil.mp (hnil ▸ hprefix))

theorem feed_notMem : '\n' ∉ before ++ '@' :: after := by
  simpa using ⟨h.feed_notMem_before, h.feed_notMem_after⟩

/-- After the sign comes a letter or a digit. -/
theorem exists_cons_after : ∃ x rest, after = x :: rest ∧ x.isAlphanum = true := by
  obtain ⟨_, ⟨-, -, ⟨x, rest, rfl, hx⟩, -⟩, more, rfl⟩ := prefix_of_dotted h.labels
  exact ⟨x, rest ++ more, rfl, hx⟩

end AreParts

theorem endsInLine_address : EndsInLine Address := by
  rintro _ ⟨before, after, rfl, h, -⟩
  rcases List.eq_nil_or_concat (before ++ '@' :: after) with hnil | ⟨u, x, heq⟩
  · simp at hnil
  · rw [List.concat_eq_append] at heq
    refine ⟨u, x, heq, ?_⟩
    rintro rfl
    exact h.feed_notMem (heq ▸ by simp)

/-! ### Looking ahead -/

/-- What a look ahead leaves is as if it were not there. -/
theorem exists_after_ahead_iff {r s : Regex} {rest : List Char} {P : List Char → Prop}
    (hs : ∀ c, (∃ d ∈ s.ends c, d.after = rest) ↔ P c.after) (c : Cursor) :
    (∃ d ∈ (Regex.seq (.ahead false r) s).ends c, d.after = rest) ↔ r.ends c ≠ [] ∧ P c.after := by
  rw [ends, ends]
  cases r.ends c with
  | nil => simp
  | cons e es =>
    have h : (∃ d ∈ s.ends (c.withGroups e), d.after = rest) ↔ P c.after := hs (c.withGroups e)
    simpa using h

theorem size_ahead_iff {tail : List Char} {most : Nat} (hw : w ≠ []) (hfree : '\n' ∉ w) (hlast : LastLineFeed tail) :
    (∃ line tail', w ++ tail = line ++ tail' ∧ 1 ≤ line.length ∧ line.length ≤ most ∧ '\n' ∉ line ∧
      LastLineFeed tail') ↔ w.length ≤ most := by
  constructor
  · rintro ⟨line, tail', heq, -, hmost, hline, htail⟩
    rwa [← Format.chomp_append hfree hlast, heq, Format.chomp_append hline htail]
  · intro h
    exact ⟨w, tail, rfl, List.length_pos_iff.mpr hw, h, hfree, hlast⟩

/-- The sign that is looked for ahead can only be the one between the parts. -/
theorem AreParts.sign_ahead_iff {before after tail : List Char} (h : AreParts before after)
    (hlast : LastLineFeed tail) :
    (∃ u ∈ repeated 1 (some 64) (CharSet.anything false).language * {['@']}, u <+: before ++ '@' :: after ++ tail) ↔
      before.length ≤ 64 := by
  constructor
  · rintro ⟨_, hmem, more, heq⟩
    obtain ⟨u, hu, _, rfl, rfl⟩ := Language.mem_mul.mp hmem
    have hrest : '@' ∉ after ++ tail := by
      rcases hlast with rfl | rfl <;> simpa using h.sign_notMem_after
    have heq : before ++ '@' :: (after ++ tail) = u ++ '@' :: more := by simpa using heq.symm
    obtain ⟨rfl, -, -⟩ := (List.append_cons_inj_of_notMem h.sign_notMem_before hrest).mp heq
    obtain ⟨-, hmost, -⟩ := CharSet.mem_repeated_language.mp hu
    exact of_decide_eq_true hmost
  · intro hsize
    have hmem : before ∈ repeated 1 (some 64) (CharSet.anything false).language := by
      refine CharSet.mem_repeated_language.mpr
        ⟨List.length_pos_iff.mpr h.before_ne_nil, decide_eq_true hsize, fun x hx => ?_⟩
      rw [CharSet.contains_anything]
      rintro rfl
      exact h.feed_notMem_before hx
    exact ⟨before ++ ['@'], Language.append_mem_mul hmem rfl, after ++ tail, by simp⟩

theorem spells_parts : Spells (inTurn [mailWord, many (.seq (text ".") mailWord), text "@", mailLabel,
    many (.seq (text ".") mailLabel)]) (Dotted Word * ({['@']} * Dotted Label)) := by
  rw [← mul_repeated_dot, ← mul_repeated_dot, mul_assoc]
  have hmore {r : Regex} {L : Language Char} (hr : Spells r L) :
      Spells (many (.seq (text ".") r)) (repeated 0 none ({['.']} * L)) :=
    ((spells_text ".").seq hr).loop nil_notMem_singleton_mul (by decide) rfl
  exact spells_mailWord.seq ((hmore spells_mailWord).seq
    ((spells_text "@").seq (spells_mailLabel.seq (hmore spells_mailLabel))))

/-- Both looks ahead are from the start of the text. -/
theorem exists_after_address_iff (cs tail : List Char) :
    (∃ d ∈ (inTurn [sizeAhead 1 254, .ahead false (.seq (times 1 64 (.one (.anything false))) (text "@")), mailWord,
        many (.seq (text ".") mailWord), text "@", mailLabel, many (.seq (text ".") mailLabel)]).ends (.start cs),
        d.after = tail) ↔
      (∃ line tail', cs = line ++ tail' ∧ 1 ≤ line.length ∧ line.length ≤ 254 ∧ '\n' ∉ line ∧ LastLineFeed tail') ∧
      (∃ u ∈ repeated 1 (some 64) (CharSet.anything false).language * {['@']}, u <+: cs) ∧
      ∃ w ∈ Dotted Word * ({['@']} * Dotted Label), cs = w ++ tail := by
  have hsign : Spells (.seq (times 1 64 (.one (.anything false))) (text "@"))
      (repeated 1 (some 64) (CharSet.anything false).language * {['@']}) :=
    ((spells_one _).loop CharSet.nil_notMem_language (by decide) rfl).seq (spells_text "@")
  have hsize : 1 ≤ 254 := by decide
  refine Iff.trans ?_ (and_congr_left' (ends_lineAhead_iff hsize (.start cs)))
  refine exists_after_ahead_iff (P := fun cs =>
    (∃ u ∈ repeated 1 (some 64) (CharSet.anything false).language * {['@']}, u <+: cs) ∧
      ∃ w ∈ Dotted Word * ({['@']} * Dotted Label), cs = w ++ tail) (fun c => ?_) (.start cs)
  rw [← hsign.ends_ne_nil_iff c]
  exact exists_after_ahead_iff (P := fun cs => ∃ w ∈ Dotted Word * ({['@']} * Dotted Label), cs = w ++ tail)
    (fun d => spells_parts.exists_after_iff d tail) c

/-- The pattern of a whole address accepts the addresses, a final line feed aside. -/
theorem mailAddress_matches_iff (cs : List Char) :
    mailAddress.matchesFrom [] 0 cs = true ↔ Format.chomp cs ∈ Address := by
  rw [mailAddress, Regex.entire_matches_iff, spans_iff_exists_after, Format.chomp_mem_iff endsInLine_address]
  simp only [exists_after_address_iff]
  constructor
  · rintro ⟨tail, hlast, hsize, hsign, w, hw, rfl⟩
    obtain ⟨before, hbefore, _, hsigned, rfl⟩ := Language.mem_mul.mp hw
    obtain ⟨after, hafter, rfl⟩ := mem_singleton_mul.mp hsigned
    have h : AreParts before after := ⟨hbefore, hafter⟩
    refine ⟨_, ⟨before, after, rfl, h, ?_, (size_ahead_iff (by simp) h.feed_notMem hlast).mp hsize⟩, tail, rfl, hlast⟩
    exact (h.sign_ahead_iff hlast).mp (by simpa using hsign)
  · rintro ⟨_, ⟨before, after, rfl, h, hbefore, hsize⟩, tail, rfl, hlast⟩
    refine ⟨tail, hlast, (size_ahead_iff (by simp) h.feed_notMem hlast).mpr hsize, ?_, before ++ '@' :: after,
      Language.append_mem_mul h.words (mem_singleton_mul.mpr ⟨after, h.labels, rfl⟩), rfl⟩
    exact (h.sign_ahead_iff hlast).mpr hbefore

end Grammar

/-! ### One pattern and two -/

/-- An address in one pattern is one by its two parts: its first label begins with enough of a host. -/
theorem Format.isEmail_of_isPlainEmail {s : String} (h : isPlainEmail s = true) : isEmail s = true := by
  have hmem := (Grammar.mailAddress_matches_iff s.toList).mp h
  obtain ⟨_, ⟨before, after, rfl, hparts, -, hsize⟩, tail, heq, hlast⟩ :=
    (chomp_mem_iff Grammar.endsInLine_address _).mp hmem
  obtain ⟨x, rest, rfl, hx⟩ := hparts.exists_cons_after
  have hsign : '@' ∉ x :: (rest ++ tail) := by
    have hafter := hparts.sign_notMem_after
    rcases hlast with rfl | rfl <;> simpa using hafter
  have hlength : rest.length < 255 := by
    simp only [List.length_append, List.length_cons] at hsize
    omega
  have hfree : '\n' ∉ rest := fun hfeed => hparts.feed_notMem_after (List.mem_cons_of_mem x hfeed)
  rw [isEmail_iff]
  exact ⟨before, x :: (rest ++ tail), by simpa using heq, hparts.sign_notMem_before, hsign,
    Grammar.mailLocal_matches hparts.words, [], x, rest, tail, rfl, hx, hlength, hfree, hlast⟩

theorem Fixed.check_email_iff {s : String} {invert : Bool} :
    Fixed.email.check (.text s) invert = .ret .pass ↔ s = "" ∨ Format.isPlainEmail s = true := by
  by_cases hs : s = ""
  · subst hs
    exact iff_of_true rfl (.inl rfl)
  have hempty : (Value.text s).isEmpty = false := by simpa [Value.isEmpty] using hs
  have hcheck : Fixed.email.check (.text s) invert =
      .ret (if Format.isPlainEmail s then .pass else .fail [("email", .bool true)]) := by
    rw [Fixed.check, hempty]
    rfl
  rw [hcheck, or_iff_right hs]
  cases Format.isPlainEmail s with
  | true => exact iff_of_true rfl rfl
  | false => exact iff_of_false (fun h => by cases h) Bool.false_ne_true

theorem Leaf.check_format_email {s : String} (h : s = "" ∨ Format.isEmail s = true) :
    (Rule.leaf (.format (.text "email"))).check (.text s) false = .ret .pass := by
  rcases h with rfl | h
  · rfl
  by_cases hs : s = ""
  · subst hs
    rfl
  have hskips : (Leaf.format (.text "email")).skips (.text s) = false := by
    simpa [Leaf.skips, Value.isEmpty] using hs
  have hholds : Leaf.formatHolds (.text "email") s = .ret true := by
    rw [← h]
    rfl
  rw [Rule.check, Leaf.check, hskips]
  show (Leaf.formatHolds (.text "email") s >>= fun ok => pure ((Leaf.format _).finish _ ok false)) = _
  rw [hholds]
  rfl

/-- Each text that the rule for mail in one pattern accepts is accepted by the rule for the format of mail. -/
theorem Keyword.format_accepts_mail (s : String) (h : Fixed.email.check (.text s) false = .ret .pass) :
    ∃ r, Keyword.format.make false (.text "email") = .ret r ∧ r.check (.text s) false = .ret .pass := by
  refine ⟨_, rfl, Leaf.check_format_email ?_⟩
  exact (Fixed.check_email_iff.mp h).imp_right Format.isEmail_of_isPlainEmail

/-- Dots and signs before the sign, a hyphen after it, and a line feed at the end. -/
theorem Keyword.format_accepts_mail_line :
    let s := "first.o'last+tag@sub-1.example.org\n"
    Fixed.email.check (.text s) false = .ret .pass ∧
      ∃ r, Keyword.format.make false (.text "email") = .ret r ∧ r.check (.text s) false = .ret .pass := by
  intro s
  have haccepts : Fixed.email.check (.text s) false = .ret .pass :=
    Fixed.check_email_iff.mpr (.inr (by decide +kernel))
  exact ⟨haccepts, format_accepts_mail s haccepts⟩

end Rulebook
