import Rulebook.Proofs.Format.Hosts
import Rulebook.Proofs.Number.Numeral
import Rulebook.Proofs.Regex.Anchored

/-!
Numerals between bounds. A pattern can only say which digits may follow each other, so a bound on a number is
spelled as alternatives for its digits. Each such pattern spells exactly the rows of ASCII digits, of its lengths,
that denote a number within the bound. An address is four of these with dots between them, and nothing else is one.
-/

namespace Rulebook

open Regex

/-! ### Whole texts -/

/-- No text of the language is empty or ends with a line feed. -/
def EndsInLine (L : Language Char) : Prop := ∀ w ∈ L, ∃ u x, w = u ++ [x] ∧ x ≠ '\n'

namespace EndsInLine

variable {L M : Language Char}

theorem mul (hM : EndsInLine M) : EndsInLine (L * M) := by
  intro w hw
  obtain ⟨v, -, t, ht, rfl⟩ := Language.mem_mul.mp hw
  obtain ⟨u, x, rfl, hx⟩ := hM t ht
  exact ⟨v ++ u, x, (List.append_assoc ..).symm, hx⟩

theorem add (hL : EndsInLine L) (hM : EndsInLine M) : EndsInLine (L + M) := by
  rintro w (hw | hw)
  · exact hL w hw
  · exact hM w hw

end EndsInLine

theorem Format.chomp_mem_iff {L : Language Char} (hL : EndsInLine L) (cs : List Char) :
    chomp cs ∈ L ↔ ∃ w ∈ L, ∃ tail, cs = w ++ tail ∧ LastLineFeed tail := by
  constructor
  · intro h
    refine ⟨chomp cs, h, ?_⟩
    unfold chomp
    split
    · next hlast =>
      obtain ⟨u, rfl⟩ := List.getLast?_eq_some_iff.mp hlast
      exact ⟨['\n'], by rw [List.dropLast_concat], .inr rfl⟩
    · exact ⟨[], (List.append_nil cs).symm, .inl rfl⟩
  · rintro ⟨w, hw, tail, rfl, rfl | rfl⟩
    · obtain ⟨u, x, rfl, hx⟩ := hL w hw
      rwa [List.append_nil, chomp, List.getLast?_concat, if_neg fun h => hx (Option.some.inj h)]
    · rwa [chomp, if_pos List.getLast?_concat, List.dropLast_concat]

theorem Format.chomp_append {w tail : List Char} (hw : '\n' ∉ w) (htail : LastLineFeed tail) :
    chomp (w ++ tail) = w := by
  rcases htail with rfl | rfl
  · rw [List.append_nil, chomp, if_neg fun h => hw (List.mem_of_getLast? h)]
  · rw [chomp, if_pos List.getLast?_concat, List.dropLast_concat]

/-- What a match leaves of a text is what stands after a text of the language. -/
theorem Regex.Spells.exists_after_iff {r : Regex} {L : Language Char} (hr : r.Spells L) (c : Cursor)
    (rest : List Char) : (∃ d ∈ r.ends c, d.after = rest) ↔ ∃ w ∈ L, c.after = w ++ rest := by
  constructor
  · rintro ⟨d, hd, rfl⟩
    obtain ⟨w, hw, hpass⟩ := (hr c d).mp hd
    exact ⟨w, hw, hpass.after⟩
  · rintro ⟨w, hw, hafter⟩
    obtain ⟨d, hpass⟩ := Cursor.exists_passes_iff.mpr ⟨rest, hafter.symm⟩
    exact ⟨d, (hr c d).mpr ⟨w, hw, hpass⟩, List.append_cancel_left (hpass.after.symm.trans hafter)⟩

theorem Regex.spans_iff_exists_after (r : Regex) (cs : List Char) :
    r.Spans cs ↔ ∃ tail, LastLineFeed tail ∧ ∃ d ∈ r.ends (.start cs), d.after = tail := by
  constructor
  · rintro ⟨d, hd, hlast⟩
    exact ⟨d.after, hlast, d, hd, rfl⟩
  · rintro ⟨_, hlast, d, hd, rfl⟩
    exact ⟨d, hd, hlast⟩

/-- A pattern between the ends of a text matches when the text is of its language, a final line feed aside. -/
theorem Regex.Spells.entire_matches_iff {r : Regex} {L : Language Char} (hr : r.Spells L) (hL : EndsInLine L)
    (cs : List Char) : (entire r).matchesFrom [] 0 cs = true ↔ Format.chomp cs ∈ L := by
  rw [Regex.entire_matches_iff, spans_iff_exists_after, Format.chomp_mem_iff hL]
  simp only [hr.exists_after_iff]
  constructor
  · rintro ⟨tail, hlast, w, hw, heq⟩
    exact ⟨w, hw, tail, heq, hlast⟩
  · rintro ⟨w, hw, tail, heq, hlast⟩
    exact ⟨tail, hlast, w, hw, heq⟩

theorem Language.mem_sum_map {α : Type} {L : α → Language Char} {as : List α} {w : List Char} :
    w ∈ (as.map L).sum ↔ ∃ a ∈ as, w ∈ L a := by
  induction as with
  | nil => simp [Language.notMem_zero]
  | cons a as ih => rw [List.map_cons, List.sum_cons, Language.mem_add, ih, List.exists_mem_cons_iff]

theorem Regex.spells_firstOf {α : Type} {f : α → Regex} {L : α → Language Char} (h : ∀ a, Spells (f a) (L a))
    (a : α) (as : List α) : Spells (firstOf ((a :: as).map f)) ((a :: as).map L).sum := by
  induction as generalizing a with
  | nil =>
    rw [List.map_singleton, List.map_singleton, List.sum_singleton]
    exact h a
  | cons b as ih => exact (h a).alt (ih b)

namespace Grammar

/-! ### Rows of digits -/

/-- The rows of ASCII digits of some lengths that denote some numbers. -/
def Numeral (lengths values : Set Nat) : Language Char :=
  {w | w.length ∈ lengths ∧ (∀ x ∈ w, x.isDigit = true) ∧ Nat.ofDigitChars 10 w 0 ∈ values}

variable {lengths values : Set Nat}

theorem mem_numeral {w : List Char} : w ∈ Numeral lengths values ↔
    w.length ∈ lengths ∧ (∀ x ∈ w, x.isDigit = true) ∧ Nat.ofDigitChars 10 w 0 ∈ values :=
  Iff.rfl

theorem isDigit_iff {x : Char} : x.isDigit = true ↔ 48 ≤ x.toNat ∧ x.toNat ≤ 57 := by
  simp [Char.isDigit, UInt32.le_iff_toNat_le]

theorem endsInLine_numeral (hlengths : 0 ∉ lengths) : EndsInLine (Numeral lengths values) := by
  intro w hw
  obtain ⟨hlength, hdigits, -⟩ := mem_numeral.mp hw
  rcases List.eq_nil_or_concat w with rfl | ⟨u, x, rfl⟩
  · exact absurd hlength hlengths
  · refine ⟨u, x, List.concat_eq_append, ?_⟩
    rintro rfl
    exact absurd (hdigits '\n' (by simp)) (by decide)

theorem contains_between_iff {low high x : Char} :
    (CharSet.between low high).contains x = true ↔ low.toNat ≤ x.toNat ∧ x.toNat ≤ high.toNat := by
  rw [CharSet.contains_between, Char.le_def, Char.le_def, UInt32.le_iff_toNat_le, UInt32.le_iff_toNat_le]
  rfl

theorem contains_char_iff {c x : Char} : (CharSet.char c).contains x = true ↔ x.toNat = c.toNat := by
  rw [CharSet.contains_char, Char.toNat_inj]

theorem contains_oneOf_iff {singles : String} {x : Char} :
    (CharSet.ofRanges [] singles).contains x = true ↔ ∃ c ∈ singles.toList, x.toNat = c.toNat := by
  simp [CharSet.contains_ofRanges, Char.toNat_inj]

theorem spells_row (s : CharSet) : Spells (oneOrMore (.one s)) (repeated 1 none s.language) :=
  (spells_one s).loop CharSet.nil_notMem_language (by decide) rfl

/-- A run of digits with at least one. -/
theorem spells_digits : Spells (oneOrMore digit) (Numeral (Set.Ici 1) Set.univ) := by
  have h : Spells (oneOrMore digit) _ := spells_row (.between '0' '9')
  convert h using 1
  ext w
  rw [CharSet.mem_repeated_language, mem_numeral]
  simp [contains_between_iff, isDigit_iff]

/-! ### Two digits -/

/-- A character of one set and then one of another. -/
def pair (p : CharSet × CharSet) : Regex := .seq (.one p.1) (.one p.2)

theorem mem_twoDigits {w : List Char} : w ∈ Numeral {2} values ↔ ∃ x y, w = [x, y] ∧
    (x.isDigit = true ∧ y.isDigit = true) ∧ 10 * (x.toNat - 48) + (y.toNat - 48) ∈ values := by
  have hvalue (x y : Char) : Nat.ofDigitChars 10 [x, y] 0 = 10 * (x.toNat - 48) + (y.toNat - 48) := by
    simp [Nat.ofDigitChars_cons]
  rw [mem_numeral, Set.mem_singleton_iff, List.length_eq_two]
  constructor
  · rintro ⟨⟨x, y, rfl⟩, hdigits, hmem⟩
    exact ⟨x, y, rfl, by simpa using hdigits, hvalue x y ▸ hmem⟩
  · rintro ⟨x, y, rfl, hdigits, hmem⟩
    exact ⟨⟨x, y, rfl⟩, by simpa using hdigits, (hvalue x y).symm ▸ hmem⟩

/-- Alternatives for two digits spell the numbers that their digits make up. -/
theorem spells_twoDigits (p : CharSet × CharSet) (ps : List (CharSet × CharSet))
    (h : ∀ x y : Char, (∃ q ∈ p :: ps, q.1.contains x = true ∧ q.2.contains y = true) ↔
      (x.isDigit = true ∧ y.isDigit = true) ∧ 10 * (x.toNat - 48) + (y.toNat - 48) ∈ values) :
    Spells (firstOf ((p :: ps).map pair)) (Numeral {2} values) := by
  have hpair (q : CharSet × CharSet) : Spells (pair q) (q.1.language * q.2.language) :=
    (spells_one q.1).seq (spells_one q.2)
  convert spells_firstOf hpair p ps using 1
  ext w
  rw [mem_twoDigits, Language.mem_sum_map]
  simp only [← h]
  constructor
  · rintro ⟨x, y, rfl, q, hq, hx, hy⟩
    exact ⟨q, hq, CharSet.mem_language_mul.mpr ⟨x, [y], hx, ⟨y, hy, rfl⟩, rfl⟩⟩
  · rintro ⟨q, hq, hw⟩
    obtain ⟨x, _, hx, ⟨y, hy, rfl⟩, rfl⟩ := CharSet.mem_language_mul.mp hw
    exact ⟨x, y, rfl, q, hq, hx, hy⟩

/-! ### Numbers up to 255 -/

/-- A field of an address: one to three digits, with zeros before them or not. -/
abbrev Field : Language Char := Numeral (Set.Icc 1 3) (Set.Iic 255)

theorem spells_octet : Spells octet Field := by
  have hdigit : Spells digit _ := spells_one (.between '0' '9')
  have h : Spells octet _ :=
    (((spells_one (.char '2')).seq (spells_one (.char '5'))).seq (spells_one (.between '0' '5'))).alt
      (((spells_one (.char '2')).seq ((spells_one (.between '0' '4')).seq hdigit)).alt
        (((spells_one (.ofRanges [] "01")).optional CharSet.nil_notMem_language).seq
          (hdigit.seq (hdigit.optional CharSet.nil_notMem_language))))
  convert h using 1
  ext w
  simp only [add_mul, mul_add, mul_one, one_mul, mul_assoc, Language.mem_add, CharSet.mem_language_mul,
    CharSet.mem_language, contains_char_iff, contains_between_iff, contains_oneOf_iff, mem_numeral]
  match w with
  | [] => simp
  | [x] =>
    simp [isDigit_iff, Nat.ofDigitChars_cons]
    omega
  | [x, y] =>
    simp [isDigit_iff, Nat.ofDigitChars_cons]
    omega
  | [x, y, z] =>
    simp [isDigit_iff, Nat.ofDigitChars_cons]
    omega
  | _ :: _ :: _ :: _ :: _ => simp

/-! ### Fields with dots between them -/

/-- Texts of a language with a separator between them. -/
theorem mem_separated_iff {L : Language Char} {sep : List Char} {n : Nat} {w : List Char} :
    w ∈ (L * {sep}) ^ n * L ↔
      ∃ fields : List (List Char), fields.length = n + 1 ∧ (∀ f ∈ fields, f ∈ L) ∧ w = sep.intercalate fields := by
  induction n generalizing w with
  | zero =>
    rw [pow_zero, one_mul]
    constructor
    · intro hw
      exact ⟨[w], rfl, by simpa using hw, by simp⟩
    · rintro ⟨fields, hlength, hall, rfl⟩
      obtain ⟨f, rfl⟩ := List.length_eq_one_iff.mp hlength
      simpa using hall f
  | succ n ih =>
    rw [pow_succ', mul_assoc, mul_assoc, Language.mem_mul]
    simp only [mem_singleton_mul, ih]
    constructor
    · rintro ⟨f, hf, _, ⟨_, ⟨fields, hlength, hall, rfl⟩, rfl⟩, rfl⟩
      refine ⟨f :: fields, congrArg (· + 1) hlength, List.forall_mem_cons.mpr ⟨hf, hall⟩, ?_⟩
      obtain ⟨g, rest, rfl⟩ := List.exists_cons_of_length_eq_add_one hlength
      rw [List.intercalate_cons_cons, List.append_assoc]
    · rintro ⟨fields, hlength, hall, rfl⟩
      obtain ⟨f, rest, rfl⟩ := List.exists_cons_of_length_eq_add_one hlength
      obtain ⟨g, rest, rfl⟩ := List.exists_cons_of_length_eq_add_one (Nat.succ.inj hlength)
      obtain ⟨hf, hrest⟩ := List.forall_mem_cons.mp hall
      refine ⟨f, hf, _, ⟨_, ⟨g :: rest, Nat.succ.inj hlength, hrest, rfl⟩, rfl⟩, ?_⟩
      rw [List.intercalate_cons_cons, List.append_assoc]

theorem ipv4_matches_iff (cs : List Char) : ipv4.matchesFrom [] 0 cs = true ↔
    Format.chomp cs ∈ (Field * {['.']}) ^ 3 * Field := by
  have hnil : [] ∉ Field * {['.']} := nil_notMem_mul fun h => by cases h
  have hdotted : Spells (.seq (exactly 3 (.seq octet (text "."))) octet) ((Field * {['.']}) ^ 3 * Field) :=
    ((spells_octet.seq (spells_text ".")).exactly hnil 3).seq spells_octet
  exact hdotted.entire_matches_iff (endsInLine_numeral (by simp)).mul cs

end Grammar

/-- An address is four fields of one to three digits with dots between them, each denoting a number up to 255. -/
theorem Format.check?_ipv4_iff (s : String) : check? "ipv4" s = some true ↔
    ∃ fields : List (List Char), fields.length = 4 ∧
      (∀ f ∈ fields, f.length ∈ Set.Icc 1 3 ∧ (∀ x ∈ f, x.isDigit = true) ∧ Nat.ofDigitChars 10 f 0 ≤ 255) ∧
      chomp s.toList = ['.'].intercalate fields := by
  have hcheck : check? "ipv4" s = some (Grammar.ipv4.matchesFrom [] 0 s.toList) := rfl
  rw [hcheck, Option.some.injEq, Grammar.ipv4_matches_iff, Grammar.mem_separated_iff]
  rfl

end Rulebook
