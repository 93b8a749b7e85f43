import Rulebook.Json.Printer
import Rulebook.Json.Reader
import Rulebook.Proofs.Number.Numeral
import Rulebook.Proofs.Value.Keyed

/-!
The tokens of a document. The digits of an integer are read as that integer, unless what follows goes on with
the number. A text is read back character by character: a character is written as itself, as a letter after a
backslash, or by its code in one or two units.
-/

namespace Rulebook.Json

/-! ## Numbers -/

/-- What follows a number does not go on with it. -/
def Ends (rest : List Char) : Prop :=
  ∀ c ∈ rest.head?, c.isDigit = false ∧ c ≠ '.' ∧ c ≠ 'e' ∧ c ≠ 'E'

theorem takeDigits_append {ds rest : List Char} (digits : ∀ c ∈ ds, c.isDigit = true)
    (ends : Ends rest) :
    takeDigits (ds ++ rest) = (ds, rest) := by
  have hrest : rest.takeWhile Char.isDigit = [] ∧ rest.dropWhile Char.isDigit = rest := by
    cases rest with
    | nil => exact ⟨rfl, rfl⟩
    | cons c rest =>
      have hc := (ends c rfl).1
      simp [hc]
  rw [takeDigits, List.span_eq_takeWhile_dropWhile, List.takeWhile_append_of_pos digits,
    List.dropWhile_append_of_pos digits, hrest.1, hrest.2, List.append_nil]

theorem takePoint_of_ends {rest : List Char} (ends : Ends rest) : takePoint rest = (none, rest) := by
  unfold takePoint
  split
  · exact absurd rfl (ends '.' rfl).2.1
  · rfl

theorem takeExponent_of_ends {rest : List Char} (ends : Ends rest) : takeExponent rest = (none, rest) := by
  cases rest with
  | nil => rfl
  | cons c rest =>
    obtain ⟨-, -, he, hE⟩ := ends c rfl
    simp [takeExponent, he, hE]

/-- No number but zero starts with a zero. -/
theorem toDigits_head {n : Nat} (h : n ≠ 0) : ∃ c cs, Nat.toDigits 10 n = c :: cs ∧ c ≠ '0' := by
  induction n using Nat.strongRecOn with
  | ind n ih =>
    by_cases hn : n < 10
    · rw [Nat.toDigits_of_lt_base hn]
      refine ⟨n.digitChar, [], rfl, ?_⟩
      interval_cases n <;> first | exact absurd rfl h | decide
    · obtain ⟨c, cs, hcs, hc⟩ := ih (n / 10) (by omega) (by omega)
      rw [Nat.toDigits_of_base_le (by decide) (by omega), hcs]
      exact ⟨c, _, rfl, hc⟩

theorem takeWhole?_toDigits (n : Nat) {rest : List Char} (ends : Ends rest) :
    takeWhole? (Nat.toDigits 10 n ++ rest) = some (Nat.toDigits 10 n, rest) := by
  by_cases hn : n = 0
  · subst hn
    rfl
  · obtain ⟨c, cs, hcs, hc⟩ := toDigits_head hn
    have hdigit : c.isDigit = true := digits_toDigits n c (by rw [hcs]; exact List.mem_cons_self ..)
    have htake := takeDigits_append (digits_toDigits n) ends
    rw [hcs] at htake ⊢
    rw [List.cons_append] at htake ⊢
    unfold takeWhole?
    split
    · next heq =>
      cases heq
      exact absurd rfl hc
    · next heq =>
      cases heq
      rw [if_pos hdigit, htake]
    · next heq => cases heq

/-- Digits, with or without a minus before them, are read as the integer that they denote. -/
theorem number_toDigits (n : Nat) {rest : List Char} (ends : Ends rest)
    (short : (Nat.toDigits 10 n).length ≤ maxDigits) :
    number (Nat.toDigits 10 n ++ rest) = .ok (.int n, rest) ∧
      number ('-' :: (Nat.toDigits 10 n ++ rest)) = .ok (.int (-n), rest) := by
  have hlong : ¬ maxDigits < (Nat.toDigits 10 n).length := Nat.not_lt.mpr short
  constructor
  · obtain ⟨c, cs, hcs⟩ := List.exists_cons_of_ne_nil (Nat.toDigits_ne_nil (n := n) (b := 10))
    have hminus : c ≠ '-' := by
      rintro rfl
      have hdigit := digits_toDigits n '-' (by rw [hcs]; exact List.mem_cons_self ..)
      cases hdigit
    have htake := takeWhole?_toDigits n ends
    rw [hcs, List.cons_append] at htake ⊢
    simp [number, hminus, htake, takePoint_of_ends ends, takeExponent_of_ends ends, ← hcs, hlong,
      digitsValue_toDigits]
  · unfold number
    simp only [takeWhole?_toDigits n ends, takePoint_of_ends ends, takeExponent_of_ends ends, if_neg hlong,
      digitsValue_toDigits]
    rfl

theorem number_toString (n : Int) {rest : List Char} (ends : Ends rest)
    (short : (Nat.toDigits 10 n.natAbs).length ≤ maxDigits) :
    number ((toString n).toList ++ rest) = .ok (.int n, rest) := by
  obtain ⟨hplain, hminus⟩ := number_toDigits n.natAbs ends short
  rw [toList_toString]
  split
  · next hn =>
    rw [List.cons_append, hminus]
    congr
    omega
  · next hn =>
    rw [hplain]
    congr
    omega

/-! ## Texts -/

theorem hexValue?_digitChar {d : Nat} (h : d < 16) : hexValue? d.digitChar = some d := by
  revert d
  decide

/-- Hexadecimal digits with zeros before them, up to some width. -/
def hexDigits : Nat → Nat → List Char
  | 0, _ => []
  | width + 1, n => hexDigits width (n / 16) ++ [(n % 16).digitChar]

theorem hexDigits_zero (width : Nat) : hexDigits width 0 = List.replicate width '0' := by
  induction width with
  | zero => rfl
  | succ width ih =>
    rw [hexDigits, Nat.zero_div, ih, List.replicate_succ']
    rfl

theorem hexDigits_eq {width n : Nat} (h : n < 16 ^ (width + 1)) :
    hexDigits (width + 1) n =
      List.replicate (width + 1 - (Nat.toDigits 16 n).length) '0' ++ Nat.toDigits 16 n := by
  induction width generalizing n with
  | zero =>
    rw [Nat.toDigits_of_lt_base (by simpa using h), hexDigits, hexDigits, Nat.mod_eq_of_lt (by simpa using h)]
    rfl
  | succ width ih =>
    rcases Nat.lt_or_ge n 16 with hn | hn
    · rw [Nat.toDigits_of_lt_base hn, hexDigits, Nat.mod_eq_of_lt hn, Nat.div_eq_of_lt hn, hexDigits_zero]
      rfl
    · rw [hexDigits, ih (by rw [Nat.pow_succ] at h; omega), Nat.toDigits_of_base_le (by decide) hn]
      simp only [List.append_assoc, List.length_append, List.length_singleton, Nat.add_sub_add_right]

/-- A unit is written with four hexadecimal digits. -/
theorem toList_hexText {u : Nat} (h : u < 0x10000) : (hexText 4 u).toList = hexDigits 4 u := by
  rw [hexText, String.toList_ofList, hexDigits_eq h]

theorem hexUnit?_hexText {u : Nat} (h : u < 0x10000) (c : Char) (rest : List Char) :
    hexUnit? ((hexText 4 u).toList ++ c :: rest) = some (u, c :: rest) := by
  rw [toList_hexText h]
  simp only [hexDigits, List.cons_append, List.nil_append, hexUnit?]
  rw [hexValue?_digitChar (by omega), hexValue?_digitChar (by omega), hexValue?_digitChar (by omega),
    hexValue?_digitChar (by omega)]
  simp
  omega

theorem toNat_lt (c : Char) : c.toNat < 0xD800 ∨ 0xDFFF < c.toNat ∧ c.toNat < 0x110000 := c.valid

theorem codePoint_hexText (left : Nat) {u : Nat} (h : u < 0xD800 ∨ 0xDFFF < u ∧ u < 0x10000) (c : Char)
    (rest : List Char) :
    codePoint left ((hexText 4 u).toList ++ c :: rest) = .ok (Char.ofNat u, c :: rest) := by
  have hhigh : ¬(0xD800 ≤ u ∧ u ≤ 0xDBFF) := by omega
  have hhalf : ¬(0xD800 ≤ u ∧ u ≤ 0xDFFF) := by omega
  rw [codePoint, hexUnit?_hexText (by omega)]
  dsimp only
  rw [if_neg hhigh, charOfUnit, if_neg hhalf]

/-- A pair of escapes is read as the character that was split. -/
theorem codePoint_pair (left : Nat) {n : Nat} (h : n < 0x100000) (c : Char) (rest : List Char) :
    codePoint left ((hexText 4 (0xD800 + n / 0x400)).toList ++ '\\' :: 'u' ::
        ((hexText 4 (0xDC00 + n % 0x400)).toList ++ c :: rest)) =
      .ok (Char.ofNat (0x10000 + n), c :: rest) := by
  have hhigh : 0xD800 ≤ 0xD800 + n / 0x400 ∧ 0xD800 + n / 0x400 ≤ 0xDBFF := by omega
  have hlow : 0xDC00 ≤ 0xDC00 + n % 0x400 ∧ 0xDC00 + n % 0x400 ≤ 0xDFFF := by omega
  have hlength : ¬((hexText 4 (0xDC00 + n % 0x400)).toList ++ c :: rest).length < 5 := by
    rw [toList_hexText (by omega)]
    simp [hexDigits]
  have hsum : 0x10000 + (0xD800 + n / 0x400 - 0xD800) * 0x400 + (0xDC00 + n % 0x400 - 0xDC00) =
      0x10000 + n := by
    omega
  rw [codePoint, hexUnit?_hexText (by omega)]
  simp only [if_pos hhigh, if_neg hlength, hexUnit?_hexText (by omega : 0xDC00 + n % 0x400 < 0x10000),
    if_pos hlow, joinPair, hsum]

theorem toList_unitEscape (u : Nat) : (unitEscape u).toList = '\\' :: 'u' :: (hexText 4 u).toList := by
  rw [unitEscape, String.toList_append]
  rfl

variable {start fuel : Nat} {read : List Char}

theorem textBody_plain {c : Char} (hquote : c ≠ '"') (hslash : c ≠ '\\') (hcontrol : ¬c.toNat < 0x20)
    (rest : List Char) : textBody start (fuel + 1) read (c :: rest) = textBody start fuel (c :: read) rest := by
  rw [textBody, if_neg hcontrol]
  · exact fun h => absurd h hslash
  · exact hquote
  · exact fun _ h => absurd h hslash
  · exact fun _ _ h => absurd h hslash

theorem textBody_unit {cs : List Char} {c d : Char} {rest : List Char}
    (h : ∀ left, codePoint left cs = .ok (c, d :: rest)) :
    textBody start (fuel + 1) read ('\\' :: 'u' :: cs) = textBody start fuel (c :: read) (d :: rest) := by
  rw [textBody, h]
  rfl

/-- A written character is read as itself. -/
theorem textBody_charText (asciiOnly : Bool) (c d : Char) (rest : List Char) :
    textBody start (fuel + 1) read ((charText asciiOnly c).toList ++ d :: rest) =
      textBody start fuel (c :: read) (d :: rest) := by
  unfold charText
  split
  case h_8 hquote hslash _ _ _ _ _ =>
    have hvalid := toNat_lt c
    have hself : Char.ofNat c.toNat = c := Char.ofNat_toNat c
    dsimp only
    split
    · next hcontrol =>
      rw [toList_unitEscape, List.cons_append, List.cons_append]
      refine textBody_unit fun left => ?_
      exact (codePoint_hexText left (.inl (by omega)) d rest).trans (by rw [hself])
    · next hcontrol =>
      split
      · rw [String.toList_singleton]
        exact textBody_plain hquote hslash hcontrol _
      · split
        · next hsmall =>
          rw [toList_unitEscape, List.cons_append, List.cons_append]
          refine textBody_unit fun left => ?_
          exact (codePoint_hexText left (by omega) d rest).trans (by rw [hself])
        · next hlarge =>
          have hsum : 0x10000 + (c.toNat - 0x10000) = c.toNat := by omega
          rw [String.toList_append, toList_unitEscape, toList_unitEscape, List.append_assoc, List.cons_append,
            List.cons_append, List.cons_append, List.cons_append]
          refine textBody_unit fun left => ?_
          exact (codePoint_pair left (by omega) d rest).trans (by rw [hsum, hself])
  all_goals rfl

/-- The characters of a text as they are written between quotes. -/
def written (asciiOnly : Bool) (cs : List Char) : List Char := cs.flatMap fun c => (charText asciiOnly c).toList

theorem charText_ne_nil (asciiOnly : Bool) (c : Char) : (charText asciiOnly c).toList ≠ [] := by
  have hunit (u : Nat) : (unitEscape u).toList ≠ [] := by
    rw [toList_unitEscape]
    exact List.cons_ne_nil _ _
  fun_cases charText asciiOnly c
  case case8 => exact hunit _
  case case9 => simp
  case case10 => exact hunit _
  case case11 =>
    rw [String.toList_append]
    exact List.append_ne_nil_of_left_ne_nil (hunit _) _
  all_goals exact List.cons_ne_nil _ _

theorem textBody_written (asciiOnly : Bool) (cs rest : List Char) (h : cs.length < fuel) :
    textBody start fuel read (written asciiOnly cs ++ '"' :: rest) =
      .ok (String.ofList (read.reverse ++ cs), rest) := by
  induction cs generalizing fuel read with
  | nil =>
    obtain ⟨fuel, rfl⟩ := Nat.exists_eq_add_one_of_ne_zero (Nat.ne_of_gt h)
    rw [List.append_nil]
    rfl
  | cons c cs ih =>
    obtain ⟨fuel, rfl⟩ := Nat.exists_eq_add_one_of_ne_zero (Nat.ne_of_gt (Nat.zero_lt_of_lt h))
    obtain ⟨d, more, hmore⟩ : ∃ d more, written asciiOnly cs ++ '"' :: rest = d :: more :=
      List.exists_cons_of_ne_nil (by simp)
    have hcons : written asciiOnly (c :: cs) ++ '"' :: rest =
        (charText asciiOnly c).toList ++ d :: more := by
      rw [← hmore, written, List.flatMap_cons, List.append_assoc]
      rfl
    rw [hcons, textBody_charText, ← hmore, ih (Nat.lt_of_succ_lt_succ h), List.reverse_cons,
      List.append_assoc, List.singleton_append]

theorem length_le_written (asciiOnly : Bool) (cs : List Char) :
    cs.length ≤ (written asciiOnly cs).length := by
  induction cs with
  | nil => exact Nat.zero_le _
  | cons c cs ih =>
    have hc : 0 < (charText asciiOnly c).toList.length :=
      List.length_pos_of_ne_nil (charText_ne_nil asciiOnly c)
    rw [written, List.flatMap_cons, List.length_append, List.length_cons]
    exact Nat.add_comm _ _ ▸ Nat.add_le_add hc ih

/-- A written text, after its opening quote, is read as itself. -/
theorem text_written (asciiOnly : Bool) (s : String) (rest : List Char) :
    text (written asciiOnly s.toList ++ '"' :: rest) = .ok (s, rest) := by
  have hfuel : s.toList.length < (written asciiOnly s.toList ++ '"' :: rest).length + 1 := by
    have hle := length_le_written asciiOnly s.toList
    rw [List.length_append]
    omega
  rw [text, textBody_written asciiOnly s.toList rest hfuel, List.reverse_nil, List.nil_append,
    String.ofList_toList]

end Rulebook.Json
