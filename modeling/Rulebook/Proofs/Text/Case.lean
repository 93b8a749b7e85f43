import Mathlib
import Rulebook.Text.Case

/-!
Small letters. A character of a text in small letters has no other lower form that is ASCII, so a text made
of such characters can be read as an ASCII word in one spelling alone. The tables of runs enter through
three facts on each run: where its targets lie, that they are characters, and that two runs alone lead to
ASCII.
-/

namespace Rulebook

/-- A character in small letters. -/
def smallChar (c : Char) : Char := if c.toNat = 0x130 then c else Char.ofNat (lowerCode c.toNat)

theorem toList_lowerText (s : String) : (lowerText s).toList = s.toList.map smallChar :=
  String.toList_ofList

/-- Where a run leads: to characters that are no capitals of ASCII and not the sign for kelvin, and to ASCII
only from that sign and from the capital I with a dot. -/
structure RunFacts (first last target : Nat) : Prop where
  above : 0x5A < target
  notKelvin : target + (last - first) < 0x212A ∨ 0x212A < target
  characters : target + (last - first) < 0xD800 ∨ 0xDFFF < target ∧ target + (last - first) < 0x110000
  ascii : 0x80 ≤ target ∨ first = last ∧ (first = 0x130 ∨ first = 0x212A)

theorem runFacts : ∀ r ∈ lowerRuns.toList, RunFacts r.1 r.2.1 r.2.2.2 := by
  have h : ∀ r ∈ lowerRuns.toList, 0x5A < r.2.2.2 ∧
      (r.2.2.2 + (r.2.1 - r.1) < 0x212A ∨ 0x212A < r.2.2.2) ∧
      (r.2.2.2 + (r.2.1 - r.1) < 0xD800 ∨ 0xDFFF < r.2.2.2 ∧ r.2.2.2 + (r.2.1 - r.1) < 0x110000) ∧
      (0x80 ≤ r.2.2.2 ∨ r.1 = r.2.1 ∧ (r.1 = 0x130 ∨ r.1 = 0x212A)) := by
    decide +kernel
  intro r hr
  obtain ⟨above, notKelvin, characters, ascii⟩ := h r hr
  exact ⟨above, notKelvin, characters, ascii⟩

/-- A code point from 0x80 on stays or is moved by a run. -/
theorem lowerCode_cases {n : Nat} (h : 0x80 ≤ n) : lowerCode n = n ∨
    ∃ first last target, RunFacts first last target ∧ first ≤ n ∧ n ≤ last ∧
      lowerCode n = target + (n - first) := by
  unfold lowerCode applyRuns
  rw [if_neg (by omega)]
  split
  · next first last step target hfind =>
    have hmem := runFacts _ (Array.mem_toList_iff.mpr (Array.mem_of_find?_eq_some hfind))
    have hin := Array.find?_some hfind
    simp only [Bool.and_eq_true, decide_eq_true_eq] at hin
    exact .inr ⟨first, last, target, hmem, hin.1.1, hin.1.2, rfl⟩
  · exact .inl rfl

theorem lowerCode_of_lt {n : Nat} (h : n < 0x80) :
    lowerCode n = if 0x41 ≤ n ∧ n ≤ 0x5A then n + 32 else n := if_pos h

/-- A lower form is no capital of ASCII and not the sign for kelvin. -/
theorem lowerCode_ne (n : Nat) : (lowerCode n < 0x41 ∨ 0x5A < lowerCode n) ∧ lowerCode n ≠ 0x212A := by
  by_cases h : n < 0x80
  · rw [lowerCode_of_lt h]
    split <;> omega
  · -- the sign for kelvin has a lower form in ASCII, so it is looked up by itself
    by_cases hkelvin : n = 0x212A
    · subst hkelvin
      decide +kernel
    · rcases lowerCode_cases (Nat.le_of_not_lt h) with hn | ⟨first, last, target, facts, hfirst, hlast, hn⟩
      · omega
      · have habove := facts.above
        have hnot := facts.notKelvin
        omega

theorem lowerCode_lt {n : Nat} (h : lowerCode n < 0x80) : n < 0x80 ∨ n = 0x130 ∨ n = 0x212A := by
  by_contra hne
  rcases lowerCode_cases (n := n) (by omega) with hn | ⟨first, last, target, facts, hfirst, hlast, hn⟩
  · omega
  · have hascii := facts.ascii
    omega

theorem isValidChar_lowerCode {n : Nat} (h : n.isValidChar) : (lowerCode n).isValidChar := by
  by_cases hlow : n < 0x80
  · rw [lowerCode_of_lt hlow]
    split <;> exact .inl (by omega)
  · rcases lowerCode_cases (Nat.le_of_not_lt hlow) with hn | ⟨first, last, target, facts, hfirst, hlast, hn⟩
    · rwa [hn]
    · have hcharacters := facts.characters
      rcases hcharacters with hc | hc
      · exact .inl (by omega)
      · exact .inr (by omega)

theorem toNat_smallChar (c : Char) :
    (smallChar c).toNat = if c.toNat = 0x130 then 0x130 else lowerCode c.toNat := by
  unfold smallChar
  split
  · assumption
  · have valid : (lowerCode c.toNat).isValidChar := isValidChar_lowerCode c.valid
    rw [Char.ofNat, dif_pos valid]
    rfl

/-- A character in small letters that has a lower form in ASCII is that form. -/
theorem smallChar_smallChar {c : Char} (h : (smallChar (smallChar c)).toNat < 0x80) :
    smallChar (smallChar c) = smallChar c := by
  have hc := toNat_smallChar c
  have hcc := toNat_smallChar (smallChar c)
  obtain ⟨hcapital, hkelvin⟩ := lowerCode_ne c.toNat
  have hlt : (smallChar c).toNat < 0x80 := by
    split at hcc
    · omega
    · rcases lowerCode_lt (hcc ▸ h) with hlt | hdot | hk
      · exact hlt
      · contradiction
      · split at hc <;> omega
  have hsame : (smallChar (smallChar c)).toNat = (smallChar c).toNat := by
    rw [hcc, if_neg (by omega), lowerCode_of_lt hlt]
    split at hc
    · omega
    · rw [if_neg (by omega)]
  exact Char.toNat_inj.mp hsame

/-- A text made of characters in small letters spells an ASCII word in one way alone. -/
theorem eq_of_lowerText_eq {p source word : String}
    (small : ∀ c ∈ p.toList, c ∈ (lowerText source).toList) (ascii : ∀ c ∈ word.toList, c.toNat < 0x80)
    (h : lowerText p = word) : p = word := by
  have hmap : p.toList.map smallChar = word.toList := by rw [← toList_lowerText, h]
  refine String.toList_inj.mp (Eq.trans (Eq.symm ?_) hmap)
  conv_rhs => rw [← List.map_id p.toList]
  refine List.map_congr_left fun c hc => ?_
  obtain ⟨source, -, rfl⟩ := List.mem_map.mp (toList_lowerText _ ▸ small c hc)
  exact smallChar_smallChar (ascii _ (hmap ▸ List.mem_map_of_mem hc))

end Rulebook
