import Rulebook.Proofs.Format.Numerals

/-!
Dates with time. The pattern of a date with time spells a grammar of numerals between bounds: a year of any length,
a month, a day, an hour, a minute, a second, perhaps a fraction of it, and a zone. No calendar is asked, so each
month has 31 days and each minute a leap second.
-/

namespace Rulebook

open Regex

namespace Grammar

/-! ### The grammar -/

/-- One or more ASCII digits. -/
abbrev Digits : Language Char := Numeral (Set.Ici 1) Set.univ

/-- Two ASCII digits for a number between bounds. -/
abbrev TwoDigits (low high : Nat) : Language Char := Numeral {2} (Set.Icc low high)

/-- One of some characters. -/
def OneOf (singles : String) : Language Char := {w | ∃ x ∈ singles.toList, w = [x]}

/-- A year, a month and a day. -/
def Date : Language Char := Digits * {['-']} * TwoDigits 1 12 * {['-']} * TwoDigits 1 31

/-- An hour and a minute. -/
def Clock : Language Char := TwoDigits 0 23 * {[':']} * TwoDigits 0 59

/-- A second, the leap second included, and perhaps a fraction of it. -/
def Second : Language Char := TwoDigits 0 60 * (1 + {['.']} * Digits)

/-- A letter, or a distance with its sign. -/
def Zone : Language Char := OneOf "Zz" + OneOf "+-" * Clock

def DateTime : Language Char := Date * OneOf "Tt" * Clock * {[':']} * Second * Zone

/-! ### Its parts -/

theorem spells_month : Spells month (TwoDigits 1 12) :=
  spells_twoDigits (.char '0', .between '1' '9') [(.char '1', .ofRanges [] "012")] fun x y => by
    simp [contains_char_iff, contains_between_iff, contains_oneOf_iff, isDigit_iff]
    omega

theorem spells_day : Spells day (TwoDigits 1 31) :=
  spells_twoDigits (.char '0', .between '1' '9')
    [(.ofRanges [] "12", .between '0' '9'), (.char '3', .ofRanges [] "01")] fun x y => by
    simp [contains_char_iff, contains_between_iff, contains_oneOf_iff, isDigit_iff]
    omega

theorem spells_hour : Spells hour (TwoDigits 0 23) :=
  spells_twoDigits (.ofRanges [] "01", .between '0' '9') [(.char '2', .between '0' '3')] fun x y => by
    simp [contains_char_iff, contains_between_iff, contains_oneOf_iff, isDigit_iff]
    omega

theorem spells_minute : Spells minute (TwoDigits 0 59) :=
  spells_twoDigits (.between '0' '5', .between '0' '9') [] fun x y => by
    simp [contains_between_iff, isDigit_iff]
    omega

theorem spells_second : Spells second (TwoDigits 0 60) :=
  spells_twoDigits (.between '0' '5', .between '0' '9') [(.char '6', .char '0')] fun x y => by
    simp [contains_char_iff, contains_between_iff, isDigit_iff]
    omega

theorem spells_oneOf (singles : String) : Spells (oneOf singles) (OneOf singles) := by
  have h : (CharSet.ofRanges [] singles).language = OneOf singles := by
    ext w
    rw [CharSet.mem_language]
    simp only [CharSet.contains_ofRanges, List.not_mem_nil, false_and, exists_false, false_or]
    exact Iff.rfl
  exact h ▸ spells_one (.ofRanges [] singles)

theorem spells_fraction : Spells (optional fraction) (1 + {['.']} * Digits) :=
  ((spells_text ".").seq spells_digits).optional nil_notMem_singleton_mul

theorem spells_zone : Spells zone Zone := by
  rw [Zone, Clock, mul_assoc]
  exact (spells_oneOf "Zz").alt
    ((spells_oneOf "+-").seq (spells_hour.seq ((spells_text ":").seq spells_minute)))

theorem endsInLine_zone : EndsInLine Zone := by
  have hletter : EndsInLine (OneOf "Zz") := by
    rintro _ ⟨x, hx, rfl⟩
    refine ⟨[], x, rfl, ?_⟩
    rintro rfl
    exact absurd hx (by decide)
  have hminute : EndsInLine (TwoDigits 0 59) := endsInLine_numeral (by simp)
  exact hletter.add hminute.mul.mul

theorem dateTime_matches_iff (cs : List Char) : dateTime.matchesFrom [] 0 cs = true ↔
    Format.chomp cs ∈ DateTime := by
  have hparts : Spells (inTurn [oneOrMore digit, text "-", month, text "-", day, oneOf "Tt", hour, text ":", minute,
      text ":", second, Regex.optional fraction, zone]) DateTime := by
    simp only [DateTime, Date, Clock, Second, mul_assoc]
    exact spells_digits.seq ((spells_text "-").seq (spells_month.seq ((spells_text "-").seq (spells_day.seq
      ((spells_oneOf "Tt").seq (spells_hour.seq ((spells_text ":").seq (spells_minute.seq
        ((spells_text ":").seq (spells_second.seq (spells_fraction.seq spells_zone)))))))))))
  exact hparts.entire_matches_iff endsInLine_zone.mul cs

end Grammar

/-- A date with time is a text of the grammar, a final line feed aside. -/
theorem Format.check?_dateTime_iff (s : String) : check? "date-time" s = some true ↔
    chomp s.toList ∈ Grammar.DateTime := by
  have hcheck : check? "date-time" s = some (Grammar.dateTime.matchesFrom [] 0 s.toList) := rfl
  rw [hcheck, Option.some.injEq, Grammar.dateTime_matches_iff]

end Rulebook
