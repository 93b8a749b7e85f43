import Rulebook.Number.Binary64

/-!
The shortest decimal that reads back as a given float. The reals that round to a float form an
interval, whose ends belong to it when the significand is even. For 1, 2, … 17 digits the two
decimals next to the value are tried: the first length with one inside the interval wins, and of two
the nearer, a tie going to the even digit.

A `DecimalStyle` says how the digits are laid out: where positional writing ends and how an exponent
is spelt.
-/

namespace Rulebook

/-- The decimal `digits * 10 ^ exponent`. -/
structure Decimal where
  digits : Nat
  exponent : Int
  deriving DecidableEq

namespace Decimal

/-- The same value without trailing zeros, given a bound on their count. -/
def stripZeros : Nat → Decimal → Decimal
  | 0, d => d
  | k + 1, d =>
    if d.digits ≠ 0 ∧ d.digits % 10 = 0 then stripZeros k ⟨d.digits / 10, d.exponent + 1⟩ else d

end Decimal

/-- A positive rational and the interval around it, over one denominator. -/
structure RoundingInterval where
  low : Nat
  mid : Nat
  high : Nat
  den : Nat
  closed : Bool

namespace RoundingInterval

/-- The reals that round to a positive binary64 number `n * 2 ^ -k` with odd `n`. -/
def ofOdd (n : Nat) (k : Int) : RoundingInterval :=
  let e := max (-1074) ((n.log2 : Int) - k - 52)
  let m := n * twoTo (-k - e).toNat
  let below := if m = twoTo 52 ∧ -1074 < e then 1 else 2
  let scale := twoTo (e - 2).toNat
  ⟨(4 * m - below) * scale, 4 * m * scale, (4 * m + 2) * scale, twoTo (2 - e).toNat, m % 2 == 0⟩

/-- Whether `num / den` of a decimal grid lies in the interval. -/
def contains (i : RoundingInterval) (num den : Nat) : Bool :=
  if i.closed then i.low * den ≤ num * i.den ∧ num * i.den ≤ i.high * den
  else i.low * den < num * i.den ∧ num * i.den < i.high * den

/-- The greatest `p` with `10 ^ p` at most the value. -/
def magnitude (i : RoundingInterval) : Int :=
  let guess := ((i.mid.log2 : Int) - i.den.log2) * 30103 / 100000
  let reaches (p : Int) : Bool :=
    if 0 ≤ p then i.den * tenTo p.toNat ≤ i.mid else i.den ≤ i.mid * tenTo (-p).toNat
  if reaches (guess + 1) then guess + 1 else if reaches guess then guess else guess - 1

/-- The best decimal on the grid of multiples of `10 ^ p`, if one lies in the interval. -/
def onGrid? (i : RoundingInterval) (p : Int) : Option Decimal :=
  let up := tenTo p.toNat
  let down := tenTo (-p).toNat
  let a := i.mid * down / (i.den * up)
  let lower := a ≠ 0 && i.contains (a * up) down
  let upper := i.contains ((a + 1) * up) down
  let twice := 2 * i.mid * down
  let half := (2 * a + 1) * up * i.den
  if lower && upper then
    some ⟨if twice < half then a else if half < twice then a + 1 else a + a % 2, p⟩
  else if lower then some ⟨a, p⟩
  else if upper then some ⟨a + 1, p⟩
  else none

/-- The first grid of at most `fuel` more digits that meets the interval. -/
def search (i : RoundingInterval) (p : Int) : Nat → Decimal
  | 0 => ⟨0, 0⟩
  | fuel + 1 => (i.onGrid? p).getD (search i (p - 1) fuel)

end RoundingInterval

/-- The shortest decimal that rounds to `n * 2 ^ -k` with odd `n`. -/
def Decimal.shortest (n : Nat) (k : Int) : Decimal :=
  let i := RoundingInterval.ofOdd n k
  (i.search i.magnitude 18).stripZeros 20

/-- How a decimal is laid out. With the point after digit number `point`, counted from the first
digit, it is positional from `firstPoint` to `lastPoint` and has an exponent otherwise. -/
structure DecimalStyle where
  firstPoint : Int
  lastPoint : Int
  exponentWidth : Nat
  infinity : String
  nan : String

namespace DecimalStyle

/-- Pads a text on the left with zeros. -/
def zeroPad (width : Nat) (s : String) : String :=
  String.ofList (List.replicate (width - s.length) '0') ++ s

/-- The text of a decimal that is not zero. -/
def layOut (style : DecimalStyle) (d : Decimal) : String :=
  let ds := (toString d.digits).toList
  let point : Int := ds.length + d.exponent
  if style.firstPoint ≤ point ∧ point ≤ style.lastPoint then
    if point ≤ 0 then "0." ++ String.ofList (List.replicate (-point).toNat '0' ++ ds)
    else if ds.length ≤ point then
      String.ofList (ds ++ List.replicate (point - ds.length).toNat '0') ++ ".0"
    else String.ofList (ds.take point.toNat) ++ "." ++ String.ofList (ds.drop point.toNat)
  else
    let e := point - 1
    let fraction := if ds.length ≤ 1 then "" else "." ++ String.ofList (ds.drop 1)
    String.ofList (ds.take 1) ++ fraction ++ "e" ++ (if e < 0 then "-" else "+")
      ++ zeroPad style.exponentWidth (toString e.natAbs)

/-- The text of a float in a style. -/
def text (style : DecimalStyle) : Binary64 → String
  | .nan => style.nan
  | .infinity negative => (if negative then "-" else "") ++ style.infinity
  | .negativeZero => "-0.0"
  | .finite .zero _ => "0.0"
  | .finite (.ofOdd n k _) _ =>
    (if n < 0 then "-" else "") ++ style.layOut (.shortest n.natAbs k)

end DecimalStyle

/-- Floats in messages: positional from `0.0001` up to sixteen digits before the point, and an
exponent has at least two digits. -/
def plainStyle : DecimalStyle := ⟨-3, 16, 2, "inf", "nan"⟩

end Rulebook
