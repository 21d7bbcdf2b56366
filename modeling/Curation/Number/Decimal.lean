/-
# Doubles in decimal

Writing a double takes two independent steps.  `Digits.shortest` chooses the digits: the
fewest that still read back as the same double.  A `Layout` then says where the point goes
and when an exponent is written.  Reading goes the other way through `Binary64.ofDecimal`.
-/
import Curation.Number.Binary64

namespace Curation

/-! ## 1. The digits -/

/-- The positive number `digits * 10 ^ exponent`. -/
structure Digits where
  digits : Nat
  exponent : Int
  deriving DecidableEq

namespace Digits

/-- The number of decimal digits of a natural number; one for zero. -/
def count (n : Nat) : Nat := (Nat.toDigits 10 n).length

/-- The exponent of the leading digit of `num / den`, both positive. -/
def leading (num den : Nat) : Int :=
  if den ≤ num then (count (num / den) : Int) - 1
  else -(count ((den + num - 1) / num - 1) : Int)

/-- What rounds to a given finite rank: the multiples of half a unit from `low` to `high`,
the ends included exactly when the rank is even. -/
structure Interval where
  low : Nat
  centre : Nat
  high : Nat
  closed : Bool

/-- The interval around a positive finite rank. -/
def interval (rank : Nat) : Interval where
  low := Rank.units (rank - 1) + Rank.units rank
  centre := 2 * Rank.units rank
  high := Rank.units rank + Rank.units (rank + 1)
  closed := rank % 2 == 0

/-- Whether a point of the grid, given in the interval's measure, lies inside. -/
def Interval.holds (i : Interval) (scale point : Nat) : Bool :=
  if i.closed then decide (i.low * scale ≤ point) && decide (point ≤ i.high * scale)
  else decide (i.low * scale < point) && decide (point < i.high * scale)

/-- The better of the two neighbours of a number on the grid of step `10 ^ exponent`, if one
of them lies in the interval.  The nearer one wins; `tieUp` settles a tie, which goes to the
even neighbour otherwise. -/
def onGrid (tieUp : Bool) (i : Interval) (exponent : Int) : Option Digits :=
  let step := twoTo (Rank.unitExponent + 1) * tenTo exponent.toNat
  let scale := tenTo (-exponent).toNat
  let centre := i.centre * scale
  let below := centre / step
  let above := below + 1
  let down := centre - below * step
  let up := above * step - centre
  match i.holds scale (below * step), i.holds scale (above * step) with
  | true, false => some ⟨below, exponent⟩
  | false, true => some ⟨above, exponent⟩
  | true, true =>
    if down < up ∨ (down = up ∧ !tieUp ∧ below % 2 = 0) then some ⟨below, exponent⟩
    else some ⟨above, exponent⟩
  | false, false => none

/-- A last zero digit moved into the exponent. -/
def dropZero (d : Digits) : Digits :=
  if d.digits % 10 = 0 then ⟨d.digits / 10, d.exponent + 1⟩ else d

/-- **The fewest digits that read back.**  Grids of one to seventeen digits are tried in
turn; seventeen always suffice, so the last grid needs no test. -/
def shortest (tieUp : Bool) (rank : Nat) : Digits :=
  let i := interval rank
  let top := leading i.centre (twoTo (Rank.unitExponent + 1))
  match (List.range 17).findSome? fun (n : Nat) => onGrid tieUp i (top - (n : Int)) with
  | some d => d.dropZero
  | none => ⟨i.centre, -((Rank.unitExponent : Int) + 1)⟩

end Digits

/-! ## 2. The layout -/

/-- How chosen digits are laid out. -/
structure Layout where
  /-- The exponents of the leading digit that are written without an exponent mark; all of
  them when absent. -/
  positional : Option (Int × Int)
  /-- Whether a whole number written positionally ends in `.0`. -/
  pointZero : Bool
  /-- Whether two equally near digit strings are settled upwards. -/
  tieUp : Bool

namespace Layout

/-- A number as part of JSON text: positional from `0.00001` up to sixteen digits before the
point, and always recognisable as fractional. -/
def json : Layout := ⟨some (-5, 15), true, false⟩

/-- A number inside a sentence: never an exponent, and no point in a whole number. -/
def plain : Layout := ⟨none, false, true⟩

/-- Digits with the point placed, `exponent` being that of the last digit. -/
def positionalText (pointZero : Bool) (d : Digits) : String :=
  let text := Nat.toDigits 10 d.digits
  if 0 ≤ d.exponent then
    String.ofList (text ++ List.replicate d.exponent.toNat '0') ++ (if pointZero then ".0" else "")
  else
    let places := (-d.exponent).toNat
    if places < text.length then
      String.ofList (text.take (text.length - places)) ++ "." ++
        String.ofList (text.drop (text.length - places))
    else "0." ++ String.ofList (List.replicate (places - text.length) '0' ++ text)

/-- Digits with an exponent mark; a positive exponent carries its sign. -/
def scientificText (d : Digits) : String :=
  let text := Nat.toDigits 10 d.digits
  let e := d.exponent + (text.length - 1 : Nat)
  let mantissa := match text with
    | [] => "0"
    | [c] => String.singleton c
    | c :: rest => String.singleton c ++ "." ++ String.ofList rest
  mantissa ++ "e" ++ (if 0 ≤ e then "+" ++ toString e.toNat else "-" ++ toString (-e).toNat)

/-- The text of a positive finite rank. -/
def rankText (layout : Layout) (rank : Nat) : String :=
  let d := Digits.shortest layout.tieUp rank
  let e := d.exponent + (Digits.count d.digits - 1 : Nat)
  match layout.positional with
  | none => positionalText layout.pointZero d
  | some (low, high) =>
    if low ≤ e ∧ e ≤ high then positionalText layout.pointZero d else scientificText d

/-- The text of any double. -/
def text (layout : Layout) : Binary64 → String
  | .nan => "NaN"
  | .number negative r =>
    (if negative then "-" else "") ++
      (if r.val = Rank.infinite then "inf"
       else if r.val = 0 then (if layout.pointZero then "0.0" else "0")
       else layout.rankText r.val)

end Layout

/-- A double rounded to a whole number, a half going to the even one, in decimal. -/
def Binary64.wholeText : Binary64 → String
  | .nan => "NaN"
  | .number negative r =>
    (if negative then "-" else "") ++
      (if r.val = Rank.infinite then "inf"
       else toString (roundDiv (Rank.units r.val) (twoTo Rank.unitExponent)))

/-! ## 3. Reading -/

/-- The value of a run of decimal digits, read onto what came before. -/
def readDigits (start : Nat) (cs : List Char) : Nat :=
  cs.foldl (fun n c => n * 10 + (c.toNat - '0'.toNat)) start

/-- An optional sign, and what follows it. -/
def readSign : List Char → Bool × List Char
  | '-' :: cs => (true, cs)
  | '+' :: cs => (false, cs)
  | cs => (false, cs)

/-- An exponent part that takes the whole rest, or nothing at all. -/
def readExponent? : List Char → Option Int
  | [] => some 0
  | c :: cs =>
    if c = 'e' ∨ c = 'E' then
      let (negative, digits) := readSign cs
      if digits.isEmpty ∨ !digits.all Char.isDigit then none
      else
        let n : Int := readDigits 0 digits
        some (if negative then -n else n)
    else none

/-- A number written out in digits, with an optional point and an optional exponent.  At
least one digit must stand before or after the point. -/
def readUnsigned? (negative : Bool) (cs : List Char) : Option Binary64 :=
  let whole := cs.takeWhile Char.isDigit
  let rest := cs.dropWhile Char.isDigit
  let (fraction, rest) := match rest with
    | '.' :: r => (r.takeWhile Char.isDigit, r.dropWhile Char.isDigit)
    | r => ([], r)
  if whole.isEmpty ∧ fraction.isEmpty then none
  else
    (readExponent? rest).map fun e =>
      Binary64.ofDecimal negative (readDigits (readDigits 0 whole) fraction) (e - fraction.length)

/-- **Reading a number.**  An optional sign, then digits or one of the words for infinity
and for an undefined number in any case.  No blanks and no separators. -/
def Binary64.read? (text : String) : Option Binary64 :=
  let (negative, cs) := readSign text.toList
  let word := String.ofList (cs.map Char.toLower)
  if word = "inf" ∨ word = "infinity" then some (Binary64.infinity negative)
  else if word = "nan" then some .nan
  else readUnsigned? negative cs

end Curation
