/-
# Doubles

A number of 64 bits is a sign and a *rank*.  List the magnitudes a double can have in
increasing order, zero first and infinity last; the rank is the place in that list.  Two
things follow at once.  Comparing magnitudes is comparing ranks, and the rank is exactly the
bit pattern without its sign.

Every finite magnitude is a whole number of units, the unit being `2 ^ (-1074)`, so all
arithmetic here is exact on natural numbers and is rounded once, by `roundDiv`.
-/
import Curation.Number.Rounding

namespace Curation

/-! ## 1. Ranks and units -/

namespace Rank

/-- The number of ranks that share one exponent. -/
abbrev perExponent : Nat := twoTo 52

/-- The rank of infinity; smaller ranks are finite. -/
abbrev infinite : Nat := 2047 * twoTo 52

/-- The exponent of the unit: one unit is `2 ^ (-unitExponent)`. -/
abbrev unitExponent : Nat := 1074

/-- The magnitude of a rank in units.  Ranks below `2 ^ 52` count units themselves; above,
each block of `2 ^ 52` ranks doubles the step. -/
def units (rank : Nat) : Nat :=
  if rank < perExponent then rank
  else (perExponent + rank % perExponent) * twoTo (rank / perExponent - 1)

/-- **The rank nearest to `num / den` units**, a half going to the even rank.  `shift` bits
are dropped so that 53 remain, and each dropped bit skips one block of ranks; a carry out of
the 53 bits lands in the next block by itself. -/
def ofUnits (num den : Nat) : Nat :=
  let shift := Nat.log2 (num / den) - 52
  min (shift * perExponent + roundDiv num (den * twoTo shift)) infinite

/-- Rounding never passes infinity. -/
theorem ofUnits_le (num den : Nat) : ofUnits num den ≤ infinite :=
  Nat.min_le_right _ _

end Rank

/-- A double: a sign and a rank, or not a number. -/
inductive Binary64 where
  | nan
  | number (negative : Bool) (rank : Fin (Rank.infinite + 1))
  deriving DecidableEq

namespace Binary64

/-! ## 2. Making doubles -/

/-- The double of the given sign and rank, ranks past the last one read as infinity. -/
def ofRank (negative : Bool) (rank : Nat) : Binary64 :=
  .number negative ⟨min rank Rank.infinite, Nat.lt_succ_of_le (Nat.min_le_right _ _)⟩

/-- Positive zero. -/
def zero : Binary64 := ofRank false 0

/-- Infinity of the given sign. -/
def infinity (negative : Bool) : Binary64 := ofRank negative Rank.infinite

/-- **The double nearest to a quotient.**  `num / den`, with a sign of its own so that a
negative quotient that rounds to nothing is the negative zero. -/
def ofRatio (negative : Bool) (num den : Nat) : Binary64 :=
  ofRank negative (Rank.ofUnits (num * twoTo Rank.unitExponent) den)

/-- The double nearest to a natural number. -/
def ofNat (n : Nat) : Binary64 := ofRatio false n 1

/-- The double nearest to an integer. -/
def ofInt (i : Int) : Binary64 := ofRatio (decide (i < 0)) i.natAbs 1

/-- The double nearest to `digits * 10 ^ exponent`.  Far outside the range the answer is
known without computing the power. -/
def ofDecimal (negative : Bool) (digits : Nat) (exponent : Int) : Binary64 :=
  if digits = 0 then ofRank negative 0
  else if 400 < exponent then infinity negative
  else if exponent + (Nat.log2 digits + 1 : Nat) < -400 then ofRank negative 0
  else if 0 ≤ exponent then ofRatio negative (digits * tenTo exponent.toNat) 1
  else ofRatio negative digits (tenTo (-exponent).toNat)

/-! ## 3. Reading doubles -/

/-- Neither infinite nor undefined. -/
def isFinite : Binary64 → Bool
  | .nan => false
  | .number _ r => r.val < Rank.infinite

/-- A zero of either sign. -/
def isZero : Binary64 → Bool
  | .nan => false
  | .number _ r => r.val = 0

/-- The whole number below a magnitude, held within 64 bits; a negative or undefined number
gives zero.  This is what cutting a double down to a word gives after rounding it down. -/
def floorWord : Binary64 → UInt64
  | .nan => 0
  | .number true _ => 0
  | .number false r =>
    if r.val < Rank.infinite then
      UInt64.ofNat (min (Rank.units r.val / twoTo Rank.unitExponent) (UInt64.size - 1))
    else UInt64.ofNat (UInt64.size - 1)

/-- The whole number above a magnitude, held within 64 bits, as `floorWord`. -/
def ceilWord : Binary64 → UInt64
  | .nan => 0
  | .number true _ => 0
  | .number false r =>
    if r.val < Rank.infinite then
      UInt64.ofNat (min ((Rank.units r.val + (twoTo Rank.unitExponent - 1)) / twoTo Rank.unitExponent)
        (UInt64.size - 1))
    else UInt64.ofNat (UInt64.size - 1)

/-! ## 4. Order

Both zeros are equal, and nothing compares with an undefined number. -/

/-- Where a number stands on the line of signed ranks. -/
def position (negative : Bool) (rank : Nat) : Int :=
  if negative then -(rank : Int) else rank

/-- Strictly below. -/
def lt : Binary64 → Binary64 → Bool
  | .number s r, .number t q => decide (position s r.val < position t q.val)
  | _, _ => false

/-- Below or equal. -/
def le : Binary64 → Binary64 → Bool
  | .number s r, .number t q => decide (position s r.val ≤ position t q.val)
  | _, _ => false

/-! ## 5. Arithmetic -/

/-- The product, rounded once. -/
def mul : Binary64 → Binary64 → Binary64
  | .number s r, .number t q =>
    let sign := s != t
    if r.val < Rank.infinite ∧ q.val < Rank.infinite then
      ofRank sign (Rank.ofUnits (Rank.units r.val * Rank.units q.val) (twoTo Rank.unitExponent))
    else if r.val = 0 ∨ q.val = 0 then .nan
    else infinity sign
  | _, _ => .nan

/-- The quotient, rounded once. -/
def div : Binary64 → Binary64 → Binary64
  | .number s r, .number t q =>
    let sign := s != t
    if r.val < Rank.infinite ∧ q.val < Rank.infinite then
      if q.val = 0 then (if r.val = 0 then .nan else infinity sign)
      else ofRatio sign (Rank.units r.val) (Rank.units q.val)
    else if q.val < Rank.infinite then infinity sign
    else if r.val < Rank.infinite then ofRank sign 0
    else .nan
  | _, _ => .nan

/-- One. -/
def one : Binary64 := ofNat 1

/-- One hundred, the factor of a percentage. -/
def hundred : Binary64 := ofNat 100

end Binary64
end Curation
