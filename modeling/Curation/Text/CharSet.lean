/-
# Sets of characters

A set of characters is written as the increasing list of the places where membership
changes: in at the first boundary, out at the second, and so on.
-/

namespace Curation

/-- A set of characters by its boundaries. -/
structure CharSet where
  boundaries : List Nat

/-- A character is in the set when an odd number of boundaries lie at or before it. -/
def CharSet.contains (s : CharSet) (c : Char) : Bool :=
  (s.boundaries.takeWhile (· ≤ c.toNat)).length % 2 == 1

/-- Below the first boundary nothing is in the set. -/
theorem CharSet.contains_of_lt {b : Nat} {bs : List Nat} {c : Char} (h : c.toNat < b) :
    (CharSet.mk (b :: bs)).contains c = false := by
  simp [contains, Nat.not_le.mpr h]

end Curation
