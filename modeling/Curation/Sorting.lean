/-
# Stable sorting

Sorting by insertion, from the right.  An item is put in front of the first one that it may
precede, so items that may precede each other keep their order; and a list that is already
in order costs one comparison an item.
-/

namespace Curation

/-- Puts an item in front of the first one that it may precede. -/
def insertBy {α : Type} (le : α → α → Bool) (x : α) : List α → List α
  | [] => [x]
  | y :: ys => if le x y then x :: y :: ys else y :: insertBy le x ys

/-- The items in order. -/
def sortBy {α : Type} (le : α → α → Bool) : List α → List α
  | [] => []
  | x :: xs => insertBy le x (sortBy le xs)

end Curation
