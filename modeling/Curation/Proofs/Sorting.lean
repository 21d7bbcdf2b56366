/-
# Sorting by insertion

The sorting of the library is `List.insertionSort` for an order that a test decides
(`sortBy_eq`), so that nothing is lost and the items come in order.  What remains to be shown is
that items which may precede each other keep the order they had (`sortBy_stable`).
-/
import Mathlib.Data.List.Sort
import Curation.Sorting

namespace Curation

variable {α : Type} {le : α → α → Bool}

theorem insertBy_eq (le : α → α → Bool) (x : α) : ∀ xs : List α,
    insertBy le x xs = xs.orderedInsert (fun a b => le a b = true) x
  | [] => rfl
  | y :: ys => by rw [insertBy, insertBy_eq le x ys, List.orderedInsert]

theorem sortBy_eq (le : α → α → Bool) : ∀ xs : List α,
    sortBy le xs = xs.insertionSort fun a b => le a b = true
  | [] => rfl
  | x :: xs => by rw [sortBy, sortBy_eq le xs, insertBy_eq, List.insertionSort_cons]

/-- **Nothing is lost.**  Sorting only rearranges. -/
theorem sortBy_perm (le : α → α → Bool) (xs : List α) : (sortBy le xs).Perm xs :=
  sortBy_eq le xs ▸ List.perm_insertionSort _ xs

@[simp] theorem mem_sortBy {x : α} {xs : List α} : x ∈ sortBy le xs ↔ x ∈ xs :=
  (sortBy_perm le xs).mem_iff

/-- What is in order stays as it is. -/
theorem sortBy_of_pairwise {xs : List α} (h : xs.Pairwise fun a b => le a b = true) :
    sortBy le xs = xs :=
  (sortBy_eq le xs).trans h.insertionSort_eq

section Ordered

variable (total : ∀ a b, le a b = true ∨ le b a = true)
  (trans : ∀ a b c, le a b = true → le b c = true → le a c = true)
include total trans

/-- **In order**, whatever order the items had before. -/
theorem sortBy_pairwise (xs : List α) : (sortBy le xs).Pairwise fun a b => le a b = true := by
  have : Std.Total fun a b => le a b = true := ⟨total⟩
  have : IsTrans α fun a b => le a b = true := ⟨trans⟩
  rw [sortBy_eq]
  exact List.pairwise_insertionSort _ xs

theorem insertBy_stable {r : α → α → Prop} {x : α} : ∀ {xs : List α}, (∀ y ∈ xs, r x y) →
    xs.Pairwise (fun a b => le a b = true ∧ (le b a = true → r a b)) →
      (insertBy le x xs).Pairwise (fun a b => le a b = true ∧ (le b a = true → r a b))
  | [], _, _ => List.pairwise_singleton _ _
  | y :: ys, hx, h => by
    have hy := List.pairwise_cons.mp h
    unfold insertBy
    split
    · next hxy =>
      refine List.pairwise_cons.mpr ⟨fun z hz => ⟨?_, fun _ => hx z hz⟩, h⟩
      rcases List.mem_cons.mp hz with rfl | hz
      · exact hxy
      · exact trans _ _ _ hxy (hy.1 z hz).1
    · next hxy =>
      have hys := insertBy_stable (fun z hz => hx z (List.mem_cons_of_mem _ hz)) hy.2
      refine List.pairwise_cons.mpr ⟨fun z hz => ?_, hys⟩
      rw [insertBy_eq, List.mem_orderedInsert] at hz
      rcases hz with rfl | hz
      · exact ⟨(total _ _).resolve_left hxy, fun h => absurd h hxy⟩
      · exact hy.1 z hz

/-- **Stable.**  For a total, transitive order every item may precede those after it, and items that
may precede each other stand as they stood before, whatever order that was. -/
theorem sortBy_stable {r : α → α → Prop} : ∀ {xs : List α}, xs.Pairwise r →
    (sortBy le xs).Pairwise (fun a b => le a b = true ∧ (le b a = true → r a b))
  | [], _ => List.Pairwise.nil
  | x :: xs, h => by
    obtain ⟨hx, h⟩ := List.pairwise_cons.mp h
    exact insertBy_stable total trans (fun y hy => hx y (mem_sortBy.mp hy)) (sortBy_stable h)

end Ordered
end Curation
