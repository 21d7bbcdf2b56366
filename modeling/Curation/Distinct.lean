/-
# Distinct items

A list without its repetitions, each item standing where it came first.
-/

namespace Curation

/-- The items of a list, each once. -/
def distinct {α : Type} [DecidableEq α] : List α → List α
  | [] => []
  | x :: xs => x :: (distinct xs).filter (· ≠ x)

@[simp] theorem mem_distinct {α : Type} [DecidableEq α] {x : α} :
    ∀ {xs : List α}, x ∈ distinct xs ↔ x ∈ xs
  | [] => by simp [distinct]
  | y :: ys => by
    have ih : x ∈ distinct ys ↔ x ∈ ys := mem_distinct
    by_cases h : x = y
    · simp [distinct, h]
    · simp [distinct, h, ih]

theorem nodup_distinct {α : Type} [DecidableEq α] : ∀ xs : List α, (distinct xs).Nodup
  | [] => List.nodup_nil
  | x :: xs => by
    refine List.nodup_cons.mpr ⟨by simp, ?_⟩
    exact (nodup_distinct xs).filter _

/-- What comes later adds what did not stand before. -/
theorem distinct_append_filter {α : Type} [DecidableEq α] {ys : List α} :
    ∀ {xs : List α}, distinct (xs ++ ys) = distinct xs ++ (distinct ys).filter (· ∉ xs)
  | [] => (List.filter_eq_self.mpr fun _ _ => decide_eq_true List.not_mem_nil).symm
  | x :: xs => by
    have hys : ((distinct ys).filter (· ∉ xs)).filter (· ≠ x) =
        (distinct ys).filter (· ∉ x :: xs) := by
      rw [List.filter_filter]
      refine List.filter_congr fun y _ => ?_
      simp
    rw [List.cons_append, distinct, distinct, distinct_append_filter, List.filter_append, hys,
      List.cons_append]

/-- Items that do not repeat those before them. -/
theorem distinct_append {α : Type} [DecidableEq α] {xs ys : List α} (h : ∀ x ∈ xs, x ∉ ys) :
    distinct (xs ++ ys) = distinct xs ++ distinct ys := by
  have hys : (distinct ys).filter (· ∉ xs) = distinct ys :=
    List.filter_eq_self.mpr fun y hy => decide_eq_true fun hx => h y hx (mem_distinct.mp hy)
  rw [distinct_append_filter, hys]

/-- One item over and over. -/
theorem distinct_of_all_eq {α : Type} [DecidableEq α] {x : α} :
    ∀ {xs : List α}, (∀ y ∈ xs, y = x) → xs ≠ [] → distinct xs = [x]
  | [], _, h => absurd rfl h
  | y :: ys, h, _ => by
    obtain rfl := h y List.mem_cons_self
    have hys : (distinct ys).filter (· ≠ y) = [] := by
      refine List.filter_eq_nil_iff.mpr fun z hz => ?_
      simpa using h z (List.mem_cons_of_mem _ (mem_distinct.mp hz))
    rw [distinct, hys]

/-- Blocks of one item each. -/
theorem distinct_flatMap {α β : Type} [DecidableEq β] {f : α → List β} {g : α → β} :
    ∀ {xs : List α}, (∀ x ∈ xs, ∀ y ∈ f x, y = g x) → (xs.map g).Nodup →
      distinct (xs.flatMap f) = (xs.filter fun x => !(f x).isEmpty).map g
  | [], _, _ => rfl
  | x :: xs, h, hd => by
    obtain ⟨hx, hd⟩ := List.nodup_cons.mp hd
    have ih := distinct_flatMap (fun z hz => h z (List.mem_cons_of_mem _ hz)) hd
    have hapart : ∀ y ∈ f x, y ∉ xs.flatMap f := by
      intro y hy hm
      obtain ⟨z, hz, hyz⟩ := List.mem_flatMap.mp hm
      refine hx (List.mem_map.mpr ⟨z, hz, ?_⟩)
      rw [← h z (List.mem_cons_of_mem _ hz) y hyz, h x List.mem_cons_self y hy]
    rw [List.flatMap_cons, distinct_append hapart, ih]
    by_cases hnil : f x = []
    · rw [hnil, List.filter_cons_of_neg (by simp [hnil])]
      rfl
    · rw [distinct_of_all_eq (h x List.mem_cons_self) hnil,
        List.filter_cons_of_pos (by simp [hnil])]
      rfl
end Curation
