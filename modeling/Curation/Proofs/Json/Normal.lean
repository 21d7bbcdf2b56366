/-
# Normal forms are fixed

The normal form of a value is its own normal form.  So a value and its normal form have the same
canonical text, and a digest that was taken of the one fits the other.
-/
import Curation.Json.Canonical
import Curation.Proofs.Sorting

namespace Curation

namespace Json

/-! ## 1. Sorting what is sorted -/

theorem memberLe_total (a b : String × Json) : memberLe a b = true ∨ memberLe b a = true := by
  simpa [memberLe] using String.le_total a.1 b.1

theorem memberLe_trans (a b c : String × Json) (h : memberLe a b = true)
    (h' : memberLe b c = true) : memberLe a c = true := by
  simp only [memberLe, decide_eq_true_eq] at *
  exact String.le_trans h h'

theorem sortBy_memberLe_idem (ms : List (String × Json)) :
    sortBy memberLe (sortBy memberLe ms) = sortBy memberLe ms :=
  sortBy_of_pairwise (sortBy_pairwise memberLe_total memberLe_trans ms)

/-! ## 2. The normal form of a normal form -/

@[simp] theorem isNull_normal (j : Json) : j.normal.isNull = j.isNull := by
  cases j <;> simp [normal, isNull]

/-- Members none of which is null, all of them in normal form, are in normal form. -/
theorem normalMembers_of_normal : ∀ {ms : List (String × Json)},
    (∀ m ∈ ms, m.2.isNull = false ∧ m.2.normal = m.2) → normalMembers ms = ms
  | [], _ => by simp [normalMembers]
  | (name, value) :: ms, h => by
    obtain ⟨hn, hv⟩ := h _ List.mem_cons_self
    have ih := normalMembers_of_normal fun m hm => h m (List.mem_cons_of_mem _ hm)
    simp only at hn hv
    simp [normalMembers, hn, hv, ih]

mutual

/-- **The normal form is fixed.** -/
theorem normal_normal : ∀ j : Json, j.normal.normal = j.normal
  | .null | .bool _ | .int _ | .real _ | .str _ => by simp [normal]
  | .arr items => by simp [normal, normalItems_normalItems items]
  | .obj ms => by
    have h : normalMembers (sortBy memberLe (normalMembers ms))
        = sortBy memberLe (normalMembers ms) :=
      normalMembers_of_normal fun m hm => normal_of_mem ms m (mem_sortBy.mp hm)
    simp only [normal]
    rw [h, sortBy_memberLe_idem]

theorem normalItems_normalItems : ∀ items : List Json,
    normalItems (normalItems items) = normalItems items
  | [] => by simp [normalItems]
  | item :: items => by
    simp [normalItems, normal_normal item, normalItems_normalItems items]

/-- What the normal form of an object holds is not null and in normal form. -/
theorem normal_of_mem : ∀ (ms : List (String × Json)) (m : String × Json),
    m ∈ normalMembers ms → m.2.isNull = false ∧ m.2.normal = m.2
  | [], m, hm => by simp [normalMembers] at hm
  | (name, value) :: ms, m, hm => by
    cases hn : value.isNull with
    | true =>
      simp only [normalMembers, hn, if_true] at hm
      exact normal_of_mem ms m hm
    | false =>
      simp only [normalMembers, hn, Bool.false_eq_true, if_false, List.mem_cons] at hm
      rcases hm with rfl | hm
      · exact ⟨by simp [hn], normal_normal value⟩
      · exact normal_of_mem ms m hm

end

theorem normalItems_map {α : Type} (f : α → Json) : ∀ xs : List α,
    normalItems (xs.map f) = xs.map fun x => (f x).normal
  | [] => by simp [normalItems]
  | x :: xs => by simp [normalItems, normalItems_map f xs]

/-- A value and its normal form have one canonical text. -/
theorem canonical_normal (j : Json) : j.normal.canonical = j.canonical := by
  rw [canonical, normal_normal, canonical]

end Json
end Curation
