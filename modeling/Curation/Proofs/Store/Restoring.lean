/-
# Restored stores

What a rollback leaves: the memories that were there are as they were, and whatever has come since
is out of sight.  Then every measurement that was taken before comes out the same, because it only
looks at live memories and does not mind their order.
-/
import Curation.Proofs.Sorting
import Curation.Proofs.Store.Undoing
import Curation.Proofs.Tokens

namespace Curation

/-! ## 1. Measuring -/

/-- What a listing looks at is the same in a memory that was restored. -/
theorem Memory.Restored.shown {m m₀ : Memory} (h : m.Restored m₀) (owner : OwnerId)
    (filter : MemoryFilter) :
    (m.owner == owner && filter.shows m) = (m₀.owner == owner && filter.shows m₀) := by
  rw [h.record]
  rfl

/-! ## 2. Restored stores -/

namespace Store

/-- **The store `s` is the store `s₀` again**, as far as an owner sees its memories of a kind. -/
structure Again (owner : OwnerId) (filter : MemoryFilter) (s s₀ : Store) : Prop where
  /-- The memories that were there stand in front. -/
  grown : s₀.ids <+: s.ids
  there : ∀ id m₀, s₀.memory? id = some m₀ → ∃ m, s.memory? id = some m ∧ m.Restored m₀
  /-- Those that have come since are not shown. -/
  hidden : ∀ id m, s₀.memory? id = none → s.memory? id = some m →
    (m.owner == owner && filter.shows m) = false

variable {owner : OwnerId} {filter : MemoryFilter} {s s₀ : Store}

/-- The memories that were there, one by one. -/
theorem forall₂_of_ids : ∀ {ms ms₀ : List Memory},
    ms.map (·.id) = ms₀.map (·.id) → (∀ m ∈ ms, ∀ m₀ ∈ ms₀, m.id = m₀.id → m.Restored m₀) →
    List.Forall₂ Memory.Restored ms ms₀
  | [], [], _, _ => .nil
  | m :: ms, m₀ :: ms₀, hid, h => by
    obtain ⟨h₁, h₂⟩ := List.cons.inj hid
    exact .cons (h m List.mem_cons_self m₀ List.mem_cons_self h₁)
      (forall₂_of_ids h₂ fun x hx y hy =>
        h x (List.mem_cons_of_mem _ hx) y (List.mem_cons_of_mem _ hy))

theorem total_of_restored (meter : TokenMeter) {ms ms₀ : List Memory}
    (h : List.Forall₂ Memory.Restored ms ms₀) (owner : OwnerId) (filter : MemoryFilter) :
    meter.total (ms.filter fun m => m.owner == owner && filter.shows m) =
      meter.total (ms₀.filter fun m => m.owner == owner && filter.shows m) := by
  induction h with
  | nil => rfl
  | @cons m m₀ ms ms₀ h _ ih =>
    have hc : m.content = m₀.content := by rw [h.record]
    have hl : m.isLive = m₀.isLive := by rw [h.record]; rfl
    simp only [List.filter_cons, h.shown]
    split
    · rw [TokenMeter.total_cons, TokenMeter.total_cons, ih, hc, hl]
    · exact ih

/-- **A restored store measures the same.** -/
theorem Again.mass (h : Again owner filter s s₀) (hk₀ : s₀.Keyed) (hk : s.Keyed)
    (meter : TokenMeter) :
    meter.mass (s.list owner filter) = meter.mass (s₀.list owner filter) := by
  refine meter.mass_congr ?_
  unfold list
  rw [meter.total_perm (sortBy_perm _ _), meter.total_perm (sortBy_perm _ _)]
  obtain ⟨rest, hrest⟩ := h.grown
  obtain ⟨ms, new, hms, hold, -⟩ := List.map_eq_append_iff.mp hrest.symm
  have hr : List.Forall₂ Memory.Restored ms s₀.memories := by
    refine forall₂_of_ids hold fun m hm m₀ hm₀ hid => ?_
    obtain ⟨m', hm', hre⟩ := h.there m₀.id m₀ (hk₀.memory? hm₀)
    have hf := hk.memory? (hms ▸ List.mem_append_left _ hm)
    rw [hid, hm'] at hf
    cases hf
    exact hre
  have hnew : new.filter (fun m => m.owner == owner && filter.shows m) = [] := by
    refine List.filter_eq_nil_iff.mpr fun m hm hs => ?_
    have hms' : m ∈ s.memories := hms ▸ List.mem_append_right _ hm
    have hnone : s₀.memory? m.id = none := by
      rw [← Option.not_isSome_iff_eq_none, ← mem_ids_iff]
      intro hid
      obtain ⟨m₁, hm₁, he⟩ := List.mem_map.mp (hold ▸ hid)
      have hnd := hk
      unfold Keyed ids at hnd
      rw [hms, List.map_append, List.nodup_append] at hnd
      exact hnd.2.2 _ (List.mem_map_of_mem hm₁) _ (List.mem_map_of_mem hm) he
    rw [h.hidden m.id m hnone (hk.memory? hms')] at hs
    cases hs
  rw [hms, List.filter_append, hnew, List.append_nil]
  exact total_of_restored meter hr owner filter

end Store
end Curation
