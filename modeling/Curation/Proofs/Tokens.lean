/-
# Masses that fit

A mass is a chain of additions of words, each of which may find that its sum does not fit.  The
chain as a whole fails exactly if the total does (`mass_eq_some_iff`, `mass_eq_none_iff`): no sum
on the way is larger than the last one.  So a mass says no more and no less than the total, which
is a number without a limit and does not depend on any order.
-/
import Mathlib.Algebra.BigOperators.Group.List.Basic
import Mathlib.Algebra.Ring.Nat
import Curation.Tokens

namespace Curation

/-! ## 1. Sums of words -/

theorem addWords_eq_some_iff {v w x : UInt64} :
    addWords v w = some x ↔ x.toNat = v.toNat + w.toNat := by
  unfold addWords
  have hx := x.toNat_lt
  have hadd := UInt64.toNat_add v w
  split
  · next hfits =>
    rw [Nat.mod_eq_of_lt hfits] at hadd
    rw [Option.some.injEq, ← UInt64.toNat_inj, hadd, eq_comm]
  · next hover =>
    rw [UInt64.size, Nat.not_lt] at hover
    exact iff_of_false nofun (by omega)

/-- **A chain of sums** is there exactly if the whole sum fits, and then it is that. -/
theorem foldlM_addWords_eq_some_iff : ∀ {ws : List UInt64} {v x : UInt64},
    ws.foldlM addWords v = some x ↔ x.toNat = v.toNat + (ws.map UInt64.toNat).sum
  | [], v, x => by
    rw [List.foldlM_nil, Option.pure_def, Option.some.injEq, ← UInt64.toNat_inj, eq_comm]
    rfl
  | w :: ws, v, x => by
    rw [List.foldlM_cons, Option.bind_eq_bind, Option.bind_eq_some_iff, List.map_cons,
      List.sum_cons]
    constructor
    · rintro ⟨y, hy, hx⟩
      rw [foldlM_addWords_eq_some_iff.mp hx, addWords_eq_some_iff.mp hy, Nat.add_assoc]
    · intro hx
      -- the first sum is no larger than the last one
      have hfits : v.toNat + w.toNat < UInt64.size := by
        have := x.toNat_lt
        rw [UInt64.size]
        omega
      have hfirst : (v + w).toNat = v.toNat + w.toNat := by
        rw [UInt64.toNat_add, Nat.mod_eq_of_lt hfits]
      refine ⟨v + w, addWords_eq_some_iff.mpr hfirst, foldlM_addWords_eq_some_iff.mpr ?_⟩
      rw [hx, hfirst, Nat.add_assoc]

namespace TokenMeter

/-! ## 2. The mass and the total -/

/-- The tokens of the live memories among some, as a number without a limit. -/
def total (meter : TokenMeter) (memories : List Memory) : Nat :=
  ((memories.filter Memory.isLive).map fun m => (meter.count m.content).toNat).sum

variable (meter : TokenMeter) {ms ms' : List Memory} {mass : UInt64}

/-- **The mass is the total**, where there is one. -/
theorem mass_eq_some_iff : meter.mass ms = some mass ↔ mass.toNat = meter.total ms := by
  unfold TokenMeter.mass
  rw [foldlM_addWords_eq_some_iff, List.map_map]
  exact iff_of_eq (congrArg _ (Nat.zero_add _))

/-- **There is a mass** exactly if the total fits a word. -/
theorem exists_mass_iff : (∃ mass, meter.mass ms = some mass) ↔ meter.total ms < 2 ^ 64 := by
  constructor
  · rintro ⟨mass, h⟩
    rw [← meter.mass_eq_some_iff.mp h]
    exact mass.toNat_lt
  · intro h
    exact ⟨UInt64.ofNat (meter.total ms),
      meter.mass_eq_some_iff.mpr (UInt64.toNat_ofNat_of_lt' h)⟩

theorem mass_eq_none_iff : meter.mass ms = none ↔ 2 ^ 64 ≤ meter.total ms := by
  rw [← Nat.not_lt, ← meter.exists_mass_iff, Option.eq_none_iff_forall_ne_some, not_exists]

theorem total_perm (h : ms.Perm ms') : meter.total ms = meter.total ms' :=
  ((h.filter _).map _).sum_nat

/-- Memories of one total have one mass. -/
theorem mass_congr (h : meter.total ms = meter.total ms') : meter.mass ms = meter.mass ms' :=
  Option.ext fun mass => by rw [meter.mass_eq_some_iff, meter.mass_eq_some_iff, h]

theorem total_cons (m : Memory) (ms : List Memory) :
    meter.total (m :: ms) =
      (if m.isLive then (meter.count m.content).toNat else 0) + meter.total ms := by
  unfold total
  cases h : m.isLive <;> simp [h]

end TokenMeter
end Curation
