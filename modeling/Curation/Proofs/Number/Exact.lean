/-
# How far rounding goes

A magnitude that is rounded keeps 53 bits.  One that needs no more is not moved at all, so the rank
of a magnitude is found again (`ofUnits_units`) and a natural number up to `2 ^ 53` is a double
(`units_rankOf`).  Any other is moved by less than one part in `2 ^ 53` (`units_ofUnits_le`).

Everything is said of natural numbers of units, the unit being `2 ^ (-1074)`.
-/
import Mathlib.Tactic.Ring
import Curation.Proofs.Number.Order

namespace Curation

namespace Rank

/-! ## 1. Magnitudes of rounded magnitudes -/

/-- The denominator and the numerator may have a common factor. -/
theorem ofUnits_mul_right {n d c : Nat} (hd : 0 < d) (hc : 0 < c) :
    ofUnits (n * c) (d * c) = ofUnits n d := by
  have hdc := Nat.mul_pos hd hc
  have hcross : n * c * d = n * (d * c) := by ring
  exact le_antisymm (ofUnits_mono hdc hd hcross.le) (ofUnits_mono hd hdc hcross.ge)

/-- What remains of a magnitude, 53 bits of it, counts steps of its block.  A carry makes one more
bit, and the block is then the next one. -/
theorem units_steps {shift steps : Nat} (hlow : shift = 0 ∨ 2 ^ 52 ≤ steps)
    (hhigh : steps ≤ 2 ^ 53) : units (shift * 2 ^ 52 + steps) = steps * 2 ^ shift := by
  by_cases hfirst : steps < 2 ^ 52
  · obtain rfl : shift = 0 := hlow.resolve_right (Nat.not_le.mpr hfirst)
    rw [Nat.zero_mul, Nat.zero_add, units_of_lt hfirst, pow_zero, Nat.mul_one]
  · rcases hhigh.eq_or_lt with rfl | hcarry
    · have hrank : shift * 2 ^ 52 + 2 ^ 53 = (shift + 1 + 1) * 2 ^ 52 + 0 := by ring
      rw [hrank, units_block (Nat.two_pow_pos 52)]
      ring
    · have hrank : shift * 2 ^ 52 + steps = (shift + 1) * 2 ^ 52 + (steps - 2 ^ 52) := by omega
      rw [hrank, units_block (by omega), Nat.add_sub_cancel' (Nat.not_lt.mp hfirst)]

/-- The steps of a magnitude. -/
def steps (n : Nat) : Nat := roundDiv n (2 ^ shift n)

theorem steps_bounds (n : Nat) : (shift n = 0 ∨ 2 ^ 52 ≤ steps n) ∧ steps n ≤ 2 ^ 53 := by
  have hpos : 0 < 2 ^ shift n := Nat.two_pow_pos _
  refine ⟨?_, roundDiv_le hpos (lt_of_shift n).le⟩
  rcases Nat.eq_zero_or_pos (shift n) with hzero | hshift
  · exact .inl hzero
  · exact .inr (le_roundDiv hpos (le_of_shift hshift))

theorem ofUnits_one (n : Nat) : ofUnits n 1 = min (shift n * 2 ^ 52 + steps n) infinite := by
  show min (shift (n / 1) * 2 ^ 52 + roundDiv n (1 * 2 ^ shift (n / 1))) infinite = _
  rw [Nat.div_one, Nat.one_mul, steps]

/-- A magnitude is rounded to a number of its steps; one past infinity is held there. -/
theorem units_ofUnits (n : Nat) : units (ofUnits n 1) ≤ steps n * 2 ^ shift n := by
  obtain ⟨hlow, hhigh⟩ := steps_bounds n
  rw [← units_steps hlow hhigh, ofUnits_one]
  exact units_mono (Nat.min_le_left _ _)

theorem units_ofUnits_of_lt {n : Nat} (h : ofUnits n 1 < infinite) :
    units (ofUnits n 1) = steps n * 2 ^ shift n := by
  obtain ⟨hlow, hhigh⟩ := steps_bounds n
  rw [← units_steps hlow hhigh, ofUnits_one, Nat.min_eq_left]
  rw [ofUnits_one] at h
  omega

/-- **Rounding adds less than one part in `2 ^ 53`.** -/
theorem units_ofUnits_le (n : Nat) : 2 ^ 53 * units (ofUnits n 1) ≤ (2 ^ 53 + 1) * n := by
  have hpos : 0 < 2 ^ shift n := Nat.two_pow_pos _
  have hnear : 2 * (steps n * 2 ^ shift n) ≤ 2 * n + 2 ^ shift n := (roundDiv_near n _ hpos).1
  have hunits := units_ofUnits n
  rcases Nat.eq_zero_or_pos (shift n) with hzero | hshift
  · -- nothing was dropped
    have hexact : steps n * 2 ^ shift n = n := by
      rw [steps, hzero, pow_zero, Nat.mul_one, ← Nat.mul_one n, roundDiv_mul n 1 Nat.one_pos,
        Nat.mul_one]
    rw [hexact] at hunits
    omega
  · have hle := le_of_shift hshift
    omega

theorem shift_le {m e : Nat} (hm : m < 2 ^ 53) : shift (m * 2 ^ e) ≤ e := by
  have hpos : 0 < 2 ^ e := Nat.two_pow_pos e
  unfold shift
  rcases Nat.eq_zero_or_pos m with rfl | hmpos
  · rw [Nat.zero_mul, Nat.log2_zero]
    exact Nat.zero_le _
  · have hlt : m * 2 ^ e < 2 ^ (53 + e) := by
      rw [pow_add]
      exact Nat.mul_lt_mul_of_pos_right hm hpos
    have hlog := (Nat.log2_lt (Nat.mul_pos hmpos hpos).ne').mpr hlt
    omega

/-- **A magnitude with no more than 53 bits is not moved.** -/
theorem steps_mul {m e : Nat} (hm : m ≤ 2 ^ 53) :
    steps (m * 2 ^ e) * 2 ^ shift (m * 2 ^ e) = m * 2 ^ e := by
  have hshorter : ∀ {m e : Nat}, m < 2 ^ 53 →
      steps (m * 2 ^ e) * 2 ^ shift (m * 2 ^ e) = m * 2 ^ e := by
    intro m e hm
    obtain ⟨q, hq⟩ := (Nat.pow_dvd_pow 2 (shift_le (e := e) hm)).trans (Nat.dvd_mul_left _ m)
    rw [steps]
    generalize shift (m * 2 ^ e) = s at hq ⊢
    rw [hq, Nat.mul_comm (2 ^ s) q, roundDiv_mul q _ (Nat.two_pow_pos s)]
  rcases hm.lt_or_eq with hlt | rfl
  · exact hshorter hlt
  · have hcarry : 2 ^ 53 * 2 ^ e = 2 ^ 52 * 2 ^ (e + 1) := by ring
    rw [hcarry]
    exact hshorter (by omega)

/-- **A rank is found again** from its magnitude. -/
theorem ofUnits_units {r : Nat} (h : r ≤ infinite) : ofUnits (units r) 1 = r := by
  rw [ofUnits_one]
  by_cases hr : r < 2 ^ 52
  · have hsteps := steps_mul (m := r) (e := 0) (by omega)
    have hshift := Nat.le_zero.mp (shift_le (m := r) (e := 0) (by omega))
    rw [pow_zero, Nat.mul_one] at hsteps hshift
    rw [hshift, pow_zero, Nat.mul_one] at hsteps
    rw [units_of_lt hr, hshift, hsteps, Nat.zero_mul, Nat.zero_add, Nat.min_eq_left h]
  · obtain ⟨e, k, hk, rfl⟩ : ∃ e k, k < 2 ^ 52 ∧ r = (e + 1) * 2 ^ 52 + k :=
      ⟨r / 2 ^ 52 - 1, r % 2 ^ 52, by omega, by omega⟩
    have hpos : 0 < 2 ^ e := Nat.two_pow_pos e
    have hshift : shift ((2 ^ 52 + k) * 2 ^ e) = e := by
      refine le_antisymm (shift_le (by omega)) ?_
      have hle : 2 ^ (52 + e) ≤ (2 ^ 52 + k) * 2 ^ e := by
        rw [pow_add]
        exact Nat.mul_le_mul_right _ (Nat.le_add_right ..)
      have hlog := (Nat.le_log2 (Nat.mul_pos (by omega) hpos).ne').mpr hle
      unfold shift
      omega
    have hsteps := steps_mul (m := 2 ^ 52 + k) (e := e) (by omega)
    rw [hshift] at hsteps
    rw [units_block hk, hshift, Nat.eq_of_mul_eq_mul_right hpos hsteps]
    refine Eq.trans (congrArg (min · infinite) ?_) (Nat.min_eq_left h)
    omega

end Rank

namespace Binary64

/-! ## 2. Whole numbers -/

/-- **A natural number of 53 bits is a double.** -/
theorem units_rankOf {n : Nat} (h : n ≤ 2 ^ 53) :
    Rank.units (rankOf n) = n * twoTo Rank.unitExponent := by
  have hlt := rankOf_lt_of_le (h.trans (by decide))
  rw [rankOf] at hlt ⊢
  generalize Rank.unitExponent = e at hlt ⊢
  rw [Rank.units_ofUnits_of_lt hlt]
  exact Rank.steps_mul h

/-- A rank is not passed by a number whose magnitude is not larger. -/
theorem rankOf_le_of_units {n r : Nat} (hr : r ≤ Rank.infinite)
    (h : n * twoTo Rank.unitExponent ≤ Rank.units r) : rankOf n ≤ r := by
  rw [← Rank.ofUnits_units hr]
  exact Rank.ofUnits_mono Nat.one_pos Nat.one_pos (Nat.mul_le_mul_right 1 h)

/-! ## 3. Words cut from doubles -/

theorem unit_pos : 0 < twoTo Rank.unitExponent := twoTo_pos _

section Words

variable {r q : Fin (Rank.infinite + 1)}

theorem toNat_floorWord (r : Fin (Rank.infinite + 1)) :
    (floorWord (.number false r)).toNat =
      if r.val < Rank.infinite then
        min (Rank.units r.val / twoTo Rank.unitExponent) (UInt64.size - 1)
      else UInt64.size - 1 := by
  have hlast : UInt64.size - 1 < UInt64.size := by decide
  rw [floorWord]
  split
  · exact UInt64.toNat_ofNat_of_lt' ((Nat.min_le_right _ _).trans_lt hlast)
  · exact UInt64.toNat_ofNat_of_lt' hlast

theorem toNat_ceilWord (r : Fin (Rank.infinite + 1)) :
    (ceilWord (.number false r)).toNat =
      if r.val < Rank.infinite then
        min ((Rank.units r.val + (twoTo Rank.unitExponent - 1)) / twoTo Rank.unitExponent)
          (UInt64.size - 1)
      else UInt64.size - 1 := by
  have hlast : UInt64.size - 1 < UInt64.size := by decide
  rw [ceilWord]
  split
  · exact UInt64.toNat_ofNat_of_lt' ((Nat.min_le_right _ _).trans_lt hlast)
  · exact UInt64.toNat_ofNat_of_lt' hlast

/-- What is rounded down is not above, whether or not 64 bits held it. -/
theorem floorWord_units_le (r : Fin (Rank.infinite + 1)) :
    (floorWord (.number false r)).toNat * twoTo Rank.unitExponent ≤ Rank.units r.val := by
  rw [toNat_floorWord]
  split
  · exact (Nat.mul_le_mul_right _ (Nat.min_le_left _ _)).trans (Nat.div_mul_le_self ..)
  · next h =>
    have hbound : (UInt64.size - 1) * twoTo Rank.unitExponent ≤ Rank.units Rank.infinite := by
      decide +kernel
    exact hbound.trans (Rank.units_mono (Nat.not_lt.mp h))

/-- **A larger double is not rounded up to a smaller word.** -/
theorem ceilWord_mono (h : r.val ≤ q.val) :
    (ceilWord (.number false r)).toNat ≤ (ceilWord (.number false q)).toNat := by
  rw [toNat_ceilWord, toNat_ceilWord]
  by_cases hq : q.val < Rank.infinite
  · rw [if_pos (h.trans_lt hq), if_pos hq]
    exact min_le_min_right _
      (Nat.div_le_div_right (Nat.add_le_add_right (Rank.units_mono h) _))
  · rw [if_neg hq]
    split
    · exact Nat.min_le_right _ _
    · exact le_rfl

/-- **What is not above a whole number is not rounded up past it.** -/
theorem ceilWord_le {n : Nat} (hn : n ≤ 2 ^ 53) (h : r.val ≤ rankOf n) :
    (ceilWord (.number false r)).toNat ≤ n := by
  have hpos := unit_pos
  have hr : r.val < Rank.infinite := h.trans_lt (rankOf_lt_of_le (hn.trans (by decide)))
  have hunits := Rank.units_mono h
  rw [units_rankOf hn] at hunits
  rw [toNat_ceilWord, if_pos hr]
  refine (Nat.min_le_left _ _).trans ?_
  generalize twoTo Rank.unitExponent = unit at *
  rw [← Nat.lt_succ_iff, Nat.div_lt_iff_lt_mul hpos, Nat.succ_mul]
  omega

end Words

end Binary64
end Curation
