/-
# When everything must be kept

Under the highest threshold the breaker is meant to trip on any loss at all.  What it compares are
doubles, which keep 53 bits of a mass.  The division hides nothing: of two doubles that differ, the
smaller divided by the larger is rounded to less than one (`Binary64.quotient_lt_one_iff`).  What
hides a loss is that the masses are rounded before they are divided.

So the breaker trips exactly if less is left and the two masses are different doubles
(`evaluate_whole_iff`).  Masses up to `2 ^ 53` are doubles themselves and no loss of theirs goes
unseen; of a larger mass, up to one part in `2 ^ 52` may be lost unseen.
-/
import Curation.Proofs.Number.Exact
import Curation.Proofs.Retention

namespace Curation

/-! ## 1. Masses that are the same double -/

namespace Rank

/-- **Two magnitudes of the same rank** lie apart by no more than one part in `2 ^ 52` of the larger
one, if it has bits to be dropped: each is rounded by half a step of its block. -/
theorem apart_of_ofUnits_eq {n m : Nat} (h : ofUnits n 1 = ofUnits m 1) (hle : n ≤ m)
    (hlarge : 2 ^ 53 ≤ m) (hm : ofUnits m 1 < infinite) : 2 ^ 52 * (m - n) ≤ m := by
  have hn : ofUnits n 1 < infinite := by rwa [h]
  have hsteps : steps n * 2 ^ shift n = steps m * 2 ^ shift m := by
    rw [← units_ofUnits_of_lt hn, ← units_ofUnits_of_lt hm, h]
  have hnear : 2 * (steps n * 2 ^ shift n) ≤ 2 * n + 2 ^ shift n :=
    (roundDiv_near n _ (Nat.two_pow_pos _)).1
  have hnear' : 2 * m ≤ 2 * (steps m * 2 ^ shift m) + 2 ^ shift m :=
    (roundDiv_near m _ (Nat.two_pow_pos _)).2
  have hstep : 2 ^ shift n ≤ 2 ^ shift m := Nat.pow_le_pow_right Nat.two_pos (shift_mono hle)
  have hshift : 0 < shift m := by
    have hlt := lt_of_shift m
    refine Nat.pos_of_ne_zero fun hzero => ?_
    rw [hzero, pow_zero, Nat.mul_one] at hlt
    omega
  have hlow : 2 ^ 52 * 2 ^ shift m ≤ m := le_of_shift hshift
  omega

end Rank

namespace Binary64

variable {n m : Nat}

theorem ofNat_eq_iff : ofNat n = ofNat m ↔ rankOf n = rankOf m := by
  rw [ofNat_eq, ofNat_eq]
  simp

theorem rankOf_lt_iff : rankOf n < rankOf m ↔ n < m ∧ ofNat n ≠ ofNat m := by
  rw [Ne, ofNat_eq_iff]
  constructor
  · exact fun h => ⟨rankOf_mono.reflect_lt h, h.ne⟩
  · exact fun ⟨h, hne⟩ => (rankOf_mono h.le).lt_of_ne hne

/-- **A double tells whole numbers of 53 bits apart.** -/
theorem ofNat_inj (hn : n ≤ 2 ^ 53) (hm : m ≤ 2 ^ 53) : ofNat n = ofNat m ↔ n = m := by
  refine ⟨fun h => ?_, congrArg ofNat⟩
  have hunits := congrArg Rank.units (ofNat_eq_iff.mp h)
  rw [units_rankOf hn, units_rankOf hm] at hunits
  exact Nat.eq_of_mul_eq_mul_right unit_pos hunits

/-- Two numbers that are the same double lie as close together. -/
theorem apart_of_ofNat_eq (h : ofNat n = ofNat m) (hle : n ≤ m) (hpos : 0 < m)
    (hm : rankOf m < Rank.infinite) : 2 ^ 52 * (m - n) ≤ m := by
  have hunit : twoTo 53 ≤ twoTo Rank.unitExponent := twoTo_le (by decide)
  have hscaled := Rank.apart_of_ofUnits_eq (ofNat_eq_iff.mp h) (Nat.mul_le_mul_right _ hle)
    (hunit.trans (Nat.le_mul_of_pos_left _ hpos)) hm
  rw [← Nat.sub_mul, ← Nat.mul_assoc] at hscaled
  exact Nat.le_of_mul_le_mul_right hscaled unit_pos

end Binary64

/-! ## 2. The breaker -/

/-- The highest threshold, under which everything must be kept. -/
def Threshold.whole : Threshold := ⟨.one, by decide +kernel, by decide +kernel⟩

variable {pre : UInt64}

/-- **Under the highest threshold the breaker compares doubles.** -/
theorem evaluate_whole (hpre : 0 < pre) (post : UInt64) :
    (evaluate pre post .whole).isTripped =
      decide (Binary64.rankOf post.toNat < Binary64.rankOf pre.toNat) := by
  have hwhole : Threshold.whole.value = .number false
      ⟨Binary64.rankOf 1, Nat.lt_succ_of_le (Binary64.rankOf_le 1)⟩ := Binary64.ofNat_eq 1
  rw [evaluate_isTripped (UInt64.lt_iff_toNat_lt.mp hpre) hwhole]
  exact decide_eq_decide.mpr (Binary64.quotient_lt_one_iff (units_rankOf_pos hpre))

/-- **Any loss that the doubles show trips the breaker**, under the highest threshold, and nothing
else does.  Of masses up to `2 ^ 53` that is any loss; of larger ones it is any loss of more than
one part in `2 ^ 52`. -/
theorem evaluate_whole_iff (hpre : 0 < pre) (post : UInt64) :
    ((evaluate pre post .whole).isTripped = true ↔
      post < pre ∧ Binary64.ofNat post.toNat ≠ Binary64.ofNat pre.toNat) ∧
    (pre.toNat ≤ 2 ^ 53 → ((evaluate pre post .whole).isTripped = true ↔ post < pre)) ∧
    (pre.toNat < 2 ^ 52 * (pre.toNat - post.toNat) →
      (evaluate pre post .whole).isTripped = true) := by
  have hiff : (evaluate pre post .whole).isTripped = true ↔
      post < pre ∧ Binary64.ofNat post.toNat ≠ Binary64.ofNat pre.toNat := by
    rw [evaluate_whole hpre, decide_eq_true_iff, Binary64.rankOf_lt_iff, UInt64.lt_iff_toNat_lt]
  refine ⟨hiff, fun hexact => hiff.trans (and_iff_left_of_imp fun hless => ?_), fun hloss => ?_⟩
  · have hlt : post.toNat < pre.toNat := UInt64.lt_iff_toNat_lt.mp hless
    exact fun h => hlt.ne ((Binary64.ofNat_inj (hlt.le.trans hexact) hexact).mp h)
  · have hlt : post.toNat < pre.toNat := by omega
    refine hiff.mpr ⟨UInt64.lt_iff_toNat_lt.mpr hlt, fun h => ?_⟩
    have hapart := Binary64.apart_of_ofNat_eq h hlt.le hlt.pos (Binary64.rankOf_lt pre)
    exact absurd hapart (Nat.not_le.mpr hloss)

/-- One token of `2 ^ 53 + 1` is lost and not seen; the next one that is lost is. -/
theorem evaluate_whole_iff_unseen :
    let pre : UInt64 := 9007199254740993
    0 < pre ∧ pre - 1 < pre ∧ (evaluate pre (pre - 1) .whole).isTripped = false ∧
      (evaluate pre (pre - 2) .whole).isTripped = true := by
  intro pre
  have hpre : 0 < pre := by decide
  have hsame : Binary64.ofNat (pre - 1).toNat = Binary64.ofNat pre.toNat := by decide +kernel
  have hother : Binary64.ofNat (pre - 2).toNat ≠ Binary64.ofNat pre.toNat := by decide +kernel
  refine ⟨hpre, by decide, Bool.eq_false_iff.mpr fun h => ?_, ?_⟩
  · exact ((evaluate_whole_iff hpre (pre - 1)).1.mp h).2 hsame
  · exact (evaluate_whole_iff hpre (pre - 2)).1.mpr ⟨by decide, hother⟩

end Curation
