/-
# The breaker is monotone

The share that is left is rounded three times, once for each mass and once for the quotient, and
then compared strictly.  Each rounding keeps the order, so the share does too: where a loss trips
the breaker, a larger loss under a threshold at least as high does not get past it
(`evaluate_monotone`).

What is compared is always a number.  A mass that is not zero is at least one as a double, and no
mass is more than `2 ^ 64`, so the quotient stays far below infinity.
-/
import Curation.Proofs.Number.Order

namespace Curation

open Binary64 (rankOf)

/-! ## 1. The share as a rank -/

/-- The share of a mass that is left, as a rank. -/
def shareRank (pre post : UInt64) : Nat :=
  Rank.ofUnits (Rank.units (rankOf post.toNat) * twoTo Rank.unitExponent)
    (Rank.units (rankOf pre.toNat))

variable {pre pre' post post' : UInt64}

theorem units_rankOf_pos (hpre : 0 < pre) : 0 < Rank.units (rankOf pre.toNat) :=
  Binary64.units_pos (Binary64.rankOf_pos (UInt64.lt_iff_toNat_lt.mp hpre))

/-- **A larger loss leaves no larger share.** -/
theorem shareRank_mono (hpos : 0 < pre) (hpre : pre ≤ pre') (hpost : post' ≤ post) :
    shareRank pre' post' ≤ shareRank pre post := by
  have hpre' : Rank.units (rankOf pre.toNat) ≤ Rank.units (rankOf pre'.toNat) :=
    Rank.units_mono (Binary64.rankOf_mono (UInt64.le_iff_toNat_le.mp hpre))
  have hpost' : Rank.units (rankOf post'.toNat) ≤ Rank.units (rankOf post.toNat) :=
    Rank.units_mono (Binary64.rankOf_mono (UInt64.le_iff_toNat_le.mp hpost))
  have hden := units_rankOf_pos hpos
  refine Rank.ofUnits_mono (hden.trans_le hpre') hden ?_
  exact Nat.mul_le_mul (Nat.mul_le_mul_right _ hpost') hpre'

/-- **A share is a number**: it is at most that of the largest mass, where one was before. -/
theorem shareRank_lt (hpos : 0 < pre) : shareRank pre post < Rank.infinite := by
  have hone : (1 : UInt64) ≤ pre := UInt64.le_iff_toNat_le.mpr (UInt64.lt_iff_toNat_lt.mp hpos)
  have hlast : post ≤ UInt64.ofNat (UInt64.size - 1) :=
    UInt64.le_iff_toNat_le.mpr (Nat.le_of_lt_succ post.toNat_lt)
  have hbound : shareRank 1 (UInt64.ofNat (UInt64.size - 1)) < Rank.infinite := by decide +kernel
  exact (shareRank_mono (by decide) hone hlast).trans_lt hbound

theorem retained_eq_shareRank (hpos : 0 < pre) (post : UInt64) :
    retained pre post = Binary64.ofRank false (shareRank pre post) := by
  obtain ⟨hlt, h⟩ := retained_eq (UInt64.lt_iff_toNat_lt.mp hpos) post
  rw [h, shareRank, Binary64.ofRank_of_le (Nat.le_of_lt_succ hlt)]

/-! ## 2. The breaker -/

/-- **The breaker is monotone.**  A larger loss under a threshold at least as high trips it too.
It holds where nothing was lost, it trips where everything was, and the share that it reports is
neither infinite nor undefined. -/
theorem evaluate_monotone :
    (∀ {pre pre' post post' : UInt64} {t t' : Threshold}, 0 < pre → pre ≤ pre' → post' ≤ post →
      t.value.le t'.value = true → (evaluate pre post t).isTripped = true →
        (evaluate pre' post' t').isTripped = true) ∧
    (∀ {pre post : UInt64}, pre ≤ post → ∀ t, (evaluate pre post t).isTripped = false) ∧
    (∀ {pre : UInt64}, 0 < pre → ∀ t, (evaluate pre 0 t).isTripped = true) ∧
    (∀ (pre post : UInt64) (t : Threshold) (r : Binary64),
      (evaluate pre post t).ratio = some r → r.isFinite = true) := by
  refine ⟨?_, fun h => evaluate_of_le (UInt64.le_iff_toNat_le.mp h),
    fun h => evaluate_of_zero (UInt64.lt_iff_toNat_lt.mp h), ?_⟩
  · intro pre pre' post post' t t' hpos hpre hpost hle htrip
    obtain ⟨q, hq, -, -⟩ := t.rank
    obtain ⟨q', hq', -, -⟩ := t'.rank
    rw [hq, hq', Binary64.le_number, decide_eq_true_iff] at hle
    have hsome : 0 < pre.toNat := UInt64.lt_iff_toNat_lt.mp hpos
    have hsome' : 0 < pre'.toNat := hsome.trans_le (UInt64.le_iff_toNat_le.mp hpre)
    rw [evaluate_isTripped hsome hq, decide_eq_true_iff] at htrip
    rw [evaluate_isTripped hsome' hq', decide_eq_true_iff]
    exact ((shareRank_mono hpos hpre hpost).trans_lt htrip).trans_le hle
  · intro pre post t r hr
    by_cases hzero : pre = 0
    · rw [evaluate, if_pos hzero] at hr
      cases hr
    · have hpos : 0 < pre := UInt64.pos_iff_ne_zero.mpr hzero
      have hshare : r = retained pre post := by
        rw [evaluate, if_neg hzero] at hr
        dsimp only at hr
        split at hr <;> exact (Option.some.inj hr).symm
      have hlt : shareRank pre post < Rank.infinite := shareRank_lt hpos
      rw [hshare, retained_eq_shareRank hpos, Binary64.ofRank_of_le hlt.le]
      exact decide_eq_true hlt

/-- Masses that no double tells apart: the larger loss is seen as the same, and trips. -/
theorem evaluate_monotone_rounded :
    let third : Threshold := ⟨.ofRatio false 1 3, by decide +kernel, by decide +kernel⟩
    let pre : UInt64 := 18446744073709551614
    let post : UInt64 := 6148914691236516352
    (0 < pre ∧ pre ≤ pre + 1 ∧ post - 1 ≤ post ∧ third.value.le Threshold.standard.value = true ∧
      (evaluate pre post third).isTripped = true) ∧
    (evaluate (pre + 1) (post - 1) Threshold.standard).isTripped = true := by
  intro third pre post
  have h : 0 < pre ∧ pre ≤ pre + 1 ∧ post - 1 ≤ post ∧
      third.value.le Threshold.standard.value = true ∧
      (evaluate pre post third).isTripped = true := by
    decide +kernel
  exact ⟨h, evaluate_monotone.1 h.1 h.2.1 h.2.2.1 h.2.2.2.1 h.2.2.2.2⟩

end Curation
