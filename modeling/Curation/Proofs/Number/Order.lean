/-
# Rounding keeps the order

Magnitudes are rounded to ranks, and a larger magnitude never gets a smaller rank.  So doubles made
of naturals compare as the naturals do, and a quotient of two of them is at least one if it should
be: what the breaker decides can be told from the masses themselves (`evaluate_of_le`,
`evaluate_of_zero`), whatever the rounding.

Two quotients that are rounded with the same number of bits dropped are compared by `roundDiv_mono`.
Where more bits are dropped from the larger one, it lies in a later block of ranks.
-/
import Mathlib.Data.Nat.Log
import Mathlib.Order.Monotone.Basic
import Mathlib.Tactic.Linarith
import Mathlib.Tactic.Ring
import Curation.Retention

namespace Curation

/-! ## 1. Rounding -/

/-- A quotient halfway between two integers goes to the even one, whatever its denominator. -/
theorem roundDiv_tie {n d k : Nat} (hd : 0 < d) (h : 2 * n = (2 * k + 1) * d) :
    roundDiv n d = k + k % 2 := by
  have hn : n / d * d + n % d = n := by rw [Nat.mul_comm, Nat.div_add_mod]
  have htwice : 2 * n = 2 * (k * d) + d := by rw [h, Nat.succ_mul, Nat.mul_assoc]
  have hq : n / d = k := by
    refine Nat.div_eq_of_lt_le (by omega) ?_
    rw [Nat.succ_mul]
    omega
  have hhalf : 2 * (n % d) = d := by
    rw [hq] at hn
    omega
  unfold roundDiv
  simp only [hq, hhalf, lt_irrefl, if_false]

/-- **A larger quotient is not rounded below a smaller one.** -/
theorem roundDiv_mono {n₁ d₁ n₂ d₂ : Nat} (h₁ : 0 < d₁) (h₂ : 0 < d₂) (h : n₁ * d₂ ≤ n₂ * d₁) :
    roundDiv n₁ d₁ ≤ roundDiv n₂ d₂ := by
  by_contra hlt
  have hbelow := (roundDiv_near n₁ d₁ h₁).1
  have habove := (roundDiv_near n₂ d₂ h₂).2
  generalize hr₁ : roundDiv n₁ d₁ = r₁ at *
  generalize hr₂ : roundDiv n₂ d₂ = r₂ at *
  have hd : 0 < d₁ * d₂ := Nat.mul_pos h₁ h₂
  have hscaled₁ := Nat.mul_le_mul_right d₂ hbelow
  have hscaled₂ := Nat.mul_le_mul_right d₁ habove
  -- the two differ by at most one, and only if both quotients lie halfway
  have hnext : r₁ = r₂ + 1 := by
    have hle : r₁ * (d₁ * d₂) ≤ (r₂ + 1) * (d₁ * d₂) := by linarith
    have := Nat.le_of_mul_le_mul_right hle hd
    omega
  subst hnext
  have ht₁ : 2 * n₁ = (2 * r₂ + 1) * d₁ :=
    Nat.eq_of_mul_eq_mul_right h₂ (le_antisymm (by linarith) (by linarith))
  have ht₂ : 2 * n₂ = (2 * r₂ + 1) * d₂ :=
    Nat.eq_of_mul_eq_mul_right h₁ (le_antisymm (by linarith) (by linarith))
  rw [roundDiv_tie h₁ ht₁] at hr₁
  rw [roundDiv_tie h₂ ht₂] at hr₂
  omega

theorem roundDiv_zero (d : Nat) : roundDiv 0 d = 0 := by
  simp [roundDiv]

/-- What is rounded is not moved past an integer. -/
theorem le_roundDiv {n d k : Nat} (hd : 0 < d) (h : k * d ≤ n) : k ≤ roundDiv n d := by
  rw [← roundDiv_mul k 1 Nat.one_pos]
  exact roundDiv_mono Nat.one_pos hd (by rwa [Nat.mul_one, Nat.mul_one])

theorem roundDiv_le {n d k : Nat} (hd : 0 < d) (h : n ≤ k * d) : roundDiv n d ≤ k := by
  rw [← roundDiv_mul k 1 Nat.one_pos]
  exact roundDiv_mono hd Nat.one_pos (by rwa [Nat.mul_one, Nat.mul_one])

/-! ## 2. Ranks -/

namespace Rank

/-- How many bits are dropped so that 53 remain. -/
def shift (q : Nat) : Nat := Nat.log2 q - 52

theorem shift_mono {q₁ q₂ : Nat} (h : q₁ ≤ q₂) : shift q₁ ≤ shift q₂ := by
  unfold shift
  rw [Nat.log2_eq_log_two, Nat.log2_eq_log_two]
  exact Nat.sub_le_sub_right (Nat.log_mono_right h) 52

/-- With its bits dropped a quotient is at most the next block. -/
theorem lt_of_shift (q : Nat) : q < 2 ^ 53 * 2 ^ shift q := by
  rw [← Nat.pow_add]
  refine Nat.lt_log2_self.trans_le (Nat.pow_le_pow_right Nat.two_pos ?_)
  unfold shift
  omega

/-- If any bits were dropped, 53 remain. -/
theorem le_of_shift {q : Nat} (h : 0 < shift q) : 2 ^ 52 * 2 ^ shift q ≤ q := by
  have hlog : 52 + shift q = Nat.log2 q := by
    unfold shift at h ⊢
    omega
  have hq : q ≠ 0 := by
    rintro rfl
    rw [Nat.log2_zero] at hlog
    omega
  rw [← Nat.pow_add, hlog]
  exact Nat.log2_self_le hq

/-- **A larger magnitude does not get a smaller rank.** -/
theorem ofUnits_mono {n₁ d₁ n₂ d₂ : Nat} (h₁ : 0 < d₁) (h₂ : 0 < d₂) (h : n₁ * d₂ ≤ n₂ * d₁) :
    ofUnits n₁ d₁ ≤ ofUnits n₂ d₂ := by
  have hq : n₁ / d₁ ≤ n₂ / d₂ := by
    rw [← Nat.mul_div_mul_right n₁ d₁ h₂, ← Nat.mul_div_mul_right n₂ d₂ h₁, Nat.mul_comm d₂ d₁]
    exact Nat.div_le_div_right h
  have hp₁ : 0 < 2 ^ shift (n₁ / d₁) := Nat.two_pow_pos _
  have hp₂ : 0 < 2 ^ shift (n₂ / d₂) := Nat.two_pow_pos _
  refine min_le_min_right infinite ?_
  show shift (n₁ / d₁) * 2 ^ 52 + roundDiv n₁ (d₁ * 2 ^ shift (n₁ / d₁)) ≤
    shift (n₂ / d₂) * 2 ^ 52 + roundDiv n₂ (d₂ * 2 ^ shift (n₂ / d₂))
  rcases (shift_mono hq).eq_or_lt with hs | hs
  · rw [hs]
    refine Nat.add_le_add_left (roundDiv_mono (Nat.mul_pos h₁ hp₂) (Nat.mul_pos h₂ hp₂) ?_) _
    rw [← Nat.mul_assoc, ← Nat.mul_assoc]
    exact Nat.mul_le_mul_right _ h
  · -- the larger one lies in a later block
    have hlow : roundDiv n₁ (d₁ * 2 ^ shift (n₁ / d₁)) ≤ 2 ^ 53 := by
      refine roundDiv_le (Nat.mul_pos h₁ hp₁) ?_
      calc n₁
        _ ≤ d₁ * (n₁ / d₁ + 1) := (Nat.lt_mul_div_succ n₁ h₁).le
        _ ≤ d₁ * (2 ^ 53 * 2 ^ shift (n₁ / d₁)) := Nat.mul_le_mul_left _ (lt_of_shift _)
        _ = 2 ^ 53 * (d₁ * 2 ^ shift (n₁ / d₁)) := Nat.mul_left_comm _ _ _
    have hhigh : 2 ^ 52 ≤ roundDiv n₂ (d₂ * 2 ^ shift (n₂ / d₂)) := by
      refine le_roundDiv (Nat.mul_pos h₂ hp₂) ?_
      calc 2 ^ 52 * (d₂ * 2 ^ shift (n₂ / d₂))
        _ = d₂ * (2 ^ 52 * 2 ^ shift (n₂ / d₂)) := Nat.mul_left_comm _ _ _
        _ ≤ d₂ * (n₂ / d₂) := Nat.mul_le_mul_left _ (le_of_shift ((Nat.zero_le _).trans_lt hs))
        _ ≤ n₂ := Nat.mul_div_le n₂ d₂
    omega

theorem ofUnits_zero (d : Nat) : ofUnits 0 d = 0 := by
  simp [ofUnits, roundDiv_zero]

/-- The magnitudes of a block rise by its step. -/
theorem units_block {e k : Nat} (hk : k < 2 ^ 52) :
    units ((e + 1) * 2 ^ 52 + k) = (2 ^ 52 + k) * 2 ^ e := by
  have hdiv : ((e + 1) * 2 ^ 52 + k) / 2 ^ 52 = e + 1 := by omega
  have hmod : ((e + 1) * 2 ^ 52 + k) % 2 ^ 52 = k := by omega
  show (if (e + 1) * 2 ^ 52 + k < 2 ^ 52 then (e + 1) * 2 ^ 52 + k
    else (2 ^ 52 + ((e + 1) * 2 ^ 52 + k) % 2 ^ 52) *
      2 ^ (((e + 1) * 2 ^ 52 + k) / 2 ^ 52 - 1)) = _
  rw [if_neg (by omega), hdiv, hmod, Nat.add_sub_cancel]

theorem units_of_lt {r : Nat} (h : r < 2 ^ 52) : units r = r := if_pos h

/-- **From one magnitude to the next** there is one part in `2 ^ 53` at least, and just that where
a block of ranks begins. -/
theorem units_le_of_succ (r : Nat) : 2 ^ 53 * units r ≤ (2 ^ 53 - 1) * units (r + 1) := by
  by_cases hr : r < 2 ^ 52
  · rw [units_of_lt hr]
    by_cases hr' : r + 1 < 2 ^ 52
    · rw [units_of_lt hr']
      omega
    · obtain rfl : r = 2 ^ 52 - 1 := by omega
      have hfirst : units (2 ^ 52 - 1 + 1) = (2 ^ 52 + 0) * 2 ^ 0 :=
        units_block (e := 0) (Nat.two_pow_pos 52)
      omega
  · obtain ⟨e, k, hk, rfl⟩ : ∃ e k, k < 2 ^ 52 ∧ r = (e + 1) * 2 ^ 52 + k :=
      ⟨r / 2 ^ 52 - 1, r % 2 ^ 52, by omega, by omega⟩
    rw [units_block hk]
    by_cases hk' : k + 1 < 2 ^ 52
    · rw [Nat.add_assoc, units_block hk', ← Nat.mul_assoc, ← Nat.mul_assoc]
      exact Nat.mul_le_mul_right _ (by omega)
    · -- the last of a block, and the first of the next
      obtain rfl : k = 2 ^ 52 - 1 := by omega
      have hnext : (e + 1) * 2 ^ 52 + (2 ^ 52 - 1) + 1 = (e + 1 + 1) * 2 ^ 52 + 0 := by omega
      rw [hnext, units_block (Nat.two_pow_pos 52), pow_succ 2 e]
      omega

/-- **A larger rank has a larger magnitude.** -/
theorem units_mono : Monotone units := by
  refine monotone_nat_of_le_succ fun r => ?_
  have hnext := units_le_of_succ r
  omega

end Rank

/-! ## 3. Doubles -/

namespace Binary64

/-- The rank of a natural number as a double. -/
def rankOf (n : Nat) : Nat := Rank.ofUnits (n * twoTo Rank.unitExponent) 1

theorem rankOf_le (n : Nat) : rankOf n ≤ Rank.infinite := Rank.ofUnits_le _ _

theorem rankOf_mono : Monotone rankOf := by
  intro n m h
  refine Rank.ofUnits_mono Nat.one_pos Nat.one_pos ?_
  rw [Nat.mul_one, Nat.mul_one]
  exact Nat.mul_le_mul_right _ h

/-- The double of a rank that is none past infinity. -/
theorem ofRank_of_le {negative : Bool} {rank : Nat} (h : rank ≤ Rank.infinite) :
    ofRank negative rank = .number negative ⟨rank, Nat.lt_succ_of_le h⟩ := by
  unfold ofRank
  congr
  exact Nat.min_eq_left h

theorem ofNat_eq (n : Nat) :
    ofNat n = .number false ⟨rankOf n, Nat.lt_succ_of_le (rankOf_le n)⟩ :=
  ofRank_of_le (rankOf_le n)

/-- Numbers without a sign compare as their ranks. -/
theorem lt_number (r q : Fin (Rank.infinite + 1)) :
    lt (.number false r) (.number false q) = decide (r.val < q.val) := by
  simp [lt, position]

theorem le_number (r q : Fin (Rank.infinite + 1)) :
    le (.number false r) (.number false q) = decide (r.val ≤ q.val) := by
  simp [le, position]

/-- A number of 64 bits is finite. -/
theorem rankOf_lt_of_le {n : Nat} (h : n ≤ 2 ^ 64) : rankOf n < Rank.infinite := by
  have hbound : rankOf (2 ^ 64) < Rank.infinite := by decide +kernel
  exact (rankOf_mono h).trans_lt hbound

theorem rankOf_lt (w : UInt64) : rankOf w.toNat < Rank.infinite :=
  rankOf_lt_of_le w.toNat_lt.le

theorem rankOf_pos {n : Nat} (h : 0 < n) : 0 < rankOf n := by
  have hone : 0 < rankOf 1 := by decide +kernel
  exact hone.trans_le (rankOf_mono h)

theorem units_pos {r : Nat} (h : 0 < r) : 0 < Rank.units r := by
  have hone : Rank.units 1 = 1 := Rank.units_of_lt (by decide)
  exact Nat.lt_of_lt_of_le (by rw [hone]; decide) (Rank.units_mono h)

/-- **The quotient of two magnitudes** is rounded to less than one exactly if their ranks say so. -/
theorem quotient_lt_one_iff {r q : Nat} (hq : 0 < Rank.units q) :
    Rank.ofUnits (Rank.units r * twoTo Rank.unitExponent) (Rank.units q) < rankOf 1 ↔ r < q := by
  constructor
  · intro hlt
    by_contra hle
    refine absurd hlt (Nat.not_lt.mpr (Rank.ofUnits_mono Nat.one_pos hq ?_))
    rw [Nat.one_mul, Nat.mul_one, Nat.mul_comm]
    exact Nat.mul_le_mul_right _ (Rank.units_mono (Nat.not_lt.mp hle))
  · intro hlt
    have hnear : 2 ^ 53 * Rank.units r ≤ (2 ^ 53 - 1) * Rank.units q :=
      (Rank.units_le_of_succ r).trans (Nat.mul_le_mul_left _ (Rank.units_mono hlt))
    -- the largest quotient below one is the double before one
    have hbelow : Rank.ofUnits ((2 ^ 53 - 1) * twoTo Rank.unitExponent) (2 ^ 53) < rankOf 1 := by
      decide +kernel
    refine (Rank.ofUnits_mono hq (Nat.two_pow_pos 53) ?_).trans_lt hbelow
    calc Rank.units r * twoTo Rank.unitExponent * 2 ^ 53
      _ = 2 ^ 53 * Rank.units r * twoTo Rank.unitExponent := by ring
      _ ≤ (2 ^ 53 - 1) * Rank.units q * twoTo Rank.unitExponent := Nat.mul_le_mul_right _ hnear
      _ = (2 ^ 53 - 1) * twoTo Rank.unitExponent * Rank.units q := by ring

end Binary64

/-! ## 4. The breaker -/

/-- A threshold is a rank between those of zero and one. -/
theorem Threshold.rank (t : Threshold) :
    ∃ q, t.value = .number false q ∧ 0 < q.val ∧ q.val ≤ Binary64.rankOf 1 := by
  have hpos := t.positive
  have hone := t.atMostOne
  rw [Binary64.zero, Binary64.ofRank_of_le (Nat.zero_le _)] at hpos
  rw [Binary64.one, Binary64.ofNat_eq] at hone
  rcases hv : t.value with _ | ⟨negative, q⟩
  · rw [hv] at hpos
    cases hpos
  · rw [hv] at hpos hone
    cases negative with
    | true =>
      -- nothing that has a sign is above zero
      have hneg : -(q.val : Int) > 0 := by simpa [Binary64.lt, Binary64.position] using hpos
      omega
    | false =>
      rw [Binary64.lt_number] at hpos
      rw [Binary64.le_number] at hone
      exact ⟨q, rfl, of_decide_eq_true hpos, of_decide_eq_true hone⟩

/-- The share that is kept, as a rank. -/
theorem retained_eq {pre : UInt64} (hpre : 0 < pre.toNat) (post : UInt64) :
    ∃ h, retained pre post = .number false
      ⟨Rank.ofUnits (Rank.units (Binary64.rankOf post.toNat) * twoTo Rank.unitExponent)
        (Rank.units (Binary64.rankOf pre.toNat)), h⟩ := by
  refine ⟨Nat.lt_succ_of_le (Rank.ofUnits_le _ _), ?_⟩
  have hzero : Binary64.rankOf pre.toNat ≠ 0 := (Binary64.rankOf_pos hpre).ne'
  unfold retained
  rw [Binary64.ofNat_eq, Binary64.ofNat_eq]
  unfold Binary64.div
  dsimp only
  rw [if_pos ⟨Binary64.rankOf_lt post, Binary64.rankOf_lt pre⟩, if_neg hzero]
  exact Binary64.ofRank_of_le (Rank.ofUnits_le _ _)

/-- **The breaker compares ranks.** -/
theorem evaluate_isTripped {pre post : UInt64} (hpre : 0 < pre.toNat) {t : Threshold}
    {q : Fin (Rank.infinite + 1)} (hq : t.value = .number false q) :
    (evaluate pre post t).isTripped =
      decide (Rank.ofUnits (Rank.units (Binary64.rankOf post.toNat) * twoTo Rank.unitExponent)
        (Rank.units (Binary64.rankOf pre.toNat)) < q.val) := by
  have hne : pre ≠ 0 := by
    rintro rfl
    exact absurd hpre (lt_irrefl 0)
  obtain ⟨h, hr⟩ := retained_eq hpre post
  unfold evaluate
  rw [if_neg hne]
  dsimp only
  rw [hr, hq, Binary64.lt_number]
  split
  · next hlt => exact hlt.symm
  · next hlt => exact (Bool.eq_false_iff.mpr hlt).symm

/-- **Where nothing was lost the breaker holds**, whatever the threshold. -/
theorem evaluate_of_le {pre post : UInt64} (h : pre.toNat ≤ post.toNat) (t : Threshold) :
    (evaluate pre post t).isTripped = false := by
  by_cases hpre : 0 < pre.toNat
  · obtain ⟨q, hq, -, hone⟩ := t.rank
    rw [evaluate_isTripped hpre hq, decide_eq_false_iff_not, not_lt]
    refine hone.trans (not_lt.mp fun hlt => ?_)
    have hsome : 0 < Rank.units (Binary64.rankOf pre.toNat) :=
      Binary64.units_pos (Binary64.rankOf_pos hpre)
    have hfewer := (Binary64.quotient_lt_one_iff hsome).mp hlt
    exact absurd hfewer (not_lt.mpr (Binary64.rankOf_mono h))
  · have hzero : pre = 0 := UInt64.toNat_inj.mp (by simpa using hpre)
    rw [evaluate, if_pos hzero]
    rfl

/-- **Where everything was lost it trips**, whatever the threshold. -/
theorem evaluate_of_zero {pre : UInt64} (h : 0 < pre.toNat) (t : Threshold) :
    (evaluate pre 0 t).isTripped = true := by
  obtain ⟨q, hq, hpos, -⟩ := t.rank
  have hnone : Rank.units (Binary64.rankOf (0 : UInt64).toNat) = 0 := by
    rw [UInt64.toNat_zero, Binary64.rankOf, Nat.zero_mul, Rank.ofUnits_zero]
    exact Rank.units_of_lt (Nat.two_pow_pos 52)
  rw [evaluate_isTripped h hq, hnone, Nat.zero_mul, decide_eq_true_iff]
  rwa [Rank.ofUnits_zero]

end Curation
