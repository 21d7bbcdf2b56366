/-
# Powers and rounding

The powers that exact arithmetic on doubles and decimals needs, and one rounding rule that
serves the whole library: the nearest integer, and of two equally near ones the even one.
Doubles use it to drop bits, percentages to drop places.
-/

namespace Curation

/-- A power of two. -/
abbrev twoTo (exponent : Nat) : Nat := Nat.pow 2 exponent

theorem twoTo_pos (exponent : Nat) : 0 < twoTo exponent := Nat.two_pow_pos exponent

theorem twoTo_le {e f : Nat} (h : e ≤ f) : twoTo e ≤ twoTo f := Nat.pow_le_pow_right Nat.two_pos h

/-- A power of ten. -/
abbrev tenTo (exponent : Nat) : Nat := Nat.pow 10 exponent

/-- `num / den` rounded to the nearest integer, a half going to the even neighbour.  A zero
denominator gives zero, as `Nat` division does. -/
def roundDiv (num den : Nat) : Nat :=
  let q := num / den
  let r := num % den
  if 2 * r < den then q
  else if den < 2 * r then q + 1
  else q + q % 2

/-- **Within half a unit.**  The rounded quotient is no farther from `num / den` than a half. -/
theorem roundDiv_near (num den : Nat) (h : 0 < den) :
    2 * (roundDiv num den * den) ≤ 2 * num + den ∧
      2 * num ≤ 2 * (roundDiv num den * den) + den := by
  have hq : den * (num / den) + num % den = num := Nat.div_add_mod num den
  have hr : num % den < den := Nat.mod_lt num h
  have he : num / den % 2 = 0 ∨ num / den % 2 = 1 := by omega
  unfold roundDiv
  simp only
  generalize num / den = q at *
  generalize num % den = r at *
  have hc : q * den = den * q := Nat.mul_comm q den
  have hs : (q + 1) * den = den * q + den := by rw [Nat.add_mul, Nat.one_mul, hc]
  split
  · omega
  · split
    · omega
    · rcases he with he | he <;> simp only [he, Nat.add_zero] <;> omega

/-- A quotient that is already an integer is not moved. -/
theorem roundDiv_mul (q den : Nat) (h : 0 < den) : roundDiv (q * den) den = q := by
  simp [roundDiv, Nat.mul_div_cancel _ h, h]

end Curation
