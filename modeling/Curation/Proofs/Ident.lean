/-
# Generated identifiers differ

The free digits of a generated identifier hold the number that it was made from, as far as they
go.  So identifiers that are drawn one after the other all differ, until as many have been drawn as
there are (`generated_ne`).
-/
import Mathlib.Algebra.Ring.Nat
import Curation.Ident

namespace Curation.Ident

theorem digitChar_inj : ∀ m < 16, ∀ n < 16, Nat.digitChar m = Nat.digitChar n → m = n := by
  decide

theorem length_hexDigits : ∀ width n : Nat, (hexDigits width n).length = width
  | 0, _ => rfl
  | width + 1, n => by
    rw [hexDigits, List.length_append, length_hexDigits width, List.length_singleton]

/-- **Digits tell a number**, as far as they go. -/
theorem mod_of_hexDigits : ∀ {width n m : Nat}, hexDigits width n = hexDigits width m →
    n % 16 ^ width = m % 16 ^ width
  | 0, _, _, _ => by rw [Nat.pow_zero, Nat.mod_one, Nat.mod_one]
  | width + 1, n, m, h => by
    obtain ⟨hhigh, hlow⟩ := List.append_inj' h rfl
    have hlast : n % 16 = m % 16 :=
      digitChar_inj _ (Nat.mod_lt _ (by decide)) _ (Nat.mod_lt _ (by decide))
        (List.singleton_inj.mp hlow)
    rw [Nat.pow_succ', Nat.mod_mul, Nat.mod_mul, hlast, mod_of_hexDigits hhigh]

/-- The last group of digits, after what is fixed, and what stands before it. -/
theorem mod_of_group {cs cs' : List Char} (fixed : List Char) (width : Nat) {n m : Nat}
    (h : cs ++ (fixed ++ hexDigits width n) = cs' ++ (fixed ++ hexDigits width m)) :
    cs = cs' ∧ n % 16 ^ width = m % 16 ^ width := by
  obtain ⟨hcs, hgroup⟩ := List.append_inj' h (by simp [length_hexDigits])
  exact ⟨hcs, mod_of_hexDigits (List.append_cancel_left hgroup)⟩

/-- **An identifier tells its number**, as far as its free digits go. -/
theorem mod_of_generated {n m : Nat} (h : generated n = generated m) :
    n % 2 ^ 120 = m % 2 ^ 120 := by
  have h := String.ofList_injective h
  obtain ⟨h, h₅⟩ := mod_of_group ['-'] 12 h
  obtain ⟨h, h₄⟩ := mod_of_group ['-', '8'] 3 h
  obtain ⟨h, h₃⟩ := mod_of_group ['-', '4'] 3 h
  obtain ⟨h, h₂⟩ := mod_of_group ['-'] 4 h
  have h₁ := mod_of_hexDigits h
  simp only [twoTo, Nat.pow_eq] at h₁ h₂ h₃ h₄ h₅
  omega

/-- **Identifiers drawn after one another differ.** -/
theorem generated_ne {n m : Nat} (hlt : n < m) (h : m < n + 2 ^ 120) :
    generated n ≠ generated m := by
  intro he
  have hmod := mod_of_generated he
  omega

end Curation.Ident
