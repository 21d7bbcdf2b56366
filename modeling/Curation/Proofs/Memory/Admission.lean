/-
# Texts that are admitted

The rules check a text in a certain order and give a reason when they refuse it.  What they ask in
the end is two things (`MemoryRules.Admits`), and a configuration that is accepted leaves room for
texts at all (`Config.limits_pos`).
-/
import Curation.Config.Basic

namespace Curation

/-! ## 1. Texts -/

/-- **A text that a memory may have**: it is not blank, nor longer than the limit. -/
structure MemoryRules.Admits (rules : MemoryRules) (content : String) : Prop where
  notBlank : blankText content = false
  fits : content.length ≤ rules.maxContent

instance (rules : MemoryRules) (content : String) : Decidable (rules.Admits content) :=
  decidable_of_iff (blankText content = false ∧ content.length ≤ rules.maxContent)
    ⟨fun ⟨hb, hf⟩ => ⟨hb, hf⟩, fun h => ⟨h.notBlank, h.fits⟩⟩

namespace MemoryRules

variable {rules : MemoryRules} {content : String}

/-- **The rules admit exactly these texts.** -/
theorem validate_eq_ok_iff : rules.validate content = .ok () ↔ rules.Admits content := by
  unfold validate
  split
  · next hb => exact ⟨nofun, fun h => by rw [h.notBlank] at hb; cases hb⟩
  · next hb =>
    split
    · next hl => exact ⟨nofun, fun h => absurd h.fits (Nat.not_le.mpr hl)⟩
    · next hl => exact ⟨fun _ => ⟨by simpa using hb, Nat.not_lt.mp hl⟩, fun _ => rfl⟩

/-- What is validated is admitted. -/
theorem admits_of_validate (h : rules.validate content = .ok ()) : rules.Admits content :=
  validate_eq_ok_iff.mp h

/-- A text of so many letters. -/
theorem admits_replicate {n : Nat} (hpos : 0 < n) (hn : n ≤ rules.maxContent) :
    rules.Admits (String.ofList (List.replicate n 'x')) := by
  have hletter : isBlank 'x' = false := by decide
  refine ⟨?_, ?_⟩
  · simp [blankText, hletter, Nat.pos_iff_ne_zero.mp hpos]
  · rwa [String.length_ofList, List.length_replicate]

end MemoryRules

/-! ## 2. Limits -/

/-- A check that is passed, in a row of checks. -/
theorem ConfigFault.passed {p : Prop} [Decidable p] {fault : ConfigFault}
    {rest : PUnit → Except ConfigFault Unit}
    (h : (if p then throw fault >>= rest else rest ()) = .ok ()) : ¬p ∧ rest () = .ok () := by
  by_cases hp : p
  · rw [if_pos hp] at h
    cases h
  · rw [if_neg hp] at h
    exact ⟨hp, h⟩

/-- **A configuration that is accepted** has limits of at least one character. -/
theorem Config.limits_pos {c : Config} (h : c.validate = .ok ()) :
    0 < c.session.maxContentChars ∧ 0 < c.session.journalMaxChars := by
  unfold validate at h
  cases ht : Threshold.ofValue c.session.defaultThreshold with
  | error e =>
    rw [ht] at h
    cases h
  | ok t =>
    rw [ht] at h
    obtain ⟨hcontent, h⟩ := ConfigFault.passed h
    obtain ⟨-, h⟩ := ConfigFault.passed h
    obtain ⟨hjournal, -⟩ := ConfigFault.passed h
    exact ⟨Nat.pos_of_ne_zero hcontent, Nat.pos_of_ne_zero hjournal⟩

end Curation
