/-
# Clocks

A clock is read again and again, and each reading is later than the one before.  How much
later is not known beforehand, so a clock carries the gaps between its readings: any clock at
all that moves forward is one of these.
-/
import Curation.Time.Instant

namespace Curation

namespace Instant

/-- Some nanoseconds later. -/
def later (t : Instant) (nanos : Nat) : Instant :=
  let n := t.nanos + nanos
  ⟨t.seconds + (n / perSecond : Nat), n % perSecond⟩

end Instant

/-- **A clock.** -/
structure Clock where
  /-- The last reading. -/
  last : Instant
  /-- How often it has been read. -/
  readings : Nat
  /-- The nanoseconds before each reading, counted from zero, besides the one that always
  passes. -/
  gaps : Nat → Nat

namespace Clock

/-- A clock that moves on a microsecond with each reading. -/
def steady (start : Instant) : Clock where
  last := start
  readings := 0
  gaps := fun _ => 999

/-- What a clock shows when it is read next. -/
def next (c : Clock) : Instant :=
  c.last.later (c.gaps c.readings + 1)

/-- A clock after its next reading. -/
def advance (c : Clock) : Clock where
  last := c.next
  readings := c.readings + 1
  gaps := c.gaps

/-- Every reading is later than the one before. -/
theorem not_next_le (c : Clock) : c.next.le c.last = false := by
  rw [Bool.eq_false_iff]
  intro h
  simp only [Instant.le, Bool.or_eq_true, Bool.and_eq_true, decide_eq_true_eq] at h
  simp only [next, Instant.later, Instant.perSecond] at h
  omega

end Clock
end Curation
