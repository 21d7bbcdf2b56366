/-
# Instants

A point in time is a count of seconds since the start of 1970 and of nanoseconds into that
second.  A leap second is written as a second whose nanoseconds run past one thousand
million.
-/

namespace Curation

/-- A point in time. -/
structure Instant where
  seconds : Int
  nanos : Nat
  deriving DecidableEq, Inhabited

namespace Instant

/-- Nanoseconds in a second. -/
abbrev perSecond : Nat := 1000000000

/-- Not later than. -/
def le (a b : Instant) : Bool :=
  decide (a.seconds < b.seconds) ||
    (decide (a.seconds = b.seconds) && decide (a.nanos ≤ b.nanos))

/-- The instant a number of milliseconds after the start of 1970. -/
def ofMillis (ms : Int) : Instant :=
  ⟨ms.fdiv 1000, (ms.fmod 1000).toNat * 1000000⟩

/-- Whole milliseconds since the start of 1970. -/
def millis (t : Instant) : Int :=
  t.seconds * 1000 + (t.nanos / 1000000 : Nat)

/-- The last second that the calendar can write, in the last hour of the year 262142. -/
def lastSecond : Int := 8210266876799

/-- Some seconds later, unless that lies beyond the calendar. -/
def after? (t : Instant) (seconds : Nat) : Option Instant :=
  if t.seconds + seconds ≤ lastSecond then some ⟨t.seconds + seconds, t.nanos⟩ else none

theorem le_refl (t : Instant) : t.le t = true := by
  simp [le]

theorem le_trans {a b c : Instant} (h : a.le b = true) (h' : b.le c = true) : a.le c = true := by
  simp only [le, Bool.or_eq_true, Bool.and_eq_true, decide_eq_true_eq] at *
  omega

theorem le_total (a b : Instant) : a.le b = true ∨ b.le a = true := by
  simp only [le, Bool.or_eq_true, Bool.and_eq_true, decide_eq_true_eq]
  omega

end Instant
end Curation
