/-
# Counters

What has happened since the counters were last reset.
-/
import Curation.Json.Basic

namespace Curation

/-- **The counters**, in atomic words of 64 bits that would begin again after the last one: as
numbers they are right for fewer than `2 ^ 64` events of a kind since they were reset. -/
structure Counters where
  actionsApplied : Nat
  actionsRejected : Nat
  sessionsCommitted : Nat
  sessionsRolledBack : Nat
  breakerTrips : Nat
  rollbackFailures : Nat
  memoriesExtracted : Nat
  deriving DecidableEq

namespace Counters

/-- Nothing has happened. -/
def zero : Counters := ⟨0, 0, 0, 0, 0, 0, 0⟩

instance : Inhabited Counters := ⟨zero⟩

/-- One more action that changed something. -/
def applied (c : Counters) : Counters := { c with actionsApplied := c.actionsApplied + 1 }

/-- One more action that was turned down. -/
def rejected (c : Counters) : Counters := { c with actionsRejected := c.actionsRejected + 1 }

/-- One more committed session. -/
def committed (c : Counters) : Counters := { c with sessionsCommitted := c.sessionsCommitted + 1 }

/-- One more session that was rolled back. -/
def rolledBack (c : Counters) : Counters :=
  { c with sessionsRolledBack := c.sessionsRolledBack + 1 }

/-- One more session that lost too much. -/
def tripped (c : Counters) : Counters := { c with breakerTrips := c.breakerTrips + 1 }

/-- One more rollback that could not be written. -/
def rollbackFailed (c : Counters) : Counters := { c with rollbackFailures := c.rollbackFailures + 1 }

/-- Some more memories made from a transcript. -/
def extracted (n : Nat) (c : Counters) : Counters :=
  { c with memoriesExtracted := c.memoriesExtracted + n }

/-- The counters as a value. -/
def encode (c : Counters) : Json :=
  .obj [("actions_applied", .ofNat c.actionsApplied), ("actions_rejected", .ofNat c.actionsRejected),
    ("sessions_committed", .ofNat c.sessionsCommitted),
    ("sessions_rolled_back", .ofNat c.sessionsRolledBack), ("breaker_trips", .ofNat c.breakerTrips),
    ("rollback_failures", .ofNat c.rollbackFailures),
    ("memories_extracted", .ofNat c.memoriesExtracted)]

end Counters
end Curation
