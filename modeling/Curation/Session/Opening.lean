/-
# Beginning and ending sessions

A session begins with a measurement of the owner's live core mass, the threshold that holds
for the owner, and a deadline.  One that is past its deadline can be completed on behalf of
its driver.
-/
import Curation.Session.Basic

namespace Curation

namespace Archive

/-- The threshold that holds for an owner: the owner's own, or else the configured one. -/
def threshold (c : Config) (owner : OwnerId) : CurationM Threshold := do
  let settings ← ownerSettings owner
  return settings.threshold.getD c.threshold

/-- Sets the threshold of an owner. -/
def chooseThreshold (owner : OwnerId) (value : Binary64) : CurationM OwnerSettings := do
  match Threshold.ofValue value with
  | .error e => throw (.validation (.setting e))
  | .ok t => setThreshold owner t

end Archive

namespace Session

/-- The longest time limit, in seconds, that still counts as one. -/
def longestCeiling : Nat := 9223372036854775

/-- The deadline of a session that begins now.  A limit too long to count is no limit; one
that leads past the calendar cannot be kept. -/
def deadline (c : Config) : CurationM (Option Instant) := do
  match c.ceiling with
  | none => return none
  | some seconds =>
    if longestCeiling < seconds then return none
    else
      let t ← Archive.now
      match t.after? seconds with
      | some d => return some d
      | none => throw .beyondCalendar

/-- **Begins a session** under an id that has never been used. -/
def beginAs (c : Config) (owner : OwnerId) (id : SessionId) : CurationM Session := do
  if blankText id.text then throw (.validation .blankSessionId)
  let entries ← Archive.forSession id
  if !entries.isEmpty then throw (.validation (.usedSessionId id))
  let pre ← c.rules.usage owner .core
  let threshold ← Archive.threshold c owner
  let deadline ← deadline c
  return start c.rules ⟨id, owner, pre, threshold, deadline⟩ (.ofConfig c.session)

/-- Begins a session under a new id. -/
def begin_ (c : Config) (owner : OwnerId) : CurationM Session := do
  let id ← Archive.newId
  beginAs c owner ⟨id⟩

/-- Completes a session whose deadline has passed; nothing for one that is not expired or is
over already. -/
def finishExpired : SessionM (Option SessionOutcome) := do
  let s ← get
  let expired ← s.isExpired
  if !expired || s.status.isTerminal then return none
  let o ← complete "session deadline reached before the driver completed"
  return some o

end Session
end Curation
