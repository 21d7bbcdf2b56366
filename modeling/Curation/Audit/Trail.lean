/-
# The audit trail

Reading the trail and adding to its end.
-/
import Curation.Archive
import Curation.Distinct

namespace Curation

/-- The place after the entries of a session, given with the last one first. -/
def placeAfter : List AuditEntry → Nat
  | [] => 1
  | e :: _ => e.seq + 1

/-- **Open sessions**: those with entries but no closing one, in the order of their first
entries. -/
def openSessionsOf (entries : List AuditEntry) : List SessionId :=
  let closed := (entries.filter (·.action.isTerminal)).map (·.session)
  distinct ((entries.map (·.session)).filter fun id => !closed.contains id)

namespace Archive

/-- The place of the next entry of a session. -/
def nextSeq (session : SessionId) : CurationM Nat := do
  let entries ← forSession session
  return placeAfter entries

/-- Adds an entry at the end of a session. -/
def record (session : SessionId) (owner : OwnerId) (action : AuditAction)
    (subject : List MemoryId) (payload : Json) : CurationM AuditEntry := do
  let seq ← nextSeq session
  let entry ← newEntry session owner seq action subject payload
  append entry
  return entry

/-- The open sessions of an owner. -/
def openSessions (owner : OwnerId) : CurationM (List SessionId) := do
  let entries ← forOwner owner
  return openSessionsOf entries

end Archive
end Curation
