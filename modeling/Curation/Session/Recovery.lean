/-
# Recovery

A session that was never completed is taken back from its audit trail.  The rollback is one
batch, so an attempt that fails leaves nothing behind and can be made again.
-/
import Curation.Session.Opening
import Curation.Audit.Trail

namespace Curation

/-- What recovery found or did. -/
inductive Recovered where
  /-- The session had ended with this entry; nothing was written. -/
  | alreadyClosed (action : AuditAction)
  | rolledBack (revertedEntries : Nat) (stats : SessionStats)
  deriving DecidableEq

namespace Recovered

/-- What recovery did, as a value. -/
def encode : Recovered → Json
  | .alreadyClosed action => .obj [("status", .str "already_closed"), ("action", action.encode)]
  | .rolledBack reverted stats =>
    .obj [("status", .str "rolled_back"), ("reverted_entries", .ofNat reverted),
      ("stats", stats.encode)]

end Recovered

namespace Recovery

/-- The reason that a recovered session is given. -/
def reason : String := "session never completed; reverted from its audit trail"

/-- The journal text of a recovered session. -/
def journal (session : SessionId) (stats : SessionStats) : String :=
  "Memory refinement session " ++ session.text ++ " was recovered and rolled back: " ++ reason ++
    " (" ++ stats.text ++ ")"

/-- Writes the rollback of a session whose entries are given with the last one first. -/
def write (c : Config) (owner : OwnerId) (session : SessionId) (entries : List AuditEntry)
    (post : UInt64) (threshold : Threshold) : CurationM Unit := do
  let stats := AuditEntry.stats entries
  let payload : RollbackPayload := ⟨none, post.toNat, threshold.value, stats, reason⟩
  let journal ← newJournal owner (SessionLimits.ofConfig c.session).journal (journal session stats)
  let ops ← rollbackBatch entries ⟨session, owner, placeAfter entries, payload, journal⟩
  Archive.applyBatch ops

/-- **Recovers a session.**  All entries of the session must be the owner's; a session that is
closed is left alone. -/
def reconcile (c : Config) (owner : OwnerId) (session : SessionId) : CurationM Recovered := do
  let entries ← Archive.forSession session
  if entries.isEmpty || entries.any (·.owner != owner) then
    throw (.validation (.noTrail session owner))
  match entries.find? (·.action.isTerminal) with
  | some e => return .alreadyClosed e.action
  | none =>
    let post ← c.rules.usage owner .core
    let threshold ← Archive.threshold c owner
    match ← ExceptT.lift (write c owner session entries post threshold).run with
    | .ok _ =>
      Archive.count .rolledBack
      return .rolledBack entries.length (AuditEntry.stats entries)
    | .error e =>
      Archive.count .rollbackFailed
      throw (.rollbackFailed session e.message)

end Recovery
end Curation
