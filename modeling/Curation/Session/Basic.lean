/-
# Refinement sessions

A session starts active.  Each forward action writes its change and exactly one audit entry
in a single batch.  `complete` measures what is left: the session is committed, or taken back
from its own audit entries in one batch.

A call on a session may change the session even when it fails: a rollback that cannot be
written closes it.
-/
import Curation.Config.Basic
import Curation.Session.Action
import Curation.Audit.Unwind
import Curation.Retention

namespace Curation

/-- What is fixed when a session begins. -/
structure SessionParams where
  session : SessionId
  owner : OwnerId
  /-- The owner's live core mass at the beginning. -/
  preMass : UInt64
  threshold : Threshold
  /-- After this instant only `complete` is accepted. -/
  deadline : Option Instant

/-- The limits of a session. -/
structure SessionLimits where
  /-- How many hits a search shows. -/
  search : Nat
  /-- The longest journal text. -/
  journal : Nat
  deriving DecidableEq

/-- The limits that a configuration gives; a journal is a memory, so the limit of memories
holds for it too. -/
def SessionLimits.ofConfig (c : SessionConfig) : SessionLimits :=
  ⟨c.searchLimit, min c.journalMaxChars c.maxContentChars⟩

/-- The limits where nothing else is said. -/
def SessionLimits.standard : SessionLimits := .ofConfig .standard

/-- **A session.** -/
structure Session where
  rules : MemoryRules
  params : SessionParams
  limits : SessionLimits
  stats : SessionStats
  status : SessionStatus
  /-- The place of the next audit entry, in a word of 64 bits: fewer than `2 ^ 64` are taken. -/
  nextSeq : Nat

/-- A call on a session. -/
abbrev SessionM := ExceptT CurationError (StateT Session (StateM Archive))

instance (priority := low) : MonadLift CurationM SessionM := ⟨fun x => ExceptT.mk (liftM x.run)⟩

namespace Session

/-- A new session, which has done nothing. -/
def start (rules : MemoryRules) (params : SessionParams) (limits : SessionLimits) : Session where
  rules := rules
  params := params
  limits := limits
  stats := .none
  status := .active
  nextSeq := 1

/-- Whether the deadline has passed. -/
def isExpired (s : Session) : StateM Archive Bool := do
  match s.params.deadline with
  | none => return false
  | some d =>
    let t ← Archive.now
    return d.le t

/-! ## 1. Guards -/

/-- Refuses a session that is over. -/
def ensureOpen : SessionM Unit := do
  let s ← get
  if s.status ≠ .active then throw (.sessionClosed s.params.session s.status.name)

/-- Refuses a session that is over or late. -/
def ensureAccepting : SessionM Unit := do
  ensureOpen
  let s ← get
  if ← s.isExpired then throw (.deadlineExceeded s.params.session)

/-- The memory of an id, if it is the owner's and live. -/
def ownedLive (id : MemoryId) : SessionM Memory := do
  let s ← get
  let m ← Archive.getOwned s.params.owner id
  if m.tombstoned then throw (.notFound id)
  return m

/-! ## 2. Forward actions -/

/-- **Writes a forward action**: its ops and its entry, in one batch. -/
def commitForward (action : AuditAction) (subject : List MemoryId) (payload : Json)
    (ops : List WriteOp) : SessionM Unit := do
  let s ← get
  let entry ← Archive.newEntry s.params.session s.params.owner s.nextSeq action subject payload
  Archive.applyBatch (ops ++ [.appendAudit entry])
  set { s with nextSeq := s.nextSeq + 1, stats := s.stats.record action }

/-- Shows the memories that match a query. -/
def search (query : String) : SessionM ActionOutcome := do
  ensureAccepting
  let s ← get
  let hits ← Archive.search s.params.owner query s.limits.search
  return .found (hits.map SearchHit.ofMemory)

/-- Replaces the text of a memory. -/
def update (id : MemoryId) (content : String) : SessionM ActionOutcome := do
  ensureAccepting
  let s ← get
  let m ← ownedLive id
  let op ← m.updateOp s.rules content
  commitForward .update [id] (UpdatePayload.mk m.content content).encode [op]
  return .updated id

/-- Deletes a memory. -/
def delete (id : MemoryId) : SessionM ActionOutcome := do
  ensureAccepting
  let m ← ownedLive id
  let op ← m.tombstoneOp
  commitForward .delete [id] (DeletePayload.mk m.content none).encode [op]
  return .deleted id

/-- A source of a merge: the op that deletes it, and how it was. -/
def mergeSource (id : MemoryId) : SessionM (WriteOp × MemorySnapshot) := do
  let m ← ownedLive id
  let op ← m.tombstoneOp
  return (op, ⟨m.id, m.content⟩)

/-- Merges some memories into a new one. -/
def consolidate (ids : List MemoryId) (content : String) : SessionM ActionOutcome := do
  ensureAccepting
  let s ← get
  if ids.length < 2 then throw (.validation .fewSources)
  if !decide ids.Nodup then throw (.validation .repeatedSource)
  s.rules.validate content
  let sources ← ids.mapM mergeSource
  let result ← Archive.newMemory s.params.owner content .core
  let payload : ConsolidatePayload := ⟨sources.map (·.2), ⟨result.id, content⟩⟩
  commitForward .consolidate (ids ++ [result.id]) payload.encode
    (.insertMemory result :: sources.map (·.1))
  return .consolidated result.id ids

/-- Protects a memory. -/
def protect (id : MemoryId) : SessionM ActionOutcome := do
  ensureAccepting
  let m ← ownedLive id
  if m.constitutional then throw (.validation (.alreadyProtected id))
  commitForward .protect [id] FlagPayload.mk.encode [m.protectOp]
  return .protected_ id

/-- Takes the protection off a memory. -/
def unprotect (id : MemoryId) : SessionM ActionOutcome := do
  ensureAccepting
  let m ← ownedLive id
  if !m.constitutional then throw (.validation (.notProtected id))
  commitForward .unprotect [id] FlagPayload.mk.encode [m.unprotectOp]
  return .unprotected id

/-! ## 3. Completion -/

/-- What is reported of a session that is over. -/
def outcome (s : Session) (post : UInt64) (ratio : Option Binary64) (message : String)
    (reverted : Nat) : SessionOutcome where
  session := s.params.session
  status := s.status
  stats := s.stats
  preMass := s.params.preMass.toNat
  postMass := post.toNat
  ratio := ratio
  threshold := s.params.threshold.value
  message := message
  revertedEntries := reverted

/-- The journal text of a commit. -/
def commitJournal (s : Session) (summary : String) : String :=
  "Memory refinement session " ++ s.params.session.text ++ " committed: " ++ summary ++ " (" ++
    s.stats.text ++ ")"

/-- Makes a call while the session is completing.  If it is refused the session is active again.
A panic goes past this, so that the session is left as it is. -/
def orActive {α : Type} (x : CurationM α) : SessionM α :=
  ExceptT.mk do
    let r ← liftM x.run
    match r with
    | .ok _ => pure ()
    | .error e => if !e.isPanic then modify fun s => { s with status := .active }
    return r

/-- **Commits.**  The closing entry, the journal and the stamp are written in one batch; a
session whose batch is refused is active again. -/
def commit (summary : String) (post : UInt64) (ratio : Option Binary64) :
    SessionM SessionOutcome := do
  let s ← get
  let p := s.params
  let payload : CompletePayload := ⟨p.session, summary, s.stats⟩
  let entry ← Archive.newEntry p.session p.owner s.nextSeq .sessionComplete [] payload.encode
  let journal ← newJournal p.owner s.limits.journal (s.commitJournal summary)
  let time ← Archive.now
  orActive (Archive.applyBatch
    [.appendAudit entry, .insertMemory journal, .stampRefined p.owner time])
  let s := { s with nextSeq := s.nextSeq + 1, status := .committed }
  set s
  Archive.count .committed
  return s.outcome post ratio summary 0

/-- Why a session was taken back. -/
def rollbackReason (s : Session) (post : UInt64) (ratio : Option Binary64) : String :=
  "net core memory fell to " ++ ((ratio.getD .zero).mul .hundred).wholeText ++
    "% of its pre-session size (" ++ toString post.toNat ++ " of " ++
    toString s.params.preMass.toNat ++ " tokens), below the " ++
    (s.params.threshold.value.mul .hundred).wholeText ++
    "% threshold; all session changes were reverted"

/-- The journal text of a rollback. -/
def rollbackJournal (s : Session) (summary reason : String) : String :=
  "Memory refinement session " ++ s.params.session.text ++ " was rolled back: " ++ reason ++
    ". Driver summary: " ++ summary

/-- Writes the rollback of a session, and gives the number of entries that were undone.  Only
the entries of the session's owner are. -/
def writeRollback (s : Session) (summary : String) (post : UInt64) (reason : String) :
    CurationM Nat := do
  let p := s.params
  let trail ← Archive.forSession p.session
  let entries := trail.filter (·.owner == p.owner)
  let journal ← newJournal p.owner s.limits.journal (s.rollbackJournal summary reason)
  let payload : RollbackPayload :=
    ⟨some p.preMass.toNat, post.toNat, p.threshold.value, s.stats, reason⟩
  let ops ← rollbackBatch entries ⟨p.session, p.owner, s.nextSeq, payload, journal⟩
  Archive.applyBatch ops
  return entries.length

/-- **Rolls back.**  If the batch cannot be made or written, nothing of it is, and the session
is over all the same. -/
def rollback (summary : String) (post : UInt64) (ratio : Option Binary64) :
    SessionM SessionOutcome := do
  let s ← get
  let reason := s.rollbackReason post ratio
  match ← (s.writeRollback summary post reason).run with
  | .ok reverted =>
    let s := { s with nextSeq := s.nextSeq + 1, status := .rolledBack }
    set s
    Archive.count .rolledBack
    return s.outcome post ratio reason reverted
  | .error e =>
    set { s with status := .rollbackFailed }
    Archive.count .rollbackFailed
    throw (.rollbackFailed s.params.session e.message)

/-- **Completes a session**, which is accepted after the deadline too.  The session is completing
until it is over, or active again. -/
def complete (summary : String) : SessionM SessionOutcome := do
  ensureOpen
  let summary := trim summary
  if summary.isEmpty then throw (.validation .blankSummary)
  modify fun s => { s with status := .completing }
  let s ← get
  let post ← orActive (s.rules.usage s.params.owner .core)
  let verdict := evaluate s.params.preMass post s.params.threshold
  if verdict.isTripped then
    Archive.count .tripped
    rollback summary post verdict.ratio
  else commit summary post verdict.ratio

/-! ## 4. Any action -/

/-- Performs an action. -/
def perform : Action → SessionM ActionOutcome
  | .search query => search query
  | .update id content => update id content
  | .delete id => delete id
  | .consolidate ids content => consolidate ids content
  | .protect id => protect id
  | .unprotect id => unprotect id
  | .complete summary => do
    let o ← complete summary
    return .completed o

/-- Counts how a call on a session went: as applied if it succeeded and changes something, as
rejected if it was refused and the driver may go on. -/
def counted {α : Type} (mutating : Bool) (x : SessionM α) : SessionM α :=
  ExceptT.mk do
    let r ← x.run
    match r with
    | .ok _ => if mutating then Archive.count .applied
    | .error e => if !e.isFatal then Archive.count .rejected
    return r

/-- **Performs an action and counts it.** -/
def dispatch (a : Action) : SessionM ActionOutcome :=
  counted a.isMutating (perform a)

end Session
end Curation
