/-
# Audit entries

One entry records one action on some memories, with a payload that says what was there
before.  Its digest covers the session, the action, the memories and the payload, so a later
change of any of them shows.  The digest is taken of the canonical text, so a store that
reorders members or drops null ones does no harm.
-/
import Curation.Audit.Action
import Curation.Json.Canonical
import Curation.Memory.Basic

namespace Curation

/-- One line of the audit trail. -/
structure AuditEntry where
  id : EntryId
  session : SessionId
  owner : OwnerId
  /-- The place in the session, counted from one in a word of 64 bits: fewer than `2 ^ 64` are
  taken. -/
  seq : Nat
  action : AuditAction
  /-- The memories the entry is about; none for an entry about the session itself. -/
  subject : List MemoryId
  payload : Json
  digest : ContentDigest
  createdAt : Instant
  deriving DecidableEq, Inhabited

namespace AuditEntry

/-- A list of memory ids as a value. -/
def subjectJson (subject : List MemoryId) : Json :=
  .arr (subject.map fun id => .str id.text)

/-- What the digest covers, as one value. -/
def covered (session : SessionId) (action : AuditAction) (subject : List MemoryId)
    (payload : Json) : Json :=
  .obj [("session_id", .str session.text), ("action", action.encode),
    ("subject_ref", subjectJson subject), ("payload", payload)]

/-- The digest of an entry with these fields. -/
def digestOf (session : SessionId) (action : AuditAction) (subject : List MemoryId)
    (payload : Json) : ContentDigest :=
  ContentDigest.ofText (covered session action subject payload).canonical

/-- A new entry with its digest. -/
def make (id : EntryId) (created : Instant) (session : SessionId) (owner : OwnerId) (seq : Nat)
    (action : AuditAction) (subject : List MemoryId) (payload : Json) : AuditEntry where
  id := id
  session := session
  owner := owner
  seq := seq
  action := action
  subject := subject
  payload := payload
  digest := digestOf session action subject payload
  createdAt := created

/-- Whether the digest still fits the entry. -/
def verifies (e : AuditEntry) : Bool :=
  digestOf e.session e.action e.subject e.payload == e.digest

/-- The tally of some entries. -/
def stats (entries : List AuditEntry) : SessionStats :=
  SessionStats.ofActions (entries.map AuditEntry.action)

/-- Decodes an entry. -/
def decode : Decoder AuditEntry :=
  Decoder.record "AuditEntry"
    (AuditEntry.mk <$> .field "entry_id" EntryId.decode <*> .field "session_id" SessionId.decode
      <*> .field "owner_id" OwnerId.decode <*> .field "seq" Decoder.word64
      <*> .field "action" AuditAction.decode
      <*> .field "subject_ref" (Decoder.list MemoryId.decode)
      <*> .field "payload" Decoder.any <*> .field "payload_digest" Decoder.digest
      <*> .field "created_at" Decoder.instant)

/-- An entry as a value. -/
def encode (e : AuditEntry) : Json :=
  .obj [("entry_id", .str e.id.text), ("session_id", .str e.session.text),
    ("owner_id", .str e.owner.text), ("seq", .ofNat e.seq), ("action", e.action.encode),
    ("subject_ref", subjectJson e.subject), ("payload", e.payload),
    ("payload_digest", .str e.digest.hex), ("created_at", .str e.createdAt.text)]

/-- A new entry verifies. -/
@[simp] theorem verifies_make (id : EntryId) (created : Instant) (session : SessionId)
    (owner : OwnerId) (seq : Nat) (action : AuditAction) (subject : List MemoryId)
    (payload : Json) :
    (make id created session owner seq action subject payload).verifies = true := by
  simp [verifies, make]

end AuditEntry
end Curation
