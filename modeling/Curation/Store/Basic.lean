/-
# The store

What is kept: the memories, the audit trail and the settings of owners.  Memories and
entries stand in the order in which they came.

There are two backends.  They keep the same promises; the database also refuses a second
audit entry of one name or of one place in its session, keeps payloads in their normal form,
clears the time of a tombstone whenever the tombstone is cleared, lists an owner's entries by
their times, and has no row for the empty owner.
-/
import Curation.Audit.Entry
import Curation.Sorting

namespace Curation

/-- Where a store is kept. -/
inductive Backend where
  | inMemory
  | database
  deriving DecidableEq, Inhabited

/-- The settings of one owner. -/
structure OwnerSettings where
  owner : OwnerId
  /-- The owner's own threshold; absent where the configured one applies. -/
  threshold : Option Threshold
  lastRefinedAt : Option Instant
  deriving DecidableEq

namespace OwnerSettings

/-- The settings of an owner for whom nothing was ever set. -/
def unset (owner : OwnerId) : OwnerSettings := ⟨owner, none, none⟩

/-- Decodes settings. -/
def decode : Decoder OwnerSettings :=
  Decoder.record "OwnerSettings"
    (OwnerSettings.mk <$> .field "owner_id" OwnerId.decode
      <*> .optional "threshold" Decoder.threshold
      <*> .optional "last_refined_at" Decoder.instant)

/-- Settings as a value. -/
def encode (s : OwnerSettings) : Json :=
  .obj [("owner_id", .str s.owner.text),
    ("threshold", .ofOption (fun t => .real t.value) s.threshold),
    ("last_refined_at", .ofOption (fun t => .str t.text) s.lastRefinedAt)]

end OwnerSettings

/-- **The store.** -/
structure Store where
  memories : List Memory
  trail : List AuditEntry
  settings : List OwnerSettings
  deriving DecidableEq

namespace Store

/-- A store with nothing in it. -/
def empty : Store := ⟨[], [], []⟩

instance : Inhabited Store := ⟨empty⟩

/-! ## 1. Looking things up -/

/-- The memory of an id. -/
def memory? (s : Store) (id : MemoryId) : Option Memory :=
  s.memories.find? (·.id == id)

/-- Older first, and by id among those of one time. -/
def older (a b : Memory) : Bool :=
  if a.createdAt = b.createdAt then decide (a.id.text ≤ b.id.text) else a.createdAt.le b.createdAt

/-- The memories of an owner that a filter shows, oldest first. -/
def list (s : Store) (owner : OwnerId) (filter : MemoryFilter) : List Memory :=
  sortBy older (s.memories.filter fun m => m.owner == owner && filter.shows m)

/-- The entries of a session, the last one first. -/
def forSession (s : Store) (session : SessionId) : List AuditEntry :=
  sortBy (fun a b => decide (b.seq ≤ a.seq)) (s.trail.filter (·.session == session))

/-- Earlier first, and by place in the session among those of one time. -/
def earlier (a b : AuditEntry) : Bool :=
  if a.createdAt = b.createdAt then decide (a.seq ≤ b.seq) else a.createdAt.le b.createdAt

/-- The entries of an owner, oldest first. -/
def forOwner (backend : Backend) (s : Store) (owner : OwnerId) : List AuditEntry :=
  let own := s.trail.filter (·.owner == owner)
  match backend with
  | .inMemory => own
  | .database => sortBy earlier own

/-- The settings of an owner. -/
def settingsOf (s : Store) (owner : OwnerId) : OwnerSettings :=
  (s.settings.find? (·.owner == owner)).getD (.unset owner)

/-! ## 2. Single changes -/

/-- Adds a memory whose id is not taken. -/
def insert (s : Store) (m : Memory) : Except StorageError Store :=
  if (s.memory? m.id).isSome then .error (.duplicateMemory m.id)
  else .ok { s with memories := s.memories ++ [m] }

/-- Changes the memory of an id. -/
def change (s : Store) (id : MemoryId) (f : Memory → Memory) : Except StorageError Store :=
  if (s.memory? id).isSome then
    .ok { s with memories := s.memories.map fun m => if m.id == id then f m else m }
  else .error (.memoryNotFound id)

/-- Adds an audit entry. -/
def append (backend : Backend) (s : Store) (e : AuditEntry) : Except StorageError Store :=
  match backend with
  | .inMemory => .ok { s with trail := s.trail ++ [e] }
  | .database =>
    if s.trail.any fun old => old.id == e.id || (old.session == e.session && old.seq == e.seq) then
      .error (.backend (.repeatedEntry e.id))
    else .ok { s with trail := s.trail ++ [{ e with payload := e.payload.normal }] }

/-- Changes the settings of an owner, from the unset ones if there are none. -/
def configure (backend : Backend) (s : Store) (owner : OwnerId)
    (f : OwnerSettings → OwnerSettings) : Except StorageError Store :=
  if backend = .database ∧ owner.text = "" then .error (.backend .unnamedOwner)
  else if s.settings.any (·.owner == owner) then
    .ok { s with settings := s.settings.map fun t => if t.owner == owner then f t else t }
  else .ok { s with settings := s.settings ++ [f (.unset owner)] }

end Store
end Curation
