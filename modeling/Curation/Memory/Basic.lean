/-
# Memories

A memory is one remembered text of one owner.  Memories are never erased: deleting one sets
a flag that can be cleared again.  A constitutional memory is protected from deletion and
from changes of its text while the flag is set.
-/
import Curation.Record.Decoder

namespace Curation

/-! ## 1. Kinds -/

/-- What a memory is for.  Only core memories count towards the mass that a session must
keep; journal memories report on sessions. -/
inductive MemoryKind where
  | core
  | journal
  deriving DecidableEq, Inhabited

namespace MemoryKind

/-- The name of a kind. -/
def name : MemoryKind → String
  | .core => "core"
  | .journal => "journal"

/-- The kinds by name. -/
def byName : List (String × MemoryKind) := [("core", .core), ("journal", .journal)]

/-- Reading the name of a kind. -/
def read (text : String) : Except StorageError MemoryKind :=
  match byName.find? (·.1 == text) with
  | some (_, k) => .ok k
  | none => .error (.invalidSetting (.unknownKind text))

/-- Decodes a kind. -/
def decode : Decoder MemoryKind := Decoder.variant byName

/-- A kind as a value. -/
def encode (k : MemoryKind) : Json := .str k.name

theorem read_name (k : MemoryKind) : read k.name = .ok k := by
  cases k <;> rfl

end MemoryKind

/-! ## 2. Memories -/

/-- One remembered text. -/
structure Memory where
  id : MemoryId
  owner : OwnerId
  content : String
  kind : MemoryKind
  constitutional : Bool
  tombstoned : Bool
  tombstonedAt : Option Instant
  createdAt : Instant
  deriving DecidableEq, Inhabited

/-- Decodes the id of a memory. -/
def MemoryId.decode : Decoder MemoryId := fun j => (Decoder.text j).map MemoryId.mk

/-- Decodes the id of an owner. -/
def OwnerId.decode : Decoder OwnerId := fun j => (Decoder.text j).map OwnerId.mk

/-- Decodes the id of a session. -/
def SessionId.decode : Decoder SessionId := fun j => (Decoder.text j).map SessionId.mk

/-- Decodes the id of an audit entry. -/
def EntryId.decode : Decoder EntryId := fun j => (Decoder.text j).map EntryId.mk

namespace Memory

/-- A live memory without protection. -/
def fresh (id : MemoryId) (owner : OwnerId) (content : String) (kind : MemoryKind)
    (created : Instant) : Memory where
  id := id
  owner := owner
  content := content
  kind := kind
  constitutional := false
  tombstoned := false
  tombstonedAt := none
  createdAt := created

/-- Not deleted. -/
def isLive (m : Memory) : Bool := !m.tombstoned

/-- Decodes a memory. -/
def decode : Decoder Memory :=
  Decoder.record "Memory"
    (Memory.mk <$> .field "memory_id" MemoryId.decode <*> .field "owner_id" OwnerId.decode
      <*> .field "content" Decoder.text <*> .field "kind" MemoryKind.decode
      <*> .field "constitutional" Decoder.bool <*> .field "tombstoned" Decoder.bool
      <*> .optional "tombstoned_at" Decoder.instant <*> .field "created_at" Decoder.instant)

/-- A memory as a value. -/
def encode (m : Memory) : Json :=
  .obj [("memory_id", .str m.id.text), ("owner_id", .str m.owner.text),
    ("content", .str m.content), ("kind", m.kind.encode),
    ("constitutional", .bool m.constitutional), ("tombstoned", .bool m.tombstoned),
    ("tombstoned_at", .ofOption (fun t => .str t.text) m.tombstonedAt),
    ("created_at", .str m.createdAt.text)]

end Memory

/-! ## 3. Filters -/

/-- Which memories a listing shows. -/
structure MemoryFilter where
  /-- Only this kind; every kind when absent. -/
  kind : Option MemoryKind
  includeTombstoned : Bool
  deriving DecidableEq

namespace MemoryFilter

/-- The live memories of one kind. -/
def live (kind : MemoryKind) : MemoryFilter := ⟨some kind, false⟩

/-- The live memories of every kind. -/
def liveAll : MemoryFilter := ⟨none, false⟩

/-- Whether a listing shows a memory. -/
def shows (f : MemoryFilter) (m : Memory) : Bool :=
  (f.includeTombstoned || !m.tombstoned) &&
    (match f.kind with
     | none => true
     | some k => k == m.kind)

end MemoryFilter
end Curation
