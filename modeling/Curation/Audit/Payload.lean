/-
# Payloads

Each forward action has a payload with exactly the state that undoing it needs, so an undo
never looks anywhere else.  The two closing actions have payloads for the record.
-/
import Curation.Audit.Entry

namespace Curation

/-- A memory as it was when it was merged or made. -/
structure MemorySnapshot where
  id : MemoryId
  content : String
  deriving DecidableEq

/-- The text of a memory before and after an update. -/
structure UpdatePayload where
  before : String
  after : String
  deriving DecidableEq

/-- The text of a memory before it was deleted; there is none after. -/
structure DeletePayload where
  before : String
  after : Option String
  deriving DecidableEq

/-- The memories merged, and the one made of them. -/
structure ConsolidatePayload where
  merged : List MemorySnapshot
  result : MemorySnapshot
  deriving DecidableEq

/-- Changing a flag needs no state. -/
structure FlagPayload where
  deriving DecidableEq

/-- A session that was committed. -/
structure CompletePayload where
  session : SessionId
  summary : String
  stats : SessionStats
  deriving DecidableEq

/-- A session that was rolled back. -/
structure RollbackPayload where
  /-- Absent when the session was recovered and its first measurement is lost. -/
  preMass : Option Nat
  postMass : Nat
  threshold : Binary64
  stats : SessionStats
  reason : String
  deriving DecidableEq

/-! ## 1. Decoding -/

/-- Decodes a snapshot. -/
def MemorySnapshot.decode : Decoder MemorySnapshot :=
  Decoder.record "MemorySnapshot"
    (MemorySnapshot.mk <$> .field "id" MemoryId.decode <*> .field "content" Decoder.text)

/-- Decodes an update. -/
def UpdatePayload.decode : Decoder UpdatePayload :=
  Decoder.record "UpdatePayload"
    (UpdatePayload.mk <$> .field "before" Decoder.text <*> .field "after" Decoder.text)

/-- Decodes a deletion. -/
def DeletePayload.decode : Decoder DeletePayload :=
  Decoder.record "DeletePayload"
    (DeletePayload.mk <$> .field "before" Decoder.text
      <*> .defaulted "after" Decoder.text.optional none)

/-- Decodes a merge. -/
def ConsolidatePayload.decode : Decoder ConsolidatePayload :=
  Decoder.record "ConsolidatePayload"
    (ConsolidatePayload.mk <$> .field "merged" (Decoder.list MemorySnapshot.decode)
      <*> .field "result" MemorySnapshot.decode)

/-- Decodes a change of a flag. -/
def FlagPayload.decode : Decoder FlagPayload :=
  Decoder.record "FlagPayload" (pure FlagPayload.mk)

/-- Decodes a commit. -/
def CompletePayload.decode : Decoder CompletePayload :=
  Decoder.record "CompletePayload"
    (CompletePayload.mk <$> .field "session_id" SessionId.decode
      <*> .field "summary" Decoder.text <*> .field "stats" SessionStats.decode)

/-- Decodes a rollback. -/
def RollbackPayload.decode : Decoder RollbackPayload :=
  Decoder.record "RollbackPayload"
    (RollbackPayload.mk <$> .optional "pre_session_mass" Decoder.word64
      <*> .field "post_session_mass" Decoder.word64 <*> .field "threshold" Decoder.double
      <*> .field "stats" SessionStats.decode <*> .field "reason" Decoder.text)

/-! ## 2. Encoding -/

/-- A snapshot as a value. -/
def MemorySnapshot.encode (p : MemorySnapshot) : Json :=
  .obj [("id", .str p.id.text), ("content", .str p.content)]

/-- An update as a value. -/
def UpdatePayload.encode (p : UpdatePayload) : Json :=
  .obj [("before", .str p.before), ("after", .str p.after)]

/-- A deletion as a value. -/
def DeletePayload.encode (p : DeletePayload) : Json :=
  .obj [("before", .str p.before), ("after", .ofOption .str p.after)]

/-- A merge as a value. -/
def ConsolidatePayload.encode (p : ConsolidatePayload) : Json :=
  .obj [("merged", .arr (p.merged.map MemorySnapshot.encode)), ("result", p.result.encode)]

/-- A change of a flag as a value. -/
def FlagPayload.encode (_ : FlagPayload) : Json := .empty

/-- A commit as a value. -/
def CompletePayload.encode (p : CompletePayload) : Json :=
  .obj [("session_id", .str p.session.text), ("summary", .str p.summary),
    ("stats", p.stats.encode)]

/-- A rollback as a value. -/
def RollbackPayload.encode (p : RollbackPayload) : Json :=
  .obj [("pre_session_mass", .ofOption .ofNat p.preMass), ("post_session_mass", .ofNat p.postMass),
    ("threshold", .ofDouble p.threshold), ("stats", p.stats.encode), ("reason", .str p.reason)]

end Curation
