/-
# Undoing a session

Each forward entry is undone by ops that are read off the entry alone.  Entries are undone
from the last to the first, and the whole of it is written in one batch together with the
rollback's own entry, its journal memory and the stamp of the refinement.
-/
import Curation.Audit.Payload
import Curation.Error
import Curation.Archive

namespace Curation

namespace AuditEntry

/-- Refuses to undo an entry. -/
def corrupt {α : Type} (e : AuditEntry) (fault : TrailFault) : Except CurationError α :=
  .error (.corruptTrail e.id fault)

/-- The payload of an entry, which must have the shape of its action. -/
def payloadAs {α : Type} (e : AuditEntry) (d : Decoder α) : Except CurationError α :=
  match d e.payload with
  | .ok a => .ok a
  | .error cause => e.corrupt (.payload e.action cause)

/-- The one memory that an entry is about. -/
def singleSubject (e : AuditEntry) : Except CurationError MemoryId :=
  match e.subject with
  | [id] => .ok id
  | ids => e.corrupt (.subjectCount ids.length)

/-- The ops that undo a merge: the result is deleted and the sources come back. -/
def mergeInverse (p : ConsolidatePayload) : List WriteOp :=
  .setTombstone p.result.id true :: p.merged.map fun m => .setTombstone m.id false

/-- **The ops that undo one entry.**  An entry whose digest does not fit is not trusted. -/
def inverse (e : AuditEntry) : Except CurationError (List WriteOp) := do
  if !e.verifies then e.corrupt .digestMismatch
  else
    match e.action with
    | .delete =>
      let _ ← e.payloadAs DeletePayload.decode
      let id ← e.singleSubject
      return [.setTombstone id false]
    | .update =>
      let p ← e.payloadAs UpdatePayload.decode
      let id ← e.singleSubject
      return [.setContent id p.before]
    | .consolidate =>
      let p ← e.payloadAs ConsolidatePayload.decode
      return mergeInverse p
    | .protect =>
      let id ← e.singleSubject
      return [.setConstitutional id false]
    | .unprotect =>
      let id ← e.singleSubject
      return [.setConstitutional id true]
    | .sessionComplete | .sessionRollback => e.corrupt .closed

/-- Refuses an entry that does not come before the one just undone. -/
def inOrder (last : Option Nat) (e : AuditEntry) : Except CurationError Unit :=
  match last with
  | some seq => if seq ≤ e.seq then e.corrupt .outOfOrder else .ok ()
  | none => .ok ()

/-- The ops that undo some entries, the place of the one undone before them being known. -/
def unwindAfter : Option Nat → List AuditEntry → Except CurationError (List WriteOp)
  | _, [] => .ok []
  | last, e :: es => do
    e.inOrder last
    let ops ← e.inverse
    let rest ← unwindAfter (some e.seq) es
    return ops ++ rest

/-- **The ops that undo a trail**, given with the last entry first. -/
def unwind (entries : List AuditEntry) : Except CurationError (List WriteOp) :=
  unwindAfter none entries

end AuditEntry

/-! ## The batch of a rollback -/

/-- A journal memory's text, cut to a length with a mark where something is missing. -/
def journalText (limit : Nat) (text : String) : String :=
  if limit < text.length then String.ofList (text.toList.take (limit - 1) ++ ['…']) else text

/-- A new journal memory. -/
def newJournal (owner : OwnerId) (limit : Nat) (text : String) : StateM Archive Memory :=
  Archive.newMemory owner (journalText limit text) .journal

/-- What a rollback records besides the undoing itself. -/
structure RollbackRecord where
  session : SessionId
  owner : OwnerId
  /-- The place of the rollback's own entry. -/
  seq : Nat
  payload : RollbackPayload
  journal : Memory

/-- **The batch of a rollback**: the undoing, the entry, the journal and the stamp. -/
def rollbackBatch (entries : List AuditEntry) (r : RollbackRecord) :
    CurationM (List WriteOp) := do
  let undo ← AuditEntry.unwind entries
  let entry ← Archive.newEntry r.session r.owner r.seq .sessionRollback [] r.payload.encode
  let time ← Archive.now
  return undo ++ [.appendAudit entry, .insertMemory r.journal, .stampRefined r.owner time]

end Curation
