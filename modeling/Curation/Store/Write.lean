/-
# Writing in batches

A batch is a list of ops that are applied in order, all of them or none.  The ops are worked
out on a value of the store, so a batch that stops halfway has changed nothing.
-/
import Curation.Store.Basic

namespace Curation

/-- One op of a batch. -/
inductive WriteOp where
  | insertMemory (memory : Memory)
  | setTombstone (id : MemoryId) (value : Bool)
  | setContent (id : MemoryId) (content : String)
  | setConstitutional (id : MemoryId) (value : Bool)
  | appendAudit (entry : AuditEntry)
  | stampRefined (owner : OwnerId) (time : Instant)
  deriving DecidableEq

/-- The name of an op, as messages give it. -/
def WriteOp.label : WriteOp → String
  | .insertMemory _ => "insert_memory"
  | .setTombstone _ _ => "set_tombstone"
  | .setContent _ _ => "set_content"
  | .setConstitutional _ _ => "set_constitutional"
  | .appendAudit _ => "append_audit"
  | .stampRefined _ _ => "stamp_refined"

/-- **Flipping a tombstone.**  A memory that is tombstoned already keeps the time at which it
was; clearing a tombstone that is not set leaves a time alone in memory and clears it in the
database. -/
def Memory.setTombstone (backend : Backend) (now : Instant) (value : Bool) (m : Memory) : Memory :=
  if m.tombstoned = value then
    (if value = false ∧ backend = .database then { m with tombstonedAt := none } else m)
  else { m with tombstoned := value, tombstonedAt := if value then some now else none }

namespace Store

/-- Applies one op at a time of day. -/
def apply (backend : Backend) (now : Instant) (s : Store) : WriteOp → Except StorageError Store
  | .insertMemory m => s.insert m
  | .setTombstone id value => s.change id (Memory.setTombstone backend now value)
  | .setContent id content => s.change id fun m => { m with content := content }
  | .setConstitutional id value => s.change id fun m => { m with constitutional := value }
  | .appendAudit e => s.append backend e
  | .stampRefined owner time =>
    s.configure backend owner fun t => { t with lastRefinedAt := some time }

/-- Applies the ops of a batch from a place on, stopping before the op at which a fault is
armed. -/
def applyFrom (backend : Backend) (now : Instant) (fault : Option Nat) :
    Nat → List WriteOp → Store → Except StorageError Store
  | _, [], s => .ok s
  | i, op :: ops, s =>
    if fault = some i then .error (.opInjected i op.label)
    else
      match s.apply backend now op with
      | .error e => .error (.opFailed i e)
      | .ok s => applyFrom backend now fault (i + 1) ops s

/-- **Applies a batch**, all of it or nothing. -/
def applyBatch (backend : Backend) (now : Instant) (fault : Option Nat) (ops : List WriteOp)
    (s : Store) : Except StorageError Store :=
  applyFrom backend now fault 0 ops s

end Store
end Curation
