/-
# The archive

A store behind its calls, together with what the calls draw on: the clock, the source of new
ids, the counters, and the faults that a test has armed.  A call is a function on the archive
that may fail; what it did to the archive before it failed stays done.

Each reading of the clock is later than the one before, and each new id differs from those
drawn before.
-/
import Curation.Store.Write
import Curation.Time.Clock
import Curation.Counters
import Curation.Error

namespace Curation

/-- Faults that are waiting to strike. -/
structure Faults where
  /-- The next batch stops before this op. -/
  batchAt : Option Nat
  /-- Each of these calls fails once it has been let through so many times. -/
  calls : List (StoreCall × Nat)
  deriving DecidableEq

namespace Faults

/-- No faults. -/
def none : Faults := ⟨.none, []⟩

/-- How often a call is let through before it fails, if it is to fail at all. -/
def passes? (f : Faults) (call : StoreCall) : Option Nat :=
  (f.calls.find? (·.1 == call)).map (·.2)

/-- Takes back the fault of a call. -/
def disarm (f : Faults) (call : StoreCall) : Faults :=
  { f with calls := f.calls.filter (·.1 != call) }

/-- Arms the fault of a call, in place of one that is armed for it already. -/
def arm (f : Faults) (call : StoreCall) (passes : Nat) : Faults :=
  { f with calls := (call, passes) :: (f.disarm call).calls }

/-- The last arming of a call counts. -/
theorem passes?_arm_self (f : Faults) (call : StoreCall) (passes : Nat) :
    (f.arm call passes).passes? call = some passes := by
  simp [passes?, arm]

/-- The arming of a call is nothing to the others. -/
theorem passes?_arm_of_ne (f : Faults) {call other : StoreCall} (h : other ≠ call) (passes : Nat) :
    (f.arm call passes).passes? other = f.passes? other := by
  have hothers : (f.disarm call).calls.find? (·.1 == other) = f.calls.find? (·.1 == other) := by
    rw [disarm, List.find?_filter]
    congr 1
    funext armed
    by_cases he : armed.1 = other
    · simp [he, h]
    · simp [he]
  rw [passes?, arm, List.find?_cons_of_neg (by simpa using Ne.symm h), hothers, passes?]

end Faults

/-- A batch that was handed to a store, and the store as it stood. -/
structure Handed where
  store : Store
  ops : List WriteOp

/-- **The archive.** -/
structure Archive where
  backend : Backend
  store : Store
  clock : Clock
  /-- How many ids have been drawn. -/
  drawn : Nat
  faults : Faults
  counters : Counters
  /-- The batches that were handed over so far, the last one first, whatever became of them.
  Nothing reads them; they are kept so that one can speak of them. -/
  handed : List Handed

/-- A call on the archive that a store may refuse. -/
abbrev StoreM := ExceptT StorageError (StateM Archive)

/-- A call on the archive that may be refused for any reason. -/
abbrev CurationM := ExceptT CurationError (StateM Archive)

/-- A refusal of the store, as one among the others. -/
def CurationM.ofStore {α : Type} (x : StoreM α) : CurationM α :=
  ExceptT.mk do
    match ← x.run with
    | .ok a => return .ok a
    | .error e => return .error (.storage e)

instance (priority := low) : MonadLift StoreM CurationM := ⟨CurationM.ofStore⟩

namespace Archive

/-- An archive around a store, with no faults armed and nothing counted. -/
def around (backend : Backend) (store : Store) (clock : Clock) (drawn : Nat) : Archive where
  backend := backend
  store := store
  clock := clock
  drawn := drawn
  faults := .none
  counters := .zero
  handed := []

/-! ## 1. Clock, ids and counters -/

/-- Reads the clock. -/
def now : StateM Archive Instant := do
  let a ← get
  set { a with clock := a.clock.advance }
  return a.clock.next

/-- Draws a new id. -/
def newId : StateM Archive String := do
  let a ← get
  set { a with drawn := a.drawn + 1 }
  return Ident.generated a.drawn

/-- Counts something. -/
def count (f : Counters → Counters) : StateM Archive Unit :=
  modify fun a => { a with counters := f a.counters }

/-- A new memory, live and unprotected. -/
def newMemory (owner : OwnerId) (content : String) (kind : MemoryKind) : StateM Archive Memory := do
  let id ← newId
  let t ← now
  return Memory.fresh ⟨id⟩ owner content kind t

/-- A new audit entry with its digest. -/
def newEntry (session : SessionId) (owner : OwnerId) (seq : Nat) (action : AuditAction)
    (subject : List MemoryId) (payload : Json) : StateM Archive AuditEntry := do
  let id ← newId
  let t ← now
  return AuditEntry.make ⟨id⟩ t session owner seq action subject payload

/-! ## 2. The calls of the store -/

/-- Lets a call through, unless a fault is armed for it and it has used up its passes.  A
fault that has struck is disarmed; those of other calls stay armed. -/
def gate (call : StoreCall) : StoreM Unit := do
  let a ← get
  match a.faults.passes? call with
  | some 0 =>
    set { a with faults := a.faults.disarm call }
    throw (.backend (.injected call))
  | some (n + 1) => set { a with faults := a.faults.arm call n }
  | none => return ()

/-- Replaces the store by the result of a change, if the change is not refused. -/
def change (f : Backend → Store → Except StorageError Store) : StoreM Unit := do
  let a ← get
  match f a.backend a.store with
  | .ok s => set { a with store := s }
  | .error e => throw e

/-- Adds a memory whose id is not taken. -/
def insertMemory (m : Memory) : StoreM Memory := do
  gate .insertMemory
  change fun _ s => s.insert m
  return m

/-- The memory of an id, tombstoned or not. -/
def getMemory (id : MemoryId) : StoreM Memory := do
  gate .getMemory
  match (← get).store.memory? id with
  | some m => return m
  | none => throw (.memoryNotFound id)

/-- The memories of an owner that a filter shows, oldest first. -/
def listMemories (owner : OwnerId) (filter : MemoryFilter) : StoreM (List Memory) := do
  gate .listMemories
  return (← get).store.list owner filter

/-- Adds an audit entry. -/
def append (e : AuditEntry) : StoreM Unit := do
  gate .append
  change fun b s => s.append b e

/-- The entries of a session, the last one first. -/
def forSession (session : SessionId) : StoreM (List AuditEntry) := do
  gate .forSession
  return (← get).store.forSession session

/-- The entries of an owner, oldest first. -/
def forOwner (owner : OwnerId) : StoreM (List AuditEntry) := do
  gate .forOwner
  let a ← get
  return a.store.forOwner a.backend owner

/-- The settings of an owner. -/
def ownerSettings (owner : OwnerId) : StoreM OwnerSettings := do
  gate .ownerSettings
  return (← get).store.settingsOf owner

/-- Sets the threshold of an owner. -/
def setThreshold (owner : OwnerId) (threshold : Threshold) : StoreM OwnerSettings := do
  gate .setThreshold
  change fun b s => s.configure b owner fun t => { t with threshold := some threshold }
  return (← get).store.settingsOf owner

/-- The armed op of the next batch; asking disarms it, whether the batch reaches it or not. -/
def takeBatchFault : StateM Archive (Option Nat) := do
  let a ← get
  set { a with faults := { a.faults with batchAt := none } }
  return a.faults.batchAt

/-- Takes note of a batch that is handed over. -/
def hand (ops : List WriteOp) : StateM Archive Unit :=
  modify fun a => { a with handed := ⟨a.store, ops⟩ :: a.handed }

/-- **Applies a batch**, all of it or nothing, at one reading of the clock. -/
def applyBatch (ops : List WriteOp) : StoreM Unit := do
  hand ops
  gate .applyBatch
  let fault ← takeBatchFault
  let t ← now
  change fun b s => s.applyBatch b t fault ops

/-! ## 3. Arming faults -/

/-- Makes the next batch stop before an op. -/
def failBatchAt (index : Nat) : StateM Archive Unit :=
  modify fun a => { a with faults := { a.faults with batchAt := some index } }

/-- Makes a call fail after so many passes. -/
def failCall (call : StoreCall) (passes : Nat) : StateM Archive Unit :=
  modify fun a => { a with faults := a.faults.arm call passes }

end Archive
end Curation
