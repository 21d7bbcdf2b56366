/-
# The calls of a store as data

Whoever holds a store makes calls on it, in any order and with anything in them.  A `StoreRequest`
is one such call and a `StoreReply` what it answers, so that a sequence of calls is a list.

A call that is let through applies its ops, each of them or none; a call that only reads has none.
Where no faults are armed every call is let through, and `effect` says what it does to the store at
a reading of the clock.
-/
import Curation.Proofs.Calls

namespace Curation

/-- A call on a store. -/
inductive StoreRequest where
  | insertMemory (memory : Memory)
  | getMemory (id : MemoryId)
  | listMemories (owner : OwnerId) (filter : MemoryFilter)
  | append (entry : AuditEntry)
  | forSession (session : SessionId)
  | ownerSettings (owner : OwnerId)
  | setThreshold (owner : OwnerId) (threshold : Threshold)
  | applyBatch (ops : List WriteOp)

/-- What a store answers to a call that is let through. -/
inductive StoreReply where
  | done
  | memory (memory : Memory)
  | memories (memories : List Memory)
  | entries (entries : List AuditEntry)
  | settings (settings : OwnerSettings)

namespace StoreRequest

/-- **Makes the call.** -/
def serve : StoreRequest → StoreM StoreReply
  | .insertMemory memory => do return .memory (← Archive.insertMemory memory)
  | .getMemory id => do return .memory (← Archive.getMemory id)
  | .listMemories owner filter => do return .memories (← Archive.listMemories owner filter)
  | .append entry => do
    Archive.append entry
    return .done
  | .forSession session => do return .entries (← Archive.forSession session)
  | .ownerSettings owner => do return .settings (← Archive.ownerSettings owner)
  | .setThreshold owner threshold => do
    return .settings (← Archive.setThreshold owner threshold)
  | .applyBatch ops => do
    Archive.applyBatch ops
    return .done

/-- The ops that a call applies. -/
def ops : StoreRequest → List WriteOp
  | .insertMemory memory => [.insertMemory memory]
  | .append entry => [.appendAudit entry]
  | .applyBatch ops => ops
  | .getMemory _ | .listMemories _ _ | .forSession _ | .ownerSettings _ | .setThreshold _ _ => []

/-- **What a call does to a store**: what it answers and leaves, or why it is refused. -/
def effect (b : Backend) (t : Instant) (σ : Store) :
    StoreRequest → Except StorageError (StoreReply × Store)
  | .insertMemory memory => do return (.memory memory, ← σ.insert memory)
  | .getMemory id =>
    match σ.memory? id with
    | some memory => .ok (.memory memory, σ)
    | none => .error (.memoryNotFound id)
  | .listMemories owner filter => .ok (.memories (σ.list owner filter), σ)
  | .append entry => do return (.done, ← σ.append b entry)
  | .forSession session => .ok (.entries (σ.forSession session), σ)
  | .ownerSettings owner => .ok (.settings (σ.settingsOf owner), σ)
  | .setThreshold owner threshold => do
    let σ' ← σ.configure b owner fun s => { s with threshold := some threshold }
    return (.settings (σ'.settingsOf owner), σ')
  | .applyBatch ops => do return (.done, ← σ.applyBatch b t none ops)

/-- The archive after a call whose effect is known: the clock may have been read, and a batch
handed over. -/
def outcome (a : Archive) (clock : Clock) (handed : List Handed) :
    Except StorageError (StoreReply × Store) → Except StorageError StoreReply × Archive
  | .ok (v, σ) => (.ok v, { a with store := σ, clock := clock, handed := handed })
  | .error e => (.error e, { a with clock := clock, handed := handed })

/-- **A call has its effect**, where no faults are armed. -/
theorem answer_serve {a : Archive} (ha : a.faults = .none) (r : StoreRequest) :
    ∃ clock handed,
      a.answer r.serve = outcome a clock handed (r.effect a.backend a.clock.next a.store) := by
  have hgate := fun call => Archive.answer_gate_of_none ha call
  cases r with
  | insertMemory memory =>
    refine ⟨a.clock, a.handed, ?_⟩
    simp only [serve, Archive.insertMemory, effect, Archive.answer_bind, hgate,
      Archive.answer_change]
    cases a.store.insert memory <;> rfl
  | getMemory id =>
    refine ⟨a.clock, a.handed, ?_⟩
    simp only [serve, Archive.getMemory, effect, Archive.answer_bind, hgate, Archive.answer_get]
    cases a.store.memory? id <;> rfl
  | listMemories owner filter =>
    exact ⟨a.clock, a.handed, by
      simp only [serve, Archive.listMemories, Archive.answer_bind, hgate]
      rfl⟩
  | append entry =>
    refine ⟨a.clock, a.handed, ?_⟩
    simp only [serve, Archive.append, effect, Archive.answer_bind, hgate, Archive.answer_change]
    cases a.store.append a.backend entry <;> rfl
  | forSession session =>
    exact ⟨a.clock, a.handed, by
      simp only [serve, Archive.forSession, Archive.answer_bind, hgate]
      rfl⟩
  | ownerSettings owner =>
    exact ⟨a.clock, a.handed, by
      simp only [serve, Archive.ownerSettings, Archive.answer_bind, hgate]
      rfl⟩
  | setThreshold owner threshold =>
    refine ⟨a.clock, a.handed, ?_⟩
    simp only [serve, Archive.setThreshold, effect, Archive.answer_bind, hgate,
      Archive.answer_change]
    cases a.store.configure a.backend owner fun s => { s with threshold := some threshold } <;> rfl
  | applyBatch ops =>
    -- the batch takes its fault even where there is none
    obtain ⟨b, σ, clock, drawn, faults, counters, handed⟩ := a
    obtain rfl : faults = .none := ha
    have hgate := Archive.answer_gate_of_none
      (a := ⟨b, σ, clock, drawn, .none, counters, ⟨σ, ops⟩ :: handed⟩) rfl .applyBatch
    have hfault : Faults.none.batchAt = none := rfl
    refine ⟨clock.advance, ⟨σ, ops⟩ :: handed, ?_⟩
    simp only [serve, Archive.applyBatch, effect, Archive.answer_bind, Archive.answer_lift,
      Archive.run_hand, hgate, Archive.answer_change, Archive.run_takeBatchFault, Archive.run_now,
      hfault]
    cases σ.applyBatch b clock.next .none ops <;> rfl

theorem isOk_answer {a : Archive} (ha : a.faults = .none) (r : StoreRequest) :
    (a.answer r.serve).1.isOk = (r.effect a.backend a.clock.next a.store).isOk := by
  obtain ⟨clock, handed, h⟩ := r.answer_serve ha
  rw [h]
  cases r.effect a.backend a.clock.next a.store <;> rfl

end StoreRequest
end Curation
