/-
# The scripts of the database

A database is not handed the ops of a batch but a script: statements that create rows, look for
them, update those that a condition picks out, and create or update the row of an owner.  The
statements of a script are run one after the other and a script is one transaction, so it is applied
as a whole or not at all.

`Statement` is what such a statement can be and `execute` what it does to the tables.  Memories have
a unique index on their ids and entries have two, one on their ids and one on their places in their
sessions; a row that is named must have a name.  That a script does to the tables what the op or the
call does to the store is `run_statements` for an op and `toOption_effect` for a call.
-/
import Curation.Proofs.Store.Batch
import Curation.Proofs.Store.Interface

namespace Curation

/-! ## 1. Statements -/

/-- What an update assigns to the columns of a memory. -/
inductive Assignment where
  /-- `tombstoned = true, tombstoned_at = time::now()` -/
  | tombstone
  /-- `tombstoned = false, tombstoned_at = NONE` -/
  | restore
  | content (text : String)
  | constitutional (value : Bool)

/-- The row after an assignment. -/
def Assignment.assign (now : Instant) (m : Memory) : Assignment → Memory
  | .tombstone => { m with tombstoned := true, tombstonedAt := some now }
  | .restore => { m with tombstoned := false, tombstonedAt := none }
  | .content text => { m with content := text }
  | .constitutional value => { m with constitutional := value }

/-- What an upsert assigns to a column of the row of an owner. -/
inductive Setting where
  | threshold (value : Threshold)
  | refinedAt (time : Instant)

/-- The row after an assignment. -/
def Setting.assign (s : OwnerSettings) : Setting → OwnerSettings
  | .threshold value => { s with threshold := some value }
  | .refinedAt time => { s with lastRefinedAt := some time }

/-- A statement, with the values that are bound to its parameters. -/
inductive Statement where
  /-- `CREATE memories CONTENT $p` -/
  | createMemory (memory : Memory)
  /-- `LET $hit = (SELECT … WHERE memory_id = $p); IF array::len($hit) = 0 { THROW … }` -/
  | requireMemory (id : MemoryId)
  /-- `UPDATE memories SET … WHERE memory_id = $p`, and `AND tombstoned = false` if only live ones
  are meant. -/
  | updateMemories (set : Assignment) (id : MemoryId) (liveOnly : Bool)
  /-- `CREATE audit_entries CONTENT $p` -/
  | createEntry (entry : AuditEntry)
  /-- `UPSERT type::thing('owner_settings', $p) SET owner_id = $p, …` -/
  | upsertSettings (owner : OwnerId) (set : Setting)

/-- **The statements of an op.** -/
def WriteOp.statements : WriteOp → List Statement
  | .insertMemory m => [.createMemory m]
  | .setTombstone id true => [.requireMemory id, .updateMemories .tombstone id true]
  | .setTombstone id false => [.requireMemory id, .updateMemories .restore id false]
  | .setContent id text => [.requireMemory id, .updateMemories (.content text) id false]
  | .setConstitutional id value =>
    [.requireMemory id, .updateMemories (.constitutional value) id false]
  | .appendAudit e => [.createEntry e]
  | .stampRefined owner time => [.upsertSettings owner (.refinedAt time)]

/-- **The script of a call.**  A call that only reads changes no table, but a memory that is asked
for by its id must be there. -/
def StoreRequest.script : StoreRequest → List Statement
  | .insertMemory m => [.createMemory m]
  | .getMemory id => [.requireMemory id]
  | .append e => [.createEntry e]
  | .setThreshold owner value => [.upsertSettings owner (.threshold value)]
  | .applyBatch ops => ops.flatMap WriteOp.statements
  | .listMemories _ _ | .forSession _ | .ownerSettings _ => []

namespace Statement

/-! ## 2. Running them -/

/-- **What a statement does to the tables.**  The database is not a part of this library, and this
is all that is taken of it on trust:

* a statement does what it says: `CREATE` adds a row, `LET` with `IF` and `THROW` stops where the
  selection is empty, `UPDATE` assigns to every row that its condition picks out and to no other,
  and `UPSERT` updates the row that it names or creates it;
* unique indexes are enforced when a row is created: one on the ids of memories, one on the ids of
  entries and one on their places in their sessions;
* a record id is not the empty text, so that an upsert which names one is refused;
* the payload of an entry is kept as an object: the order of members and null members are lost.

That a statement which is refused ends its transaction, and that a transaction is applied as a whole
or not at all, is said by `run`, which gives the tables after the whole script or none. -/
def execute (now : Instant) (σ : Store) : Statement → Except StorageError Store
  | createMemory m =>
    if σ.memories.any (·.id == m.id) then .error (.duplicateMemory m.id)
    else .ok { σ with memories := σ.memories ++ [m] }
  | requireMemory id =>
    if (σ.memories.filter (·.id == id)).length = 0 then .error (.memoryNotFound id) else .ok σ
  | updateMemories set id liveOnly =>
    .ok { σ with memories := σ.memories.map fun m =>
      if m.id == id && !(liveOnly && m.tombstoned) then set.assign now m else m }
  | createEntry e =>
    if σ.trail.any (·.id == e.id) then .error (.backend (.repeatedEntry e.id))
    else if σ.trail.any fun old => old.session == e.session && old.seq == e.seq then
      .error (.backend (.repeatedEntry e.id))
    else .ok { σ with trail := σ.trail ++ [{ e with payload := e.payload.normal }] }
  | upsertSettings owner set =>
    if owner.text = "" then .error (.backend .unnamedOwner)
    else if σ.settings.any (·.owner == owner) then
      .ok { σ with settings := σ.settings.map fun s =>
        if s.owner == owner then set.assign s else s }
    else .ok { σ with settings := σ.settings ++ [set.assign (.unset owner)] }

/-- **Runs a script**, to its end or to the first statement that fails. -/
def run (now : Instant) : List Statement → Store → Except StorageError Store
  | [], σ => .ok σ
  | s :: rest, σ => execute now σ s >>= run now rest

variable {now : Instant} {σ : Store}

theorem run_singleton (s : Statement) : run now [s] σ = execute now σ s := by
  simp only [run]
  cases execute now σ s <;> rfl

theorem run_append : ∀ (before after : List Statement) (σ : Store),
    run now (before ++ after) σ = run now before σ >>= run now after
  | [], _, _ => rfl
  | s :: before, after, σ => by
    simp only [List.cons_append, run, bind_assoc]
    congr 1
    funext σ₁
    exact run_append before after σ₁

/-- The guard of an update looks for the memory. -/
theorem execute_requireMemory (id : MemoryId) :
    execute now σ (requireMemory id) =
      if (σ.memory? id).isSome then .ok σ else .error (.memoryNotFound id) := by
  have hguard : (σ.memories.filter (·.id == id)).length = 0 ↔ ¬ (σ.memory? id).isSome := by
    simp [Store.memory?, List.length_eq_zero_iff]
  rw [execute]
  by_cases hid : (σ.memory? id).isSome
  · rw [if_neg (fun h => hguard.mp h hid), if_pos hid]
  · rw [if_pos (hguard.mpr hid), if_neg hid]

/-- **A guarded update** is a change of a memory that must be there. -/
theorem run_guarded (set : Assignment) (id : MemoryId) (liveOnly : Bool) {f : Memory → Memory}
    (hf : ∀ m : Memory, f m = if !(liveOnly && m.tombstoned) then set.assign now m else m) :
    run now [requireMemory id, updateMemories set id liveOnly] σ = σ.change id f := by
  simp only [run, execute_requireMemory, Store.change]
  by_cases hid : (σ.memory? id).isSome
  · rw [if_pos hid, if_pos hid]
    refine congrArg Except.ok (congrArg (fun ms => { σ with memories := ms }) ?_)
    refine List.map_congr_left fun m _ => ?_
    rw [hf]
    cases m.id == id <;> rfl
  · rw [if_neg hid, if_neg hid]
    rfl

/-- **The index of the memories** refuses what the store refuses. -/
theorem execute_createMemory (m : Memory) : execute now σ (createMemory m) = σ.insert m := by
  simp only [execute, Store.insert, Store.memory?, List.isSome_find?]

/-- **The two indexes of the entries** refuse what the store refuses. -/
theorem execute_createEntry (e : AuditEntry) :
    execute now σ (createEntry e) = σ.append .database e := by
  have hany : (σ.trail.any fun old =>
        old.id == e.id || (old.session == e.session && old.seq == e.seq)) =
      (σ.trail.any (·.id == e.id) ||
        σ.trail.any fun old => old.session == e.session && old.seq == e.seq) := by
    rw [Bool.eq_iff_iff]
    simp [and_or_left, exists_or]
  simp only [execute, Store.append, hany]
  cases σ.trail.any (·.id == e.id) <;> rfl

/-- **An upsert** changes the settings of its owner. -/
theorem execute_upsertSettings (owner : OwnerId) (set : Setting)
    {f : OwnerSettings → OwnerSettings} (hf : ∀ s, f s = set.assign s) :
    execute now σ (upsertSettings owner set) = σ.configure .database owner f := by
  obtain rfl : f = (set.assign ·) := funext hf
  simp only [execute, Store.configure, true_and]

/-- **The statements of an op** do what the op does. -/
theorem run_statements (op : WriteOp) :
    run now op.statements σ = σ.apply .database now op := by
  cases op with
  | insertMemory m => exact (run_singleton _).trans (execute_createMemory m)
  | setTombstone id value =>
    cases value with
    | true =>
      refine run_guarded _ _ _ fun m => ?_
      cases hm : m.tombstoned <;> simp [Memory.setTombstone, Assignment.assign, hm]
    | false =>
      refine run_guarded _ _ _ fun m => ?_
      cases hm : m.tombstoned <;> simp [Memory.setTombstone, Assignment.assign, hm]
  | setContent id text => exact run_guarded _ _ _ fun m => rfl
  | setConstitutional id value => exact run_guarded _ _ _ fun m => rfl
  | appendAudit e => exact (run_singleton _).trans (execute_createEntry e)
  | stampRefined owner time =>
    exact (run_singleton _).trans (execute_upsertSettings _ _ fun _ => rfl)

/-- **A batch is its script**: it is refused if the script fails, and both leave the same. -/
theorem toOption_applyBatch (ops : List WriteOp) :
    (σ.applyBatch .database now none ops).toOption =
      (run now (ops.flatMap WriteOp.statements) σ).toOption := by
  unfold Store.applyBatch
  generalize 0 = i
  induction ops generalizing i σ with
  | nil => rfl
  | cons op ops ih =>
    rw [List.flatMap_cons, run_append, run_statements, Store.applyFrom_cons]
    cases σ.apply .database now op with
    | error e => rfl
    | ok σ₁ => exact ih (i + 1)

/-- **A call is its script**, for the tables. -/
theorem toOption_effect (now : Instant) (σ : Store) (r : StoreRequest) :
    (r.effect .database now σ).toOption.map (·.2) = (run now r.script σ).toOption := by
  cases r with
  | insertMemory m =>
    rw [StoreRequest.script, run_singleton, execute_createMemory, StoreRequest.effect]
    cases σ.insert m <;> rfl
  | getMemory id =>
    rw [StoreRequest.script, run_singleton, execute_requireMemory, StoreRequest.effect]
    cases σ.memory? id <;> rfl
  | append e =>
    rw [StoreRequest.script, run_singleton, execute_createEntry, StoreRequest.effect]
    cases σ.append .database e <;> rfl
  | setThreshold owner value =>
    rw [StoreRequest.script, run_singleton, execute_upsertSettings _ _ fun _ => rfl,
      StoreRequest.effect]
    simp only [Setting.assign]
    cases σ.configure .database owner fun s => { s with threshold := some value } <;> rfl
  | applyBatch ops =>
    rw [StoreRequest.script, ← toOption_applyBatch, StoreRequest.effect]
    cases σ.applyBatch .database now none ops <;> rfl
  | listMemories _ _ | forSession _ | ownerSettings _ => rfl

theorem run_of_effect_ok {r : StoreRequest} {v : StoreReply} {σ' : Store}
    (h : r.effect .database now σ = .ok (v, σ')) : run now r.script σ = .ok σ' := by
  have hscript := toOption_effect now σ r
  rw [h] at hscript
  cases hrun : run now r.script σ with
  | error e =>
    rw [hrun] at hscript
    cases hscript
  | ok σ₁ =>
    rw [hrun] at hscript
    cases hscript
    rfl

theorem run_of_effect_error {r : StoreRequest} {e : StorageError}
    (h : r.effect .database now σ = .error e) : ∃ g, run now r.script σ = .error g := by
  have hscript := toOption_effect now σ r
  rw [h] at hscript
  cases hrun : run now r.script σ with
  | error g => exact ⟨g, rfl⟩
  | ok σ₁ =>
    rw [hrun] at hscript
    cases hscript

end Statement
end Curation
