/-
# Every forward change is undone by its entry

The entry that a forward action leaves says all that is needed to undo it.  `Forward.undone` is
the one fact about the five forward actions that rollback and recovery need: the inverse that is
read off the entry, as the backend keeps it, leads back from the store after the action to the
store before it.

A change touches live memories only, so what was deleted before is out of reach of its inverse.
-/
import Curation.Proofs.Audit.Inverse
import Curation.Proofs.Store.Undoing
import Curation.Proofs.Session.Performed

namespace Curation

variable {b : Backend} {t : Instant} {σ σ' : Store} {owner : OwnerId} {e : AuditEntry}

/-! ## 1. One memory -/

theorem Store.Holds.eq {m m' : Memory} (h : σ.Holds owner m) (h' : σ.memory? m.id = some m') :
    m' = m :=
  Option.some.inj (h'.symm.trans h.found)

/-- An op on one memory is undone by an op on the same memory that writes what was there. -/
theorem undoes_single {m : Memory} {op inv : WriteOp} (hm : σ.Holds owner m)
    (hop : op.target? = some m.id) (hinv : inv.target? = some m.id)
    (hf : ∀ f, (lastWrite m.id f [inv]).getD ((lastWrite m.id f [op]).getD (m.aspect f)) =
      m.aspect f)
    (hw : Store.Written b t ([op] ++ [.appendAudit e]) σ σ') : Undoes [inv] σ' σ := by
  refine .of_written hw (fun mid m' hm' => ?_) (fun m' hm' => ?_) fun op' hop' => ?_
  · rw [Undoes.revised_tail (by simp [WriteOp.target?])]
    by_cases hid : m'.id = m.id
    · obtain rfl : m' = m := hm.eq (hid ▸ (Store.memory?_id hm').symm ▸ hm')
      exact .of_live hm.live hf
    · have hne : ∀ o ∈ [op], o.target? ≠ some m'.id := by
        simpa [hop] using Ne.symm hid
      rw [Memory.revised_of_ne b t hne]
      exact .of_ne (by simpa [hinv] using Ne.symm hid)
  · rcases List.mem_cons.mp hm' with rfl | hm'
    · cases hop
    · simp at hm'
  · rw [List.mem_singleton.mp hop']
    exact ⟨m.id, hinv, .inl (by rw [hm.found]; rfl)⟩

/-! ## 2. A merge -/

/-- The inverse of a merge deletes the result and brings back the sources. -/
theorem mergeInverse_snapshots (sources : List Memory) (result : MemorySnapshot) :
    AuditEntry.mergeInverse ⟨sources.map fun m => ⟨m.id, m.content⟩, result⟩ =
      .setTombstone result.id true :: (sources.map (·.id)).map (.setTombstone · false) := by
  simp [AuditEntry.mergeInverse, Function.comp_def]

theorem consolidate_ops (sources : List Memory) (result : Memory) :
    (Change.consolidate sources result).ops =
      .insertMemory result :: (sources.map (·.id)).map (.setTombstone · true) := by
  simp [Change.consolidate, Function.comp_def]

theorem target_mem_of_setTombstones {ids : List MemoryId} {value : Bool} {op : WriteOp}
    (h : op ∈ ids.map (.setTombstone · value)) : ∃ mid ∈ ids, op.target? = some mid := by
  obtain ⟨mid, hm, rfl⟩ := List.mem_map.mp h
  exact ⟨mid, hm, rfl⟩

theorem undoes_consolidate {sources : List Memory} {result : Memory}
    (h : ∀ m ∈ sources, σ.Holds owner m)
    (hw : Store.Written b t ((Change.consolidate sources result).ops ++ [.appendAudit e]) σ σ') :
    Undoes (AuditEntry.mergeInverse
      ⟨sources.map fun m => ⟨m.id, m.content⟩, ⟨result.id, result.content⟩⟩) σ' σ := by
  rw [mergeInverse_snapshots]
  rw [consolidate_ops] at hw
  have hnew : σ.memory? result.id = none := (hw.inserted (by simp)).1
  have hids : ∀ mid ∈ sources.map (·.id), (σ.memory? mid).isSome := by
    intro mid hmid
    obtain ⟨m, hm, rfl⟩ := List.mem_map.mp hmid
    rw [(h m hm).found]
    rfl
  have hres : result.id ∉ sources.map (·.id) := fun hm => by
    have := hids _ hm
    rw [hnew] at this
    cases this
  refine .of_written hw (fun mid m hm => ?_) (fun m hm => ?_) fun op hop => ?_
  · rw [Undoes.revised_tail (by simp [WriteOp.target?])]
    have hne : result.id ≠ m.id := fun he => by
      rw [← Store.memory?_id hm] at hm
      rw [← he, hnew] at hm
      cases hm
    by_cases hs : m.id ∈ sources.map (·.id)
    · -- a source: it was live, was deleted, and comes back
      obtain ⟨m₁, hm₁, hid⟩ := List.mem_map.mp hs
      obtain rfl : m = m₁ := (h m₁ hm₁).eq (hid ▸ (Store.memory?_id hm).symm ▸ hm)
      refine .of_live (h m hm₁).live fun f => ?_
      rw [lastWrite_cons, lastWrite_cons, lastWrite_setTombstones, lastWrite_setTombstones]
      cases f <;> simp [hs, WriteOp.writes?, hne, Memory.aspect, (h m hm₁).live]
    · -- any other memory
      have hinv : ∀ op ∈ WriteOp.setTombstone result.id true ::
          (sources.map (·.id)).map (.setTombstone · false), op.target? ≠ some m.id := by
        intro op hop ht
        rcases List.mem_cons.mp hop with rfl | hop
        · exact hne (Option.some.inj ht)
        · obtain ⟨mid, hmid, hop⟩ := target_mem_of_setTombstones hop
          rw [hop] at ht
          exact hs (Option.some.inj ht ▸ hmid)
      rw [Memory.revised_of_ne]
      · exact .of_ne hinv
      · intro op hop ht
        rcases List.mem_cons.mp hop with rfl | hop
        · cases ht
        · obtain ⟨mid, hmid, hop⟩ := target_mem_of_setTombstones hop
          rw [hop] at ht
          exact hs (Option.some.inj ht ▸ hmid)
  · obtain rfl : m = result := by simpa using hm
    rw [lastWrite_cons, lastWrite_setTombstones]
    simp [hres, WriteOp.writes?]
  · rcases List.mem_cons.mp hop with rfl | hop
    · exact ⟨result.id, rfl, .inr ⟨result, by simp, rfl⟩⟩
    · obtain ⟨mid, hmid, hop⟩ := target_mem_of_setTombstones hop
      exact ⟨mid, hop, .inl (hids mid hmid)⟩

/-! ## 3. The five actions -/

/-- **Every forward change is undone by its entry**, as the backend keeps it. -/
theorem Forward.undone {rules : MemoryRules} {act : Action} {o : ActionOutcome} {c : Change}
    (hf : Forward rules owner σ act o c) (eid : EntryId) (created : Instant) (session : SessionId)
    (o' : OwnerId) (seq : Nat) :
    ∃ inv, ((AuditEntry.make eid created session o' seq c.action c.subject c.payload).kept
        b).inverse = .ok inv ∧
      (Store.Written b t (c.ops ++ [.appendAudit e]) σ σ' → Undoes inv σ' σ) := by
  cases hf with
  | @update m content hm hc hv =>
    exact ⟨_, AuditEntry.inverse_update .., undoes_single hm rfl rfl fun f => by
      cases f <;> simp [lastWrite, WriteOp.writes?, Memory.aspect]⟩
  | @delete m hm hc =>
    exact ⟨_, AuditEntry.inverse_delete .., undoes_single hm rfl rfl fun f => by
      cases f <;> simp [lastWrite, WriteOp.writes?, Memory.aspect, hm.live]⟩
  | @consolidate sources content n t' hn hd hv h =>
    exact ⟨_, AuditEntry.inverse_consolidate .., undoes_consolidate fun m hm => (h m hm).1⟩
  | @protect m hm hc =>
    exact ⟨_, AuditEntry.inverse_protect .., undoes_single hm rfl rfl fun f => by
      cases f <;> simp [lastWrite, WriteOp.writes?, Memory.aspect, hc]⟩
  | @unprotect m hm hc =>
    exact ⟨_, AuditEntry.inverse_unprotect .., undoes_single hm rfl rfl fun f => by
      cases f <;> simp [lastWrite, WriteOp.writes?, Memory.aspect, hc]⟩

end Curation
