/-
# What the entries of a session tell

An entry names the memories that it is about, and its action says which of their aspects it has
changed.  That is the truth about what was written (`Forward.unwritten`) and about what is written
when the entry is undone (`Forward.inverse`): neither touches anything else.  So the entries of a
session tell what it has changed, and what undoing it will change (`AuditEntry.isSome_of_unwind`).

Every forward entry that a session writes can be undone, whoever else writes entries
(`Session.performed_trail`).  Whether a trail can be undone then only depends on the places of its
entries.
-/
import Curation.Proofs.Session.Undoing
import Curation.Proofs.Session.Chronicle

namespace Curation

/-! ## 1. Ops that write something -/

section Writes

variable {mid : MemoryId} {f : Aspect} {ops : List WriteOp}

theorem lastWrite_isSome :
    (lastWrite mid f ops).isSome ↔ ∃ op ∈ ops, (op.writes? mid f).isSome := by
  rw [Option.isSome_iff_ne_none, lastWrite, ne_eq, List.getLast?_eq_none_iff,
    List.filterMap_eq_nil_iff]
  simp [Option.isSome_iff_ne_none]

/-- An op that names a memory writes to it. -/
theorem WriteOp.exists_writes_of_target {op : WriteOp} (h : op.target? = some mid) :
    ∃ f, (op.writes? mid f).isSome := by
  cases op with
  | setTombstone _ _ =>
    cases h
    exact ⟨.tombstone, by simp [writes?]⟩
  | setContent _ _ =>
    cases h
    exact ⟨.content, by simp [writes?]⟩
  | setConstitutional _ _ =>
    cases h
    exact ⟨.protection, by simp [writes?]⟩
  | insertMemory _ | appendAudit _ | stampRefined _ _ => cases h

end Writes

/-! ## 2. Entries -/

/-- The aspect of its memories that an action changes, if it is a forward one. -/
def AuditAction.aspect? : AuditAction → Option Aspect
  | .update => some .content
  | .delete | .consolidate => some .tombstone
  | .protect | .unprotect => some .protection
  | .sessionComplete | .sessionRollback => none

/-- **An entry tells of a change** to an aspect of a memory. -/
def AuditEntry.Changes (e : AuditEntry) (mid : MemoryId) (f : Aspect) : Prop :=
  mid ∈ e.subject ∧ e.action.aspect? = some f

instance (e : AuditEntry) (mid : MemoryId) (f : Aspect) : Decidable (e.Changes mid f) :=
  inferInstanceAs (Decidable (_ ∧ _))

/-- **An entry that can be undone**: its inverse can be read off it, which writes to what the entry
tells of, and the memories that it is about are there. -/
structure AuditEntry.Undoable (σ : Store) (e : AuditEntry) : Prop where
  inverse : ∃ inv, e.inverse = .ok inv ∧
    ∀ mid f, (lastWrite mid f inv).isSome ↔ e.Changes mid f
  there : ∀ mid ∈ e.subject, (σ.memory? mid).isSome

namespace AuditEntry

variable {σ σ' : Store} {e : AuditEntry} {es : List AuditEntry} {ops : List WriteOp}

theorem Undoable.mono (h : e.Undoable σ)
    (hσ : ∀ mid, (σ.memory? mid).isSome → (σ'.memory? mid).isSome) : e.Undoable σ' :=
  ⟨h.inverse, fun mid hm => hσ mid (h.there mid hm)⟩

theorem Undoable.known {inv : List WriteOp} (h : e.Undoable σ) (hinv : e.inverse = .ok inv) :
    ∀ op ∈ inv, ∃ mid, op.target? = some mid ∧ (σ.memory? mid).isSome := by
  intro op hop
  obtain ⟨inv', hinv', hw⟩ := h.inverse
  rw [hinv] at hinv'
  cases hinv'
  obtain ⟨mid, hmid⟩ := Option.isSome_iff_exists.mp (target_of_inverse hinv op hop)
  obtain ⟨f, hf⟩ := WriteOp.exists_writes_of_target hmid
  exact ⟨mid, hmid, h.there mid ((hw mid f).mp (lastWrite_isSome.mpr ⟨op, hop, hf⟩)).1⟩

/-- **Undoing a trail** names memories that are there. -/
theorem known_of_unwind (hes : ∀ e ∈ es, e.Undoable σ) (h : unwind es = .ok ops) :
    ∀ op ∈ ops, ∃ mid, op.target? = some mid ∧ (σ.memory? mid).isSome := by
  intro op hop
  obtain ⟨e, he, inv, hinv, hop⟩ := inverse_of_mem h hop
  exact (hes e he).known hinv op hop

/-- **Undoing a trail writes to what its entries tell of**, and to nothing else. -/
theorem isSome_of_unwind (hes : ∀ e ∈ es, e.Undoable σ) (h : unwind es = .ok ops)
    (mid : MemoryId) (f : Aspect) :
    (lastWrite mid f ops).isSome ↔ ∃ e ∈ es, e.Changes mid f := by
  obtain ⟨invs, hinvs, rfl⟩ := inverses_of_unwind h
  have hsame : ∀ {e inv}, e ∈ es → e.inverse = .ok inv →
      ((lastWrite mid f inv).isSome ↔ e.Changes mid f) := by
    intro e inv he hinv
    obtain ⟨inv', hinv', hw⟩ := (hes e he).inverse
    rw [hinv] at hinv'
    cases hinv'
    exact hw mid f
  rw [lastWrite_isSome]
  constructor
  · rintro ⟨op, hop, hf⟩
    obtain ⟨e, he, inv, hinv, hop⟩ := inverse_of_mem h hop
    exact ⟨e, he, (hsame he hinv).mp (lastWrite_isSome.mpr ⟨op, hop, hf⟩)⟩
  · rintro ⟨e, he, hc⟩
    obtain ⟨inv, hin, hinv⟩ := exists_of_forall₂_left hinvs he
    obtain ⟨op, hop, hf⟩ := lastWrite_isSome.mp ((hsame he hinv).mpr hc)
    exact ⟨op, List.mem_flatten.mpr ⟨inv, hin, hop⟩, hf⟩

end AuditEntry

/-! ## 3. Forward actions -/

section Forward

variable {rules : MemoryRules} {owner : OwnerId} {σ σ' : Store} {act : Action} {o : ActionOutcome}
  {c : Change} {b : Backend} {t : Instant} {e : AuditEntry}

/-- **What a forward change does not tell of** it does not write. -/
theorem Forward.unwritten (hf : Forward rules owner σ act o c) {mid : MemoryId} {f : Aspect}
    (h : ¬(mid ∈ c.subject ∧ c.action.aspect? = some f)) : lastWrite mid f c.ops = none := by
  cases hf with
  | update _ _ _ | delete _ _ | protect _ _ | unprotect _ _ =>
    simp only [Change.update, Change.delete, Change.protect, Change.unprotect,
      List.mem_singleton, AuditAction.aspect?] at h ⊢
    rw [lastWrite_cons, lastWrite_nil, Option.none_or, WriteOp.writes?]
    grind
  | consolidate _ _ _ _ =>
    rw [consolidate_ops, lastWrite_cons, lastWrite_setTombstones]
    simp only [Change.consolidate, AuditAction.aspect?, List.mem_append] at h
    rw [if_neg (by grind)]
    rfl

/-- **The inverse of an entry** writes to what the entry tells of, and to nothing else. -/
theorem Forward.inverse (hf : Forward rules owner σ act o c) (b : Backend) (eid : EntryId)
    (created : Instant) (session : SessionId) (o' : OwnerId) (seq : Nat) :
    ∃ inv, ((AuditEntry.make eid created session o' seq c.action c.subject c.payload).kept
        b).inverse = .ok inv ∧
      ∀ mid f, (lastWrite mid f inv).isSome ↔ mid ∈ c.subject ∧ c.action.aspect? = some f := by
  have hsingle : ∀ {op : WriteOp} {mid mid' : MemoryId} {f f' : Aspect} {v : Aspect.Value},
      op.writes? mid f = (if mid' = mid ∧ f = f' then some v else none) →
      ((lastWrite mid f [op]).isSome ↔ mid ∈ [mid'] ∧ some f' = some f) := by
    intro op mid mid' f f' v h
    rw [lastWrite_cons, lastWrite_nil, Option.none_or, h]
    grind
  cases hf with
  | update _ _ _ => exact ⟨_, AuditEntry.inverse_update .., fun mid f => hsingle rfl⟩
  | delete _ _ => exact ⟨_, AuditEntry.inverse_delete .., fun mid f => hsingle rfl⟩
  | consolidate _ _ _ _ =>
    refine ⟨_, AuditEntry.inverse_consolidate .., fun mid f => ?_⟩
    rw [mergeInverse_snapshots, lastWrite_cons, lastWrite_setTombstones]
    simp only [Change.consolidate, AuditAction.aspect?, List.mem_append, WriteOp.writes?]
    grind
  | protect _ _ => exact ⟨_, AuditEntry.inverse_protect .., fun mid f => hsingle rfl⟩
  | unprotect _ _ => exact ⟨_, AuditEntry.inverse_unprotect .., fun mid f => hsingle rfl⟩

/-- The memories that a forward change is about are there after it. -/
theorem Forward.there (hf : Forward rules owner σ act o c)
    (hw : Store.Written b t (c.ops ++ [.appendAudit e]) σ σ') :
    ∀ mid ∈ c.subject, (σ'.memory? mid).isSome := by
  have hold : ∀ {m : Memory}, σ.Holds owner m → (σ'.memory? m.id).isSome := fun hm => by
    rw [hw.memory? hm.found]
    rfl
  intro mid hmid
  cases hf with
  | update hm _ _ | delete hm _ | protect hm _ | unprotect hm _ =>
    rw [List.mem_singleton.mp hmid]
    exact hold hm
  | consolidate _ _ _ hms =>
    rcases List.mem_append.mp hmid with hmid | hmid
    · obtain ⟨m, hm, rfl⟩ := List.mem_map.mp hmid
      exact hold (hms m hm).1
    · rw [List.mem_singleton.mp hmid]
      exact (hw.inserted (List.mem_append_left _ List.mem_cons_self)).2

end Forward

/-! ## 4. What an action adds to the trail -/

/-- No memory is ever lost. -/
theorem Store.Written.there {b : Backend} {t : Instant} {ops : List WriteOp} {σ σ' : Store}
    (h : Store.Written b t ops σ σ') (mid : MemoryId) (hs : (σ.memory? mid).isSome) :
    (σ'.memory? mid).isSome := by
  obtain ⟨m, hm⟩ := Option.isSome_iff_exists.mp hs
  rw [h.memory? hm]
  rfl

namespace Session

variable {s s' : Session} {a a' : Archive} {act : Action} {r : Except CurationError ActionOutcome}

theorem performed_there (hp : Performed s a act (r, s', a')) (mid : MemoryId)
    (hs : (a.store.memory? mid).isSome) : (a'.store.memory? mid).isSome := by
  cases hp with
  | refused _ hst | found _ hst | rollbackFailed _ _ _ _ hst | overflowed _ _ _ hst =>
    exact hst.store ▸ hs
  | forward _ _ hw | committed _ _ _ _ hw | rolledBack _ _ _ _ _ hw =>
    obtain ⟨t, ht⟩ := hw.written
    exact ht.there mid hs

/-- **What an action adds to the trail** stands under the id of the session and in the name of its
owner, and what is not the end of it can be undone. -/
theorem performed_trail (hp : Performed s a act (r, s', a')) :
    ∃ new, a'.store.trail = a.store.trail ++ new ∧
      ∀ e ∈ new, e.session = s.params.session ∧ e.owner = s.params.owner ∧
        (e.action.isTerminal = false → e.Undoable a'.store) := by
  have hclosing : ∀ {f : Counters → Counters} {ops : List WriteOp} {e : AuditEntry},
      Archive.Wrote f ops a a' → ops.filterMap WriteOp.appended? = [e] →
      e.session = s.params.session → e.owner = s.params.owner → e.action.isTerminal = true →
      ∃ new, a'.store.trail = a.store.trail ++ new ∧
        ∀ e ∈ new, e.session = s.params.session ∧ e.owner = s.params.owner ∧
          (e.action.isTerminal = false → e.Undoable a'.store) := by
    intro f ops e hw happ hs ho ht
    refine ⟨_, hw.trail happ, fun x hx => ?_⟩
    rw [List.mem_singleton.mp hx]
    refine ⟨hs, ho, fun hforward => ?_⟩
    rw [AuditEntry.kept_action, ht] at hforward
    cases hforward
  cases hp with
  | refused he hst => exact ⟨[], by simp [hst.store], nofun⟩
  | found hs hst => exact ⟨[], by simp [hst.store], nofun⟩
  | @forward _ _ c eid t _ hs hf hw =>
    refine ⟨_, hw.trail (hf.appended _), fun x hx => ?_⟩
    rw [List.mem_singleton.mp hx]
    obtain ⟨t', ht⟩ := hw.written
    exact ⟨rfl, rfl, fun _ =>
      ⟨hf.inverse a.backend eid t s.params.session s.params.owner s.nextSeq, hf.there ht⟩⟩
  | committed hs hb hm hv hw => exact hclosing hw rfl rfl rfl rfl
  | rolledBack hs hb hm hv hu hw =>
    exact hclosing hw (appended_of_unwind hu _) rfl rfl rfl
  | rollbackFailed hs hb hm hv hvain => exact ⟨[], by simp [hvain.store], nofun⟩
  | overflowed hs hb hm hst => exact ⟨[], by simp [hst.store], nofun⟩

/-- **What the entries of a session do not tell of**, an action of it leaves as it is, a rollback
among them. -/
theorem performed_keeps (hp : Performed s a act (r, s', a'))
    (hu : ∀ e ∈ s.ownTrail a.store, e.action.isTerminal = false → e.Undoable a.store)
    {mid : MemoryId} {m : Memory} (hm : a.store.memory? mid = some m) :
    ∃ m', a'.store.memory? mid = some m' ∧ ∀ f,
      (∀ e ∈ a'.store.entriesOf s.params.session, ¬ e.Changes mid f) →
        m'.aspect f = m.aspect f := by
  have hwrote : ∀ {g : Counters → Counters} {ops : List WriteOp}, Archive.Wrote g ops a a' →
      (∀ f, (∀ e ∈ a'.store.entriesOf s.params.session, ¬ e.Changes mid f) →
        lastWrite mid f ops = none) →
      ∃ m', a'.store.memory? mid = some m' ∧ ∀ f,
        (∀ e ∈ a'.store.entriesOf s.params.session, ¬ e.Changes mid f) →
          m'.aspect f = m.aspect f := by
    intro g ops hw hnone
    obtain ⟨t, ht⟩ := hw.written
    refine ⟨_, ht.memory? hm, fun f hf => ?_⟩
    rw [Memory.aspect_revised, Store.memory?_id hm, hnone f hf]
    rfl
  cases hp with
  | refused _ hst | found _ hst | rollbackFailed _ _ _ _ hst | overflowed _ _ _ hst =>
    rw [hst.store]
    exact ⟨m, hm, fun _ _ => rfl⟩
  | @forward _ _ c eid t _ hs hf hw =>
    refine hwrote hw fun f hno => ?_
    have hnew := hno _ (entriesOf_of_wrote hw (hf.appended _) rfl ▸
      List.mem_append_right _ (List.mem_singleton_self _))
    rw [lastWrite_append, hf.unwritten hnew]
    rfl
  | committed _ _ _ _ hw => exact hwrote hw fun f _ => rfl
  | @rolledBack summary _ undo eid jid t jt time _ _ _ _ _ hundo hw =>
    refine hwrote hw fun f hno => ?_
    have hforward := AuditEntry.forward_of_unwind hundo
    have hes := entriesOf_of_wrote (s := s) hw (appended_of_unwind hundo _) rfl
    have hundone : lastWrite mid f undo = none := by
      rw [← Option.not_isSome_iff_eq_none, AuditEntry.isSome_of_unwind
        (fun e he => hu e he (hforward e he)) hundo]
      rintro ⟨e, he, hc⟩
      have hin := (Store.forSession_perm _ _).mem_iff.mp (List.mem_filter.mp he).1
      exact hno e (hes ▸ List.mem_append_left _ hin) hc
    rw [lastWrite_append, hundone]
    rfl

end Session
end Curation
