/-
# Protection is heeded, op by op

An action checks that a memory is not protected before it asks for a change of its text or its
tombstone.  The ops themselves check nothing, and a rollback or a recovery writes ops that nobody
has checked.  Yet no op ever touches a memory that is protected at that point.

The reason is the order.  Undoing the newest entry first leads back through the very states in
which the entries were written, as far as protection is concerned (`Forward.undo_heeds`): what an
entry undoes was allowed when it was done, and it is undone where it was done.

All that counts is which memories are protected, so ops are followed as changes of that one
function (`protecting`), and the memories themselves are looked at once (`protects_apply`).
-/
import Mathlib.Logic.Function.Basic
import Curation.Proofs.Session.Changes
import Curation.Proofs.Session.Recovery

namespace Curation

/-! ## 1. What is protected while ops are applied -/

/-- Which memories of a store are protected. -/
def Store.protects (σ : Store) (id : MemoryId) : Bool :=
  (σ.memory? id).any (·.constitutional)

/-- The memory whose text or tombstone an op sets. -/
def WriteOp.rewritten? : WriteOp → Option MemoryId
  | .setTombstone id _ | .setContent id _ => some id
  | .setConstitutional _ _ | .insertMemory _ | .appendAudit _ | .stampRefined _ _ => none

/-- What an op makes of what is protected. -/
def WriteOp.protecting (p : MemoryId → Bool) : WriteOp → MemoryId → Bool
  | .setConstitutional id value => Function.update p id value
  | .insertMemory m => Function.update p m.id m.constitutional
  | .setTombstone _ _ | .setContent _ _ | .appendAudit _ | .stampRefined _ _ => p

/-- What ops make of what is protected, one after the other. -/
def protecting (p : MemoryId → Bool) (ops : List WriteOp) : MemoryId → Bool :=
  ops.foldl WriteOp.protecting p

/-- **Ops that heed protection**, where certain memories are protected before the first of them. -/
def Heeds (p : MemoryId → Bool) : List WriteOp → Prop
  | [] => True
  | op :: ops => (∀ id, op.rewritten? = some id → p id = false) ∧ Heeds (op.protecting p) ops

/-- **No op of a batch sets the text or the tombstone of a memory that is protected** when the ops
before it have been applied. -/
def Store.Heeded (b : Backend) (ops : List WriteOp) (σ : Store) : Prop :=
  ∀ t before op after σ₁, ops = before ++ op :: after → Store.Written b t before σ σ₁ →
    ∀ id m, op.rewritten? = some id → σ₁.memory? id = some m → m.constitutional = false

section Protecting

variable {b : Backend} {t : Instant} {σ σ' : Store} {p : MemoryId → Bool} {ops ops' : List WriteOp}

theorem protecting_append (p : MemoryId → Bool) (ops ops' : List WriteOp) :
    protecting p (ops ++ ops') = protecting (protecting p ops) ops' :=
  List.foldl_append

theorem protecting_cons (p : MemoryId → Bool) (op : WriteOp) (ops : List WriteOp) :
    protecting p (op :: ops) = protecting (op.protecting p) ops := rfl

theorem heeds_append : Heeds p (ops ++ ops') ↔ Heeds p ops ∧ Heeds (protecting p ops) ops' := by
  induction ops generalizing p with
  | nil => exact ⟨fun h => ⟨trivial, h⟩, fun h => h.2⟩
  | cons op ops ih =>
    constructor
    · rintro ⟨hop, hrest⟩
      obtain ⟨hops, hops'⟩ := ih.mp hrest
      exact ⟨⟨hop, hops⟩, hops'⟩
    · rintro ⟨⟨hop, hops⟩, hops'⟩
      exact ⟨hop, ih.mpr ⟨hops, hops'⟩⟩

/-- Ops that set no text and no tombstone. -/
theorem heeds_of_none (h : ∀ op ∈ ops, op.rewritten? = none) : Heeds p ops := by
  induction ops generalizing p with
  | nil => trivial
  | cons op ops ih =>
    refine ⟨fun id hid => ?_, ih fun op' hop => h op' (List.mem_cons_of_mem _ hop)⟩
    rw [h op List.mem_cons_self] at hid
    cases hid

theorem heeds_setTombstones {value : Bool} {ids : List MemoryId} (h : ∀ id ∈ ids, p id = false) :
    Heeds p (ids.map (.setTombstone · value)) := by
  induction ids with
  | nil => trivial
  | cons id ids ih =>
    refine ⟨fun i hi => ?_, ih fun i hi => h i (List.mem_cons_of_mem _ hi)⟩
    obtain rfl := Option.some.inj hi
    exact h _ List.mem_cons_self

theorem protecting_setTombstones (p : MemoryId → Bool) (value : Bool) (ids : List MemoryId) :
    protecting p (ids.map (.setTombstone · value)) = p := by
  induction ids with
  | nil => rfl
  | cons id ids ih => exact ih

/-! ### On a store -/

theorem Store.protects_of_memory? {id : MemoryId} {m : Memory} (h : σ.memory? id = some m) :
    σ.protects id = m.constitutional := by
  rw [Store.protects, h]
  rfl

theorem Store.protects_of_none {id : MemoryId} (h : σ.memory? id = none) :
    σ.protects id = false := by
  rw [Store.protects, h]
  rfl

/-- What is protected among the memories that were there. -/
theorem Memory.constitutional_revise (m : Memory) (op : WriteOp)
    (hins : ∀ m', op.inserted? = some m' → m'.id ≠ m.id) (hm : p m.id = m.constitutional) :
    (m.revise b t op).constitutional = op.protecting p m.id := by
  have ha := Memory.aspect_revise b t m op .protection
  cases op with
  | setConstitutional id value =>
    by_cases hid : m.id = id
    · subst hid
      simpa [WriteOp.writes?, Memory.aspect, WriteOp.protecting] using ha
    · simpa [WriteOp.writes?, Memory.aspect, WriteOp.protecting, hid, Ne.symm hid, hm] using ha
  | insertMemory m' =>
    have hne : m.id ≠ m'.id := (hins m' rfl).symm
    simp [Memory.revise, WriteOp.protecting, hne, hm]
  | setTombstone _ _ | setContent _ _ | appendAudit _ | stampRefined _ _ =>
    simpa [WriteOp.writes?, Memory.aspect, WriteOp.protecting, hm] using ha

/-- **One op** changes what is protected as `protecting` says. -/
theorem Store.protects_apply {op : WriteOp} (h : σ.apply b t op = .ok σ') :
    σ'.protects = op.protecting σ.protects := by
  have ha := Store.apply_ok h
  funext id
  rcases hm : σ.memory? id with _ | m
  · have hnew := ha.memory?_new hm
    have hnone := Store.protects_of_none hm
    cases op with
    | setConstitutional i value =>
      have hne : id ≠ i := by
        rintro rfl
        have hthere := ha.target id rfl
        rw [hm] at hthere
        cases hthere
      rw [Store.protects_of_none hnew, WriteOp.protecting, Function.update_of_ne hne, hnone]
    | insertMemory m =>
      by_cases hid : m.id = id
      · subst hid
        rw [WriteOp.protecting, Function.update_self]
        exact Store.protects_of_memory? (hnew.trans (by simp [WriteOp.inserted?]))
      · have hnone' : σ'.memory? id = none := hnew.trans (by simp [WriteOp.inserted?, hid])
        rw [Store.protects_of_none hnone', WriteOp.protecting, Function.update_of_ne (Ne.symm hid),
          hnone]
    | setTombstone _ _ | setContent _ _ | appendAudit _ | stampRefined _ _ =>
      rw [Store.protects_of_none hnew, WriteOp.protecting, hnone]
  · obtain rfl := Store.memory?_id hm
    rw [Store.protects_of_memory? (ha.memory? hm)]
    refine m.constitutional_revise op (fun m' hm' he => ?_) (Store.protects_of_memory? hm)
    have hnew := ha.inserted m' hm'
    rw [he, hm] at hnew
    cases hnew

theorem Store.Written.protects (h : Store.Written b t ops σ σ') :
    σ'.protects = protecting σ.protects ops := by
  induction h with
  | nil => rfl
  | cons h₁ _ ih => rw [ih, Store.protects_apply h₁]; rfl

/-- **Ops that heed protection never touch a protected memory.** -/
theorem Heeds.heeded (h : Heeds σ.protects ops) : σ.Heeded b ops := by
  rintro t before op after σ₁ rfl hw id m hid hm
  have hop := (heeds_append.mp h).2.1 id hid
  rwa [← hw.protects, Store.protects_of_memory? hm] at hop

end Protecting

/-! ## 2. Forward changes and their inverses -/

/-- Setting a flag back to what it was. -/
theorem update_undone {p : MemoryId → Bool} {id : MemoryId} {old new : Bool} (h : p id = old) :
    Function.update (Function.update p id new) id old = p := by
  rw [Function.update_idem, ← h, Function.update_eq_self]

section Forward

variable {b : Backend} {t : Instant} {σ σ' : Store} {rules : MemoryRules} {owner : OwnerId}
  {act : Action} {o : ActionOutcome} {c : Change} {e : AuditEntry}

theorem Store.Holds.protects {m : Memory} (h : σ.Holds owner m) :
    σ.protects m.id = m.constitutional :=
  Store.protects_of_memory? h.found

/-- **What an action writes heeds protection**, since its guards were passed. -/
theorem Forward.heeds (h : Forward rules owner σ act o c) (e : AuditEntry) :
    Heeds σ.protects (c.ops ++ [.appendAudit e]) := by
  refine heeds_append.mpr ⟨?_, heeds_of_none (by simp [WriteOp.rewritten?])⟩
  cases h with
  | update hm hc _ | delete hm hc =>
    refine ⟨fun id hid => ?_, trivial⟩
    obtain rfl := Option.some.inj hid
    rw [hm.protects, hc]
  | consolidate _ _ _ hms =>
    rw [consolidate_ops]
    refine ⟨nofun, heeds_setTombstones fun id hid => ?_⟩
    obtain ⟨m, hm, rfl⟩ := List.mem_map.mp hid
    have hp : σ.protects m.id = false := by rw [(hms m hm).1.protects, (hms m hm).2]
    simp only [WriteOp.protecting, Function.update_apply]
    split
    · rfl
    · exact hp
  | protect _ _ | unprotect _ _ =>
    exact heeds_of_none (by simp [Change.protect, Change.unprotect, WriteOp.rewritten?])

/-- **Undoing an entry where it was written** heeds protection, and what is protected then is what
was protected before. -/
theorem Forward.undo_heeds (h : Forward rules owner σ act o c)
    (hw : Store.Written b t (c.ops ++ [.appendAudit e]) σ σ') (eid : EntryId) (created : Instant)
    (session : SessionId) (o' : OwnerId) (seq : Nat) {inv : List WriteOp}
    (hinv : ((AuditEntry.make eid created session o' seq c.action c.subject c.payload).kept
      b).inverse = .ok inv) :
    Heeds σ'.protects inv ∧ protecting σ'.protects inv = σ.protects := by
  have hp : σ'.protects = protecting σ.protects c.ops := by
    rw [hw.protects, protecting_append]
    rfl
  cases h with
  | @update m content hm hc hv =>
    obtain rfl := Except.ok.inj ((AuditEntry.inverse_update ..).symm.trans hinv)
    rw [hp]
    refine ⟨⟨fun id hid => ?_, trivial⟩, rfl⟩
    obtain rfl := Option.some.inj hid
    exact hm.protects.trans hc
  | @delete m hm hc =>
    obtain rfl := Except.ok.inj ((AuditEntry.inverse_delete ..).symm.trans hinv)
    rw [hp]
    refine ⟨⟨fun id hid => ?_, trivial⟩, rfl⟩
    obtain rfl := Option.some.inj hid
    exact hm.protects.trans hc
  | @consolidate sources content n t' hn hd hv hms =>
    have hmerge := AuditEntry.inverse_consolidate b eid created session o' seq
      (sources.map (·.id) ++ [⟨Ident.generated n⟩])
      ⟨sources.map fun m => ⟨m.id, m.content⟩, ⟨⟨Ident.generated n⟩, content⟩⟩
    obtain rfl := Except.ok.inj (hmerge.symm.trans hinv)
    have hnew : σ.protects ⟨Ident.generated n⟩ = false :=
      Store.protects_of_none (hw.inserted (List.mem_append_left _ List.mem_cons_self)).1
    -- the new memory came unprotected, so nothing changed
    have hsame : σ'.protects = σ.protects := by
      rw [hp, consolidate_ops, protecting_cons, protecting_setTombstones, WriteOp.protecting,
        Function.update_eq_self_iff]
      exact hnew.symm
    rw [hsame, mergeInverse_snapshots, protecting_cons, protecting_setTombstones]
    refine ⟨⟨fun id hid => ?_, heeds_setTombstones fun id hid => ?_⟩, rfl⟩
    · obtain rfl := Option.some.inj hid
      exact hnew
    · obtain ⟨m, hm, rfl⟩ := List.mem_map.mp hid
      exact (hms m hm).1.protects.trans (hms m hm).2
  | @protect m hm hc =>
    have hflag := AuditEntry.inverse_protect b eid created session o' seq m.id
      FlagPayload.mk.encode
    obtain rfl := Except.ok.inj (hflag.symm.trans hinv)
    refine ⟨heeds_of_none (by simp [WriteOp.rewritten?]), ?_⟩
    rw [hp]
    exact update_undone (hm.protects.trans hc)
  | @unprotect m hm hc =>
    have hflag := AuditEntry.inverse_unprotect b eid created session o' seq m.id
      FlagPayload.mk.encode
    obtain rfl := Except.ok.inj (hflag.symm.trans hinv)
    refine ⟨heeds_of_none (by simp [WriteOp.rewritten?]), ?_⟩
    rw [hp]
    exact update_undone (hm.protects.trans hc)

end Forward

/-! ## 3. What is handed to the store -/

namespace Archive

variable {a a₁ a₂ a' : Archive} {f : Counters → Counters} {ops : List WriteOp}
  {P : List WriteOp → Prop}

/-- **At most one batch was handed to the store, and it heeds protection.**  Nothing else was
written. -/
inductive HandsHeeded (a a' : Archive) : Prop
  | none (hh : a'.handed = a.handed) (hs : a'.store = a.store)
  | batch {ops : List WriteOp} (hh : a'.handed = ⟨a.store, ops⟩ :: a.handed)
      (heeded : a.store.Heeded a.backend ops)
      (hs : a'.store = a.store ∨ ∃ t, Store.Written a.backend t ops a.store a'.store)

theorem Silent.handsHeeded (h : Silent a a') : HandsHeeded a a' :=
  .none h.handed h.store

theorem Wrote.handsHeeded (h : Wrote f ops a a') (heeded : a.store.Heeded a.backend ops) :
    HandsHeeded a a' :=
  .batch h.handed heeded (.inr h.written)

/-- A batch that was refused heeds protection all the same. -/
theorem InVain.handsHeeded (h : InVain f P a a')
    (heeded : ∀ ops, P ops → a.store.Heeded a.backend ops) : HandsHeeded a a' := by
  rcases h.handed with hh | ⟨ops, hp, hh⟩
  · exact .none hh h.store
  · exact .batch hh (heeded ops hp) (.inl h.store)

theorem HandsHeeded.within (h : HandsHeeded a₁ a₂) (h₁ : Silent a a₁) (h₂ : Silent a₂ a') :
    HandsHeeded a a' := by
  cases h with
  | none hh hs =>
    exact .none (h₂.handed.trans (hh.trans h₁.handed)) (h₂.store.trans (hs.trans h₁.store))
  | batch hh heeded hs =>
    rw [h₁.store, h₁.backend] at heeded hs
    rw [h₁.store, h₁.handed] at hh
    rw [← h₂.store] at hs
    exact .batch (h₂.handed.trans hh) heeded hs

/-- If something was handed to the store, it was one batch. -/
theorem HandsHeeded.of_longer (h : HandsHeeded a a') (hl : a.handed.length < a'.handed.length) :
    ∃ ops, a'.handed = ⟨a.store, ops⟩ :: a.handed ∧ a.store.Heeded a.backend ops := by
  cases h with
  | none hh hs => exact absurd hl (by rw [hh]; exact lt_irrefl _)
  | batch hh heeded hs => exact ⟨_, hh, heeded⟩

/-- An archive whose store breaks the next batch off before a certain op. -/
def stopping (a : Archive) (stop : Option Nat) : Archive :=
  { a with faults := { a.faults with batchAt := stop } }

theorem quiet_stopping (a : Archive) (stop : Option Nat) : Quiet a (a.stopping stop) := ⟨rfl, rfl⟩

end Archive

namespace Session

open Archive Recovery

variable {s s' s₀ : Session} {a a' a₀ a₁ : Archive} {c : Config} {owner : OwnerId}

/-! ## 4. Runs -/

/-- **A session whose undoing heeds protection**, as long as it is not over. -/
structure Guarded (s : Session) (σ : Store) : Prop where
  chronicle : Chronicle s (σ.entriesOf s.params.session)
  heeds : s.Unclosed →
    ∃ ops, AuditEntry.unwind (σ.forSession s.params.session) = .ok ops ∧ Heeds σ.protects ops

theorem Begun.guarded (h : Begun c owner a s) : Guarded s a.store where
  chronicle := h.entriesOf ▸ .start h.nextSeq h.stats h.status
  heeds _ := ⟨[], by rw [h.unused]; rfl, trivial⟩

/-- **Every action** leaves the session guarded: the entry of a forward action is undone first,
and leads back to what was protected before. -/
theorem guarded_performed {act : Action} {r : Except CurationError ActionOutcome}
    (h : Guarded s a.store) (hp : Performed s a act (r, s', a')) :
    s'.params = s.params ∧ Guarded s' a'.store := by
  obtain ⟨hps, hc⟩ := chronicle_performed h.chronicle hp
  refine ⟨hps, hps.symm ▸ hc, ?_⟩
  rw [hps]
  cases hp with
  | refused _ hst => exact hst.store ▸ h.heeds
  | found _ hst => exact hst.store ▸ h.heeds
  | @forward _ _ ch eid t _ hs hf hw =>
    intro _
    obtain ⟨ops, hops, hheeds⟩ := h.heeds (.inl hs)
    obtain ⟨t', ht⟩ := hw.written
    obtain ⟨inv, hinv, -⟩ := hf.inverse a.backend eid t s.params.session s.params.owner s.nextSeq
    obtain ⟨hfirst, hback⟩ := hf.undo_heeds ht _ _ _ _ _ hinv
    refine ⟨inv ++ ops, unwind_forward h.chronicle hf hw hinv hops, ?_⟩
    exact heeds_append.mpr ⟨hfirst, hback ▸ hheeds⟩
  | committed _ _ _ _ _ => exact nofun
  | rolledBack _ _ _ _ _ _ => exact nofun
  | rollbackFailed hs _ _ _ hv =>
    intro _
    rw [hv.store]
    exact h.heeds (.inl hs)
  | overflowed hs _ _ hst =>
    intro _
    rw [hst.store]
    exact h.heeds (.inl hs)

theorem guarded_run (hb : Begins c owner a₀ s₀ a₁) (hr : Run Archive.Quiet s₀ a₁ s a) :
    Guarded s a.store := by
  obtain ⟨hb, hst⟩ := hb.begun
  refine hr.preserves (P := fun s a => Guarded s a.store) (fun _ _ hq => hq)
    (fun s a a' h hq => hq.store ▸ h) (fun s a act r s' a' h hp => ?_) (hst.store ▸ hb.guarded)
  exact (guarded_performed h hp).2

/-- What leads a guarded session back, and then whatever sets no text and no tombstone. -/
theorem Guarded.heeded_of_unwind {σ : Store} {b : Backend} {undo tail : List WriteOp}
    (h : Guarded s σ) (hs : s.Unclosed)
    (hu : AuditEntry.unwind (σ.forSession s.params.session) = .ok undo)
    (htail : ∀ op ∈ tail, op.rewritten? = none) : σ.Heeded b (undo ++ tail) := by
  obtain ⟨ops, hops, hheeds⟩ := h.heeds hs
  rw [hu] at hops
  cases hops
  exact (heeds_append.mpr ⟨hheeds, heeds_of_none htail⟩).heeded

/-- **Every batch of a guarded session** heeds protection. -/
theorem Guarded.hands {σ : Store} {b : Backend} {act : Action} {ops : List WriteOp}
    (h : Guarded s σ) (hh : Hands s σ act ops) : σ.Heeded b ops := by
  cases hh with
  | forward eid t hs hf => exact (hf.heeds _).heeded
  | commit eid jid t jt time hs hm hv =>
    exact (heeds_of_none (by simp [commitOps, WriteOp.rewritten?])).heeded
  | rollback eid jid t jt time hs hm hv hu =>
    rw [h.chronicle.ownTrail] at hu
    exact h.heeded_of_unwind (.inl hs) hu (by simp [rollbackOps, WriteOp.rewritten?])

/-- **So does every batch of its recovery.** -/
theorem Guarded.recovery {σ : Store} {b : Backend} {ops : List WriteOp} (h : Guarded s σ)
    (hh : Recovery.Hands c owner s.params.session σ ops) : σ.Heeded b ops := by
  cases hh with
  | recover eid jid t jt time hf hm hu =>
    have hopen : s.Unclosed := h.chronicle.ended.newest.2.2.mpr fun e he =>
      hf e ((σ.forSession_perm s.params.session).mem_iff.mpr he)
    exact h.heeded_of_unwind hopen hu (by simp [closingOps, WriteOp.rewritten?])

/-- **What an action hands to the store** heeds protection, whether the store takes it or not. -/
theorem Guarded.performed {act : Action} {r : Except CurationError ActionOutcome}
    (h : Guarded s a.store) (hp : Performed s a act (r, s', a')) : HandsHeeded a a' := by
  cases hp with
  | refused _ hv => exact hv.handsHeeded fun ops hops => h.hands hops
  | found _ hst => exact hst.silent.handsHeeded
  | forward hs hf hw => exact hw.handsHeeded (h.hands (.forward _ _ hs hf))
  | committed hs _ hm hv hw => exact hw.handsHeeded (h.hands (.commit _ _ _ _ _ hs hm hv))
  | rolledBack hs _ hm hv hu hw =>
    exact hw.handsHeeded (h.hands (.rollback _ _ _ _ _ hs hm hv hu))
  | rollbackFailed _ _ _ _ hv => exact hv.handsHeeded fun ops hops => h.hands hops
  | overflowed _ _ _ hst => exact hst.silent.handsHeeded

theorem Guarded.call (h : Guarded s a.store) (call : Call) : HandsHeeded a (call.run s a).2 := by
  obtain ⟨a₁, a₂, h₁, h₂, ⟨-, rfl⟩ | ⟨act, r, hp, -⟩⟩ := call_cases call s a
  · exact (Silent.refl _).handsHeeded.within h₁ h₂
  · rw [← h₁.store] at h
    exact (h.performed hp).within h₁ h₂

/-- **What its recovery hands to the store** heeds protection as well. -/
theorem Guarded.reconcile (h : Guarded s a.store) (c : Config) (owner : OwnerId) :
    HandsHeeded a (a.answer (reconcile c owner s.params.session)).2 := by
  have hr := reconciled c owner s.params.session a
  generalize a.answer (Recovery.reconcile c owner s.params.session) = r at hr ⊢
  cases hr with
  | refused _ hst | alreadyClosed _ _ hst | overflowed _ _ hst => exact hst.silent.handsHeeded
  | rolledBack _ _ hf hm hu hw =>
    exact hw.handsHeeded (h.recovery (.recover _ _ _ _ _ hf hm hu))
  | failed _ hv => exact hv.handsHeeded fun ops hops => h.recovery hops

/-- **The guard is never bypassed.**  Whatever call is made on an undisturbed session, a completion
that commits or rolls back among them, and whatever recovery follows: at most one batch reaches the
store, and if its ops are applied one after the other, up to any of them, none sets the text or the
tombstone of a memory that is protected at that point.  That goes for a batch that the store refuses
or breaks off too, and nothing is written but such a batch. -/
theorem guard_never_bypassed (hb : Begins c owner a₀ s₀ a₁)
    (hr : Run Archive.Quiet s₀ a₁ s a) :
    (∀ call : Call, HandsHeeded a (call.run s a).2) ∧
    ∀ c' owner', HandsHeeded a (a.answer (reconcile c' owner' s.params.session)).2 := by
  have hg := guarded_run hb hr
  exact ⟨hg.call, hg.reconcile⟩

/-- A memory that was changed and then protected gets its old text back, but only after its
protection was taken off again; so it is in a batch that the store takes and in one that it breaks
off before the last op. -/
theorem guard_never_bypassed_protected :
    ∃ s₀ a₁ s a, Begins .standard ⟨"o"⟩ .oneNote s₀ a₁ ∧ Run Archive.Quiet s₀ a₁ s a ∧
      a.store.protects ⟨"m"⟩ = true ∧
      ∀ stop ∈ [none, some 4], ∃ ops,
        ((a.stopping stop).answer (reconcile .standard ⟨"o"⟩ s.params.session)).2.handed =
          ⟨a.store, ops⟩ :: a.handed ∧
        .setContent ⟨"m"⟩ "note" ∈ ops ∧ a.store.Heeded a.backend ops := by
  let first : Call := .perform (.update ⟨"m"⟩ "changed")
  let second : Call := .perform (.protect ⟨"m"⟩)
  have h : Archive.oneNote.yields (beginAs .standard ⟨"o"⟩ ⟨"s"⟩) (fun s a =>
      let r := second.run (first.run s a).1 (first.run s a).2
      r.2.store.protects ⟨"m"⟩ && [none, some 4].all fun stop =>
        let a' := ((r.2.stopping stop).answer (reconcile .standard ⟨"o"⟩ r.1.params.session)).2
        decide (r.2.handed.length < a'.handed.length) &&
          a'.handed.head?.any fun last => decide (.setContent ⟨"m"⟩ "note" ∈ last.ops)) = true := by
    decide +kernel
  obtain ⟨s₀, a₁, h, hn⟩ := Archive.exists_of_yields h
  obtain ⟨hp, hall⟩ := Bool.and_eq_true_iff.mp hn
  have hb : Begins .standard ⟨"o"⟩ .oneNote s₀ a₁ := .named ⟨"s"⟩ h
  have hr : Run Archive.Quiet s₀ a₁ _ _ := .call second (.call first .start)
  refine ⟨s₀, a₁, _, _, hb, hr, hp, fun stop hstop => ?_⟩
  obtain ⟨hlonger, hlast⟩ := Bool.and_eq_true_iff.mp (List.all_eq_true.mp hall stop hstop)
  have hstopping := hr.elsewhere (Archive.quiet_stopping _ stop)
  obtain ⟨ops, hops, hheeded⟩ :=
    ((guard_never_bypassed hb hstopping).2 .standard ⟨"o"⟩).of_longer (of_decide_eq_true hlonger)
  rw [hops] at hlast
  exact ⟨ops, hops, of_decide_eq_true hlast, hheeded⟩

end Session
end Curation
