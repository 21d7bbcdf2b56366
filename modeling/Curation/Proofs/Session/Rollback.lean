/-
# Rollback

A session that nobody disturbs can be taken back at any time.  `Revocable` is the invariant: the
entries of the session, read with the newest first, unwind to ops that undo everything since its
beginning.  A forward action keeps it, because its entry undoes the last change and undoing
composes; nothing else that a session does before it is over writes anything.

When `complete` then rolls back, it applies just those ops, and the rest of its batch names no
memory that was there.
-/
import Curation.Proofs.Session.Chronicle
import Curation.Proofs.Session.Undoing
import Curation.Proofs.Store.Restoring

namespace Curation

/-! ## 1. Sessions that can be taken back -/

/-- **A session that can be taken back** to the store `σ₀`, as long as it is not over. -/
structure Revocable (σ₀ : Store) (s : Session) (σ : Store) : Prop where
  chronicle : Chronicle s (σ.entriesOf s.params.session)
  grown : σ₀.ids <+: σ.ids
  keyed : σ₀.Keyed → σ.Keyed
  undone : s.Unclosed →
    ∃ ops, AuditEntry.unwind (σ.forSession s.params.session) = .ok ops ∧ Undoes ops σ σ₀

namespace Revocable

variable {σ₀ σ : Store} {s : Session}

theorem forSession (h : Revocable σ₀ s σ) :
    σ.forSession s.params.session = (σ.entriesOf s.params.session).reverse :=
  Store.forSession_eq_reverse h.chronicle.rising

/-- All entries under its id are the owner's. -/
theorem owner_forSession (h : Revocable σ₀ s σ) :
    ∀ e ∈ σ.forSession s.params.session, e.owner = s.params.owner := by
  intro e he
  rw [h.forSession, List.mem_reverse] at he
  exact h.chronicle.owner e he

theorem ownTrail (h : Revocable σ₀ s σ) : s.ownTrail σ = σ.forSession s.params.session :=
  h.chronicle.ownTrail

/-- **A trail that nothing closes can be taken back.** -/
theorem undone_of_open (h : Revocable σ₀ s σ)
    (hopen : ∀ e ∈ σ.forSession s.params.session, e.action.isTerminal = false) :
    ∃ ops, AuditEntry.unwind (σ.forSession s.params.session) = .ok ops ∧ Undoes ops σ σ₀ := by
  refine h.undone (h.chronicle.ended.newest.2.2.mpr fun e he => hopen e ?_)
  exact (Store.forSession_perm _ _).mem_iff.mpr he

/-- While it is completing a session can be taken back as before. -/
theorem completing (h : Revocable σ₀ s σ) (hs : s.status = .active) :
    Revocable σ₀ { s with status := .completing } σ :=
  ⟨h.chronicle.failed (.completing (h.chronicle.forward hs)), h.grown, h.keyed,
    fun _ => h.undone (.inl hs)⟩

end Revocable

theorem Store.Written.ids_prefix {b : Backend} {t : Instant} {ops : List WriteOp} {σ σ' : Store}
    (h : Store.Written b t ops σ σ') : σ.ids <+: σ'.ids :=
  ⟨_, h.ids.symm⟩

/-- **One more memory and one more entry**, under these ids; so many ids were drawn for them and no
fault is armed. -/
structure Archive.Grew (draws : Nat) (memory : MemoryId) (entry : EntryId) (a a' : Archive) :
    Prop where
  backend : a'.backend = a.backend
  faults : a'.faults = .none
  drawn : a'.drawn = a.drawn + draws
  ids : a'.store.ids = a.store.ids ++ [memory]
  entries : a'.store.trail.map (·.id) = a.store.trail.map (·.id) ++ [entry]

namespace Session

variable {s s' s₀ : Session} {a a' a₀ a₁ : Archive} {σ₀ : Store} {c : Config} {owner : OwnerId}

theorem Begun.revocable (h : Begun c owner a s) : Revocable a.store s a.store := by
  refine ⟨?_, List.prefix_refl _, id, fun _ => ⟨[], ?_, .refl _⟩⟩
  · rw [h.entriesOf]
    exact .start h.nextSeq h.stats h.status
  · rw [h.unused]
    rfl

/-- What a batch of the session does to a session that can be taken back. -/
theorem revocable_of_wrote {f : Counters → Counters} {ops : List WriteOp}
    (h : Revocable σ₀ s a.store) (hw : Archive.Wrote f ops a a')
    (hps : s'.params = s.params) (hc : Chronicle s' (a'.store.entriesOf s.params.session))
    (hu : s'.Unclosed → ∃ ops,
      AuditEntry.unwind (a'.store.forSession s.params.session) = .ok ops ∧
        Undoes ops a'.store σ₀) : Revocable σ₀ s' a'.store := by
  obtain ⟨t, ht⟩ := hw.written
  rw [← hps] at hc hu
  exact ⟨hc, h.grown.trans ht.ids_prefix, fun hk => ht.keyed (h.keyed hk), hu⟩

/-- **The entry of a forward action is undone first**, and then the entries before it. -/
theorem unwind_forward {act : Action} {o : ActionOutcome} {ch : Change} {eid : EntryId}
    {t : Instant} {inv ops : List WriteOp}
    (h : Chronicle s (a.store.entriesOf s.params.session))
    (hf : Forward s.rules s.params.owner a.store act o ch)
    (hw : Archive.Wrote id
      (ch.ops ++ [.appendAudit (s.entry eid t ch.action ch.subject ch.payload)]) a a')
    (hinv : ((s.entry eid t ch.action ch.subject ch.payload).kept a.backend).inverse = .ok inv)
    (hops : AuditEntry.unwind (a.store.forSession s.params.session) = .ok ops) :
    AuditEntry.unwind (a'.store.forSession s.params.session) = .ok (inv ++ ops) := by
  have hes := entriesOf_of_wrote hw (hf.appended _) rfl
  have hlt : ∀ x ∈ a.store.entriesOf s.params.session, x.seq < s.nextSeq :=
    fun x hx => h.seq_lt hx
  rw [Store.forSession_of_append h.rising hlt hes]
  refine AuditEntry.unwind_cons hinv hops fun x hx => hlt x ?_
  rwa [Store.forSession_eq_reverse h.rising, List.mem_reverse] at hx

/-- **A forward action leaves a session that can be taken back.** -/
theorem undone_forward {act : Action} {o : ActionOutcome} {ch : Change} {eid : EntryId}
    {t : Instant} (h : Revocable σ₀ s a.store) (hs : s.status = .active)
    (hf : Forward s.rules s.params.owner a.store act o ch)
    (hw : Archive.Wrote id
      (ch.ops ++ [.appendAudit (s.entry eid t ch.action ch.subject ch.payload)]) a a') :
    ∃ ops, AuditEntry.unwind (a'.store.forSession s.params.session) = .ok ops ∧
      Undoes ops a'.store σ₀ := by
  obtain ⟨ops, hops, hu⟩ := h.undone (.inl hs)
  obtain ⟨t', ht⟩ := hw.written
  obtain ⟨inv, hinv, hu'⟩ := hf.undone eid t s.params.session s.params.owner s.nextSeq
  exact ⟨inv ++ ops, unwind_forward h.chronicle hf hw hinv hops, hu.trans (hu' ht)⟩

/-- **Whatever an action does**, the session can still be taken back unless it is over. -/
theorem revocable_performed {act : Action} {r : Except CurationError ActionOutcome}
    (h : Revocable σ₀ s a.store) (hp : Performed s a act (r, s', a')) :
    s'.params = s.params ∧ Revocable σ₀ s' a'.store := by
  obtain ⟨hps, hc⟩ := chronicle_performed h.chronicle hp
  refine ⟨hps, ?_⟩
  cases hp with
  | refused he hst => exact hst.store ▸ h
  | found hs hst => exact hst.store ▸ h
  | forward hs hf hw =>
    exact revocable_of_wrote h hw rfl hc fun _ => undone_forward h hs hf hw
  | committed hs hb hm hv hw => exact revocable_of_wrote h hw rfl hc nofun
  | rolledBack hs hb hm hv hu hw => exact revocable_of_wrote h hw rfl hc nofun
  | rollbackFailed hs hb hm hv hvain =>
    rw [hvain.store] at hc ⊢
    exact ⟨hc, h.grown, h.keyed, fun _ => h.undone (.inl hs)⟩
  | overflowed hs hb hm hst =>
    rw [hst.store] at hc ⊢
    exact ⟨hc, h.grown, h.keyed, fun _ => h.undone (.inl hs)⟩

/-- **Every undisturbed run** can be taken back. -/
theorem revocable_run (hb : Begins c owner a₀ s₀ a₁) (hr : Run Archive.Quiet s₀ a₁ s a) :
    s.params = s₀.params ∧ Revocable a₀.store s a.store := by
  obtain ⟨hb, hst⟩ := hb.begun
  refine hr.preserves (P := fun s a => s.params = s₀.params ∧ Revocable a₀.store s a.store)
    (fun _ _ hq => hq) (fun s a a' h hq => ⟨h.1, hq.store ▸ h.2⟩)
    (fun s a act r s' a' h hp => ?_) ⟨rfl, hst.store ▸ hb.revocable⟩
  obtain ⟨hps, hre⟩ := revocable_performed h.2 hp
  exact ⟨hps.trans h.1, hre⟩

/-! ## 2. Rolling back -/

/-- **A rollback is written** if no fault is armed, the trail can be unwound, the memories that it
names are there, and what the batch adds is new. -/
theorem rollback_of_known {entries : List AuditEntry} {r : RollbackRecord} {undo : List WriteOp}
    (hf : a.faults = .none) (hu : AuditEntry.unwind entries = .ok undo)
    (hk : ∀ op ∈ undo, ∃ id, op.target? = some id ∧ (a.store.memory? id).isSome)
    (hp : ∀ e ∈ a.store.trail, e.session = r.session → e.seq ≠ r.seq)
    (hid : ∀ e ∈ a.store.trail, e.id ≠ ⟨Ident.generated a.drawn⟩)
    (hj : a.store.memory? r.journal.id = none) (hn : a.backend = .database → r.owner.text ≠ "") :
    ∃ a', a.answer (do
        let ops ← rollbackBatch entries r
        Archive.applyBatch ops : CurationM Unit) = (.ok (), a') ∧
      a.Grew 1 r.journal.id ⟨Ident.generated a.drawn⟩ a' := by
  have hs : ∀ op ∈ undo, op.target?.isSome := AuditEntry.target_of_unwind hu
  unfold rollbackBatch
  simp only [bind_assoc, Archive.answer_bind, Archive.answer_liftExcept, hu, Archive.answer_lift,
    Archive.run_newEntry, Archive.run_now, Archive.answer_pure, Archive.answer_ofStore]
  generalize ha₁ : ({ a with drawn := _, clock := _ } : Archive) = a₁
  have hf₁ : a₁.faults = .none := by
    subst ha₁
    exact hf
  obtain ⟨s₁, h₁⟩ := Store.written_of_known (b := a.backend) (t := a₁.clock.next) hk
  have htrail : s₁.trail = a.store.trail := by
    rw [h₁.trail, appended_eq_nil hs]
    simp
  obtain ⟨s₂, h₂⟩ := Store.written_closing (b := a.backend) (t := a₁.clock.next) (s := s₁)
    (.make ⟨Ident.generated a.drawn⟩ a.clock.next r.session r.owner r.seq .sessionRollback []
      r.payload.encode) r.journal r.owner a.clock.advance.next
    (fun _ x hx => ⟨hid x (htrail ▸ hx), fun h => hp x (htrail ▸ hx) h.1 h.2⟩)
    (h₁.memory?_of_targets hs hj) hn
  have hb : ∀ ops, a.store.applyBatch a.backend a₁.clock.next none ops = .ok s₂ →
      ∃ a', a₁.answer (Archive.applyBatch ops) = (.ok (), a') ∧ a'.store = s₂ ∧
        a'.backend = a.backend ∧ a'.faults = .none ∧ a'.drawn = a.drawn + 1 := by
    subst ha₁
    exact fun ops h => ⟨_, Archive.answer_applyBatch_of_none hf₁ h, rfl, rfl, hf₁, rfl⟩
  obtain ⟨a', ha', rfl, hb', hf', hd'⟩ := hb _ (h₁.append h₂).applyBatch
  rw [ha']
  refine ⟨a', rfl, hb', hf', hd', ?_, ?_⟩
  · rw [h₂.ids, h₁.ids, inserted_eq_nil hs, List.map_nil, List.append_nil]
    rfl
  · rw [h₂.trail, htrail, List.map_append]
    rfl

theorem rollbackOps_target (s : Session) (summary : String) (post : UInt64) (reason : String)
    (eid : EntryId) (jid : MemoryId) (t jt time : Instant) :
    ∀ op ∈ s.rollbackOps summary post reason eid jid t jt time, op.target? = none := by
  simp [rollbackOps, WriteOp.target?]

/-- What a rollback leaves is the store that was there when the session began. -/
theorem again_of_rollback {ops tail : List WriteOp} {f : Counters → Counters}
    (h : Revocable σ₀ s a.store) (hu : Undoes ops a.store σ₀)
    (hw : Archive.Wrote f (ops ++ tail) a a') (htail : ∀ op ∈ tail, op.target? = none)
    (hj : ∀ m, .insertMemory m ∈ tail → m.kind = .journal) :
    Store.Again owner (.live .core) a'.store σ₀ := by
  obtain ⟨t, ht⟩ := hw.written
  refine ⟨h.grown.trans ht.ids_prefix, fun mid m₀ hm₀ => hu.restores ht htail hm₀,
    fun mid m hn hm => ?_⟩
  rcases hs : a.store.memory? mid with _ | m₁
  · -- the journal, which is of another kind
    obtain ⟨m₂, ops', hi, rfl⟩ := ht.mem_of_new hs hm
    have hk : m₂.kind = .journal := by
      rcases List.mem_append.mp hi with hi | hi
      · obtain ⟨_, ht', -⟩ := hu.known _ hi
        cases ht'
      · exact hj m₂ hi
    have ho := Memory.origin_revised a.backend t ops' m₂
    have hk' : (m₂.revised a.backend t ops').kind = .journal := by
      rw [← hk]
      exact congrArg (·.2.2.1) ho
    simp [MemoryFilter.shows, MemoryFilter.live, hk']
  · -- made by the session, and deleted by the rollback
    obtain ⟨m', hm', hd⟩ := hu.deletes ht htail hn hs
    rw [hm] at hm'
    cases hm'
    simp [MemoryFilter.shows, MemoryFilter.live, hd]

/-- **Rollback restores the exact prior state.**  If a session that nobody disturbed is rolled
back when it is completed, then every memory that was there when it began is as it was then, every
memory that it made is deleted, and the live core mass of its owner is again the one that was
measured when it began. -/
theorem rollback_restores (hk : a₀.store.Keyed) (hb : Begins c owner a₀ s₀ a₁)
    (hr : Run Archive.Quiet s₀ a₁ s a) {summary : String} {o : SessionOutcome}
    (hc : s.answer a (complete summary) = (.ok o, s', a')) (ho : o.status = .rolledBack) :
    (∀ mid m₀, a₀.store.memory? mid = some m₀ →
      ∃ m, a'.store.memory? mid = some m ∧ m.Restored m₀) ∧
    (∀ mid m, a₀.store.memory? mid = none → a.store.memory? mid = some m →
      ∃ m', a'.store.memory? mid = some m' ∧ m'.tombstoned = true) ∧
    c.rules.meter.mass (a'.store.list owner (.live .core)) = some s.params.preMass := by
  obtain ⟨hps, hre⟩ := revocable_run hb hr
  have hbegun := hb.begun.1
  have hp := performed s a (.complete summary)
  have ha : s.answer a (perform (.complete summary)) = (.ok (.completed o), s', a') := by
    unfold perform
    rw [answer_bind, hc]
    rfl
  rw [ha] at hp
  cases hp with
  | forward hs hf hw => cases hf
  | committed hs hb hm hv hw => cases ho
  | @rolledBack _ post undo eid jid t jt time _ hs hb hm hv hu hw =>
    obtain ⟨ops, hops, hund⟩ := hre.undone (.inl hs)
    rw [hre.ownTrail, hops] at hu
    cases hu
    have htail := s.rollbackOps_target (trim summary) post (s.trippedReason post) eid jid t jt time
    obtain ⟨t', ht⟩ := hw.written
    refine ⟨fun mid m₀ hm₀ => hund.restores ht htail hm₀,
      fun mid m hn hm => hund.deletes ht htail hn hm, ?_⟩
    have hagain : Store.Again owner (.live .core) a'.store a₀.store := by
      refine again_of_rollback hre hund hw htail fun m hm => ?_
      simp [rollbackOps] at hm
      rw [hm]
      rfl
    rw [hagain.mass hk (ht.keyed (hre.keyed hk)), hps, ← hbegun.preMass, mass, hbegun.rules,
      hbegun.owner]

theorem rollback_restores_deleted :
    ∃ s₀ a₁ s a₂ o s' a₃, Begins .standard ⟨"o"⟩ .oneNote s₀ a₁ ∧ Run Archive.Quiet s₀ a₁ s a₂ ∧
      s.answer a₂ (complete "x") = (.ok o, s', a₃) ∧ o.status = .rolledBack ∧
      a₃.store.memory? ⟨"m"⟩ = some (.fresh ⟨"m"⟩ ⟨"o"⟩ "note" .core ⟨0, 0⟩) := by
  have h : Archive.oneNote.yields (beginAs .standard ⟨"o"⟩ ⟨"s"⟩) (fun s a =>
      let r := (Call.perform (.delete ⟨"m"⟩)).run s a
      r.1.yields r.2 (complete "x") (·.status == .rolledBack)) = true := by decide +kernel
  obtain ⟨s₀, a₁, h, hn⟩ := Archive.exists_of_yields h
  obtain ⟨o, s', a₃, hc, ho⟩ := exists_of_yields hn
  have hb : Begins .standard ⟨"o"⟩ .oneNote s₀ a₁ := .named ⟨"s"⟩ h
  have hr : Run Archive.Quiet s₀ a₁ _ _ := .call (.perform (.delete ⟨"m"⟩)) .start
  have ho : o.status = .rolledBack := by simpa using ho
  obtain ⟨m, hm, hre⟩ := (rollback_restores (by decide) hb hr hc ho).1 ⟨"m"⟩ _ rfl
  rw [hre.tidy fun _ => rfl] at hm
  exact ⟨s₀, a₁, _, _, o, s', a₃, hb, hr, hc, ho, hm⟩

end Session
end Curation
