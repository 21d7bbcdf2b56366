/-
# What an action does to a session

An action that is performed has one of seven ends: it was refused and nothing changed, it showed
something, it wrote one forward change, it committed, it was rolled back, its rollback could not be
written, or it was broken off since the mass did not fit a word.  `performed` says so of every
action, with the whole of what was written and of what was handed over in vain; all that is proved
of runs of a session is proved from it, so no later proof opens an action again.

A forward action is described by its `Change`: the entry it leaves and the ops that go with it.
`Forward` says which changes an action may make of which store.
-/
import Curation.Proofs.Session.Calls

namespace Curation

/-! ## 1. Batches -/

namespace Archive

variable {a a₁ a' : Archive} {ops : List WriteOp} {f g : Counters → Counters}
  {P Q : List WriteOp → Prop}

/-- A batch was handed over and written, and the counters were changed. -/
structure Wrote (f : Counters → Counters) (ops : List WriteOp) (a a' : Archive) : Prop where
  backend : a'.backend = a.backend
  written : ∃ t, Store.Written a.backend t ops a.store a'.store
  counters : a'.counters = f a.counters
  handed : a'.handed = ⟨a.store, ops⟩ :: a.handed

/-- Nothing was written.  A batch of some kind may have been handed over in vain, and the counters
were changed. -/
structure InVain (f : Counters → Counters) (P : List WriteOp → Prop) (a a' : Archive) : Prop where
  backend : a'.backend = a.backend
  store : a'.store = a.store
  counters : a'.counters = f a.counters
  handed : a'.handed = a.handed ∨ ∃ ops, P ops ∧ a'.handed = ⟨a.store, ops⟩ :: a.handed

/-- Nothing happened but that the counters were changed. -/
structure Counted (f : Counters → Counters) (a a' : Archive) : Prop where
  backend : a'.backend = a.backend
  store : a'.store = a.store
  counters : a'.counters = f a.counters
  handed : a'.handed = a.handed

theorem Still.inVain (h : Still a a') : InVain id P a a' :=
  ⟨h.backend, h.store, h.counters, .inl h.handed⟩

theorem Still.counted (h : Still a a') (f : Counters → Counters) :
    Counted f a { a' with counters := f a'.counters } :=
  ⟨h.backend, h.store, congrArg f h.counters, h.handed⟩

/-- Counting before a batch is counting with it. -/
theorem Counted.wrote (h : Counted f a a₁) (hw : Wrote g ops a₁ a') : Wrote (g ∘ f) ops a a' := by
  obtain ⟨t, ht⟩ := hw.written
  have hh := hw.handed
  rw [h.backend, h.store] at ht
  rw [h.store, h.handed] at hh
  exact ⟨hw.backend.trans h.backend, ⟨t, ht⟩, hw.counters.trans (congrArg g h.counters), hh⟩

theorem Counted.inVain (h : Counted f a a₁) (hv : InVain g P a₁ a') :
    InVain (g ∘ f) P a a' := by
  have hh := hv.handed
  rw [h.store, h.handed] at hh
  exact ⟨hv.backend.trans h.backend, hv.store.trans h.store,
    hv.counters.trans (congrArg g h.counters), hh⟩

theorem Still.wrote (h : Still a a₁) (hw : Wrote f ops a₁ a') : Wrote f ops a a' :=
  Counted.wrote (f := id) ⟨h.backend, h.store, h.counters, h.handed⟩ hw

theorem Still.trans_inVain (h : Still a a₁) (hv : InVain f P a₁ a') : InVain f P a a' :=
  Counted.inVain (f := id) ⟨h.backend, h.store, h.counters, h.handed⟩ hv

theorem Wrote.count (h : Wrote f ops a a') (g : Counters → Counters) :
    Wrote (g ∘ f) ops a { a' with counters := g a'.counters } :=
  ⟨h.backend, h.written, congrArg g h.counters, h.handed⟩

theorem InVain.count (h : InVain f P a a') (g : Counters → Counters) :
    InVain (g ∘ f) P a { a' with counters := g a'.counters } :=
  ⟨h.backend, h.store, congrArg g h.counters, h.handed⟩

theorem InVain.mono (h : InVain f P a a') (hPQ : ∀ ops, P ops → Q ops) : InVain f Q a a' :=
  ⟨h.backend, h.store, h.counters, h.handed.imp id fun ⟨ops, hp, hh⟩ => ⟨ops, hPQ ops hp, hh⟩⟩

/-- **What becomes of a batch** that is handed over: it is written, or it was handed over in
vain. -/
theorem applyBatch_cases {r : Except StorageError Unit} (h : a.answer (applyBatch ops) = (r, a')) :
    match r with
    | .ok _ => Wrote id ops a a'
    | .error _ => InVain id (· = ops) a a' := by
  obtain ⟨r', a₂, h₂, hb, hc, hh, hr⟩ := answer_applyBatch a ops
  rw [h] at h₂
  cases h₂
  cases r with
  | ok v =>
    obtain ⟨t, fault, hw⟩ := hr
    exact ⟨hb, ⟨t, Store.written_of_applyBatch hw⟩, hc, hh⟩
  | error e => exact ⟨hb, hr, hc, .inr ⟨ops, rfl, hh⟩⟩

end Archive

/-- What the batch of a rollback holds after the undoing. -/
def RollbackRecord.closing (r : RollbackRecord) (eid : EntryId) (t time : Instant) :
    List WriteOp :=
  [.appendAudit (.make eid t r.session r.owner r.seq .sessionRollback [] r.payload.encode),
    .insertMemory r.journal, .stampRefined r.owner time]

/-- **The batches of a rollback**: some entries are undone, and the rollback is recorded. -/
inductive RollbackRecord.Batch (entries : List AuditEntry) (r : RollbackRecord) :
    List WriteOp → Prop
  | mk {undo : List WriteOp} (eid : EntryId) (t time : Instant)
      (hu : AuditEntry.unwind entries = .ok undo) : Batch entries r (undo ++ r.closing eid t time)

/-- **A rollback is written as a whole**, or nothing of it is. -/
theorem rollback_written (entries : List AuditEntry) (r : RollbackRecord) (a : Archive) :
    ∃ res a', a.answer (do
        let ops ← rollbackBatch entries r
        Archive.applyBatch ops : CurationM Unit) = (res, a') ∧
      match res with
      | .ok _ => ∃ ops, r.Batch entries ops ∧ Archive.Wrote id ops a a'
      | .error _ => Archive.InVain id (r.Batch entries) a a' := by
  unfold rollbackBatch
  simp only [bind_assoc, Archive.answer_bind, Archive.answer_liftExcept]
  rcases hu : AuditEntry.unwind entries with e | undo
  · exact ⟨_, _, rfl, (Archive.Still.refl a).inVain⟩
  · simp only [Archive.answer_lift, Archive.run_newEntry, Archive.run_now, Archive.answer_pure,
      Archive.answer_ofStore]
    generalize hops : undo ++ [WriteOp.appendAudit _, WriteOp.insertMemory _,
      WriteOp.stampRefined _ _] = batch
    generalize ha₁ : ({ a with drawn := _, clock := _ } : Archive) = a₁
    have hst : Archive.Still a a₁ := by
      subst ha₁
      exact ⟨rfl, rfl, rfl, rfl⟩
    have hbatch : r.Batch entries batch := hops ▸ .mk _ _ _ hu
    rcases h : a₁.answer (Archive.applyBatch batch) with ⟨res, a₂⟩
    have hcases := Archive.applyBatch_cases h
    cases res with
    | ok v => exact ⟨_, _, rfl, batch, hbatch, hst.wrote hcases⟩
    | error e =>
      exact ⟨_, _, rfl, hst.trans_inVain (hcases.mono fun ops hops => hops ▸ hbatch)⟩

/-! ## 2. Forward changes -/

/-- What a forward action writes: the body of its entry, and its ops. -/
structure Change where
  action : AuditAction
  subject : List MemoryId
  payload : Json
  ops : List WriteOp

namespace Change

def update (m : Memory) (content : String) : Change where
  action := .update
  subject := [m.id]
  payload := (UpdatePayload.mk m.content content).encode
  ops := [.setContent m.id content]

def delete (m : Memory) : Change where
  action := .delete
  subject := [m.id]
  payload := (DeletePayload.mk m.content none).encode
  ops := [.setTombstone m.id true]

def consolidate (sources : List Memory) (result : Memory) : Change where
  action := .consolidate
  subject := sources.map (·.id) ++ [result.id]
  payload := (ConsolidatePayload.mk (sources.map fun m => ⟨m.id, m.content⟩)
    ⟨result.id, result.content⟩).encode
  ops := .insertMemory result :: sources.map fun m => .setTombstone m.id true

def protect (m : Memory) : Change where
  action := .protect
  subject := [m.id]
  payload := FlagPayload.mk.encode
  ops := [.setConstitutional m.id true]

def unprotect (m : Memory) : Change where
  action := .unprotect
  subject := [m.id]
  payload := FlagPayload.mk.encode
  ops := [.setConstitutional m.id false]

end Change

/-- **The changes that an action may make**, and what the driver is told of them.  The memories
that they name are the owner's and live, and unprotected unless the protection is what is taken
off. -/
inductive Forward (rules : MemoryRules) (owner : OwnerId) (s : Store) :
    Action → ActionOutcome → Change → Prop
  | update {m : Memory} {content : String} (h : s.Holds owner m) (hc : m.constitutional = false)
      (hv : rules.validate content = .ok ()) :
      Forward rules owner s (.update m.id content) (.updated m.id) (.update m content)
  | delete {m : Memory} (h : s.Holds owner m) (hc : m.constitutional = false) :
      Forward rules owner s (.delete m.id) (.deleted m.id) (.delete m)
  | consolidate {sources : List Memory} {content : String} {n : Nat} {t : Instant}
      (hn : 2 ≤ sources.length) (hd : (sources.map (·.id)).Nodup)
      (hv : rules.validate content = .ok ())
      (h : ∀ m ∈ sources, s.Holds owner m ∧ m.constitutional = false) :
      Forward rules owner s (.consolidate (sources.map (·.id)) content)
        (.consolidated ⟨Ident.generated n⟩ (sources.map (·.id)))
        (.consolidate sources (.fresh ⟨Ident.generated n⟩ owner content .core t))
  | protect {m : Memory} (h : s.Holds owner m) (hc : m.constitutional = false) :
      Forward rules owner s (.protect m.id) (.protected_ m.id) (.protect m)
  | unprotect {m : Memory} (h : s.Holds owner m) (hc : m.constitutional = true) :
      Forward rules owner s (.unprotect m.id) (.unprotected m.id) (.unprotect m)

theorem Forward.compensable {rules : MemoryRules} {owner : OwnerId} {s : Store} {act : Action}
    {o : ActionOutcome} {c : Change} (h : Forward rules owner s act o c) :
    c.action.isTerminal = false := by
  cases h <;> rfl

namespace Session

variable {α : Type}

/-! ## 3. The ends of an action -/

/-- An entry of a session, at its next place. -/
def entry (s : Session) (id : EntryId) (t : Instant) (action : AuditAction)
    (subject : List MemoryId) (payload : Json) : AuditEntry :=
  .make id t s.params.session s.params.owner s.nextSeq action subject payload

/-- A session that has written a forward entry. -/
def recorded (s : Session) (action : AuditAction) : Session :=
  { s with nextSeq := s.nextSeq + 1, stats := s.stats.record action }

/-- A session that has written its closing entry. -/
def closed (s : Session) (status : SessionStatus) : Session :=
  { s with nextSeq := s.nextSeq + 1, status := status }

/-- The live core mass of the owner of a session, if it fits a word. -/
def mass (s : Session) (σ : Store) : Option UInt64 :=
  s.rules.meter.mass (σ.list s.params.owner (.live .core))

/-- What the breaker says of a session that is left with so much. -/
def verdict (s : Session) (post : UInt64) : Verdict :=
  evaluate s.params.preMass post s.params.threshold

/-- The batch of a commit. -/
def commitOps (s : Session) (summary : String) (eid : EntryId) (jid : MemoryId)
    (t jt time : Instant) : List WriteOp :=
  [.appendAudit (s.entry eid t .sessionComplete []
      (CompletePayload.mk s.params.session summary s.stats).encode),
    .insertMemory (.fresh jid s.params.owner
      (journalText s.limits.journal (s.commitJournal summary)) .journal jt),
    .stampRefined s.params.owner time]

/-- What the batch of a rollback holds after the undoing. -/
def rollbackOps (s : Session) (summary : String) (post : UInt64) (reason : String)
    (eid : EntryId) (jid : MemoryId) (t jt time : Instant) : List WriteOp :=
  [.appendAudit (s.entry eid t .sessionRollback []
      (RollbackPayload.mk (some s.params.preMass.toNat) post.toNat s.params.threshold.value
        s.stats reason).encode),
    .insertMemory (.fresh jid s.params.owner
      (journalText s.limits.journal (s.rollbackJournal summary reason)) .journal jt),
    .stampRefined s.params.owner time]

/-- The entries that a session takes back, the last one first. -/
def ownTrail (s : Session) (σ : Store) : List AuditEntry :=
  (σ.forSession s.params.session).filter (·.owner == s.params.owner)

/-- Why a session is taken back that is left with so much. -/
def trippedReason (s : Session) (post : UInt64) : String :=
  s.rollbackReason post (s.verdict post).ratio

/-- **The batches that an action hands over**, as its session and the store stand. -/
inductive Hands (s : Session) (σ : Store) : Action → List WriteOp → Prop
  | forward {act : Action} {o : ActionOutcome} {c : Change} (eid : EntryId) (t : Instant)
      (hs : s.status = .active) (hf : Forward s.rules s.params.owner σ act o c) :
      Hands s σ act (c.ops ++ [.appendAudit (s.entry eid t c.action c.subject c.payload)])
  | commit {summary : String} {post : UInt64} (eid : EntryId) (jid : MemoryId)
      (t jt time : Instant) (hs : s.status = .active) (hm : s.mass σ = some post)
      (hv : (s.verdict post).isTripped = false) :
      Hands s σ (.complete summary) (s.commitOps (trim summary) eid jid t jt time)
  | rollback {summary : String} {post : UInt64} {undo : List WriteOp} (eid : EntryId)
      (jid : MemoryId) (t jt time : Instant) (hs : s.status = .active) (hm : s.mass σ = some post)
      (hv : (s.verdict post).isTripped = true)
      (hu : AuditEntry.unwind (s.ownTrail σ) = .ok undo) :
      Hands s σ (.complete summary)
        (undo ++ s.rollbackOps (trim summary) post (s.trippedReason post) eid jid t jt time)

/-- **The ends of an action** on a session: what is answered, and what becomes of the session
and of the archive. -/
inductive Performed (s : Session) (a : Archive) :
    Action → Except CurationError ActionOutcome × Session × Archive → Prop
  | refused {act : Action} {e : CurationError} {a' : Archive} (he : e.Ordinary)
      (h : Archive.InVain id (Hands s a.store act) a a') : Performed s a act (.error e, s, a')
  | found {query : String} {hits : List SearchHit} {a' : Archive} (hs : s.status = .active)
      (h : Archive.Still a a') : Performed s a (.search query) (.ok (.found hits), s, a')
  | forward {act : Action} {o : ActionOutcome} {c : Change} {eid : EntryId} {t : Instant}
      {a' : Archive} (hs : s.status = .active)
      (hf : Forward s.rules s.params.owner a.store act o c)
      (hw : Archive.Wrote id
        (c.ops ++ [.appendAudit (s.entry eid t c.action c.subject c.payload)]) a a') :
      Performed s a act (.ok o, s.recorded c.action, a')
  | committed {summary : String} {post : UInt64} {eid : EntryId} {jid : MemoryId}
      {t jt time : Instant} {a' : Archive} (hs : s.status = .active)
      (hb : (trim summary).isEmpty = false) (hm : s.mass a.store = some post)
      (hv : (s.verdict post).isTripped = false)
      (hw : Archive.Wrote .committed (s.commitOps (trim summary) eid jid t jt time) a a') :
      Performed s a (.complete summary)
        (.ok (.completed ((s.closed .committed).outcome post (s.verdict post).ratio
          (trim summary) 0)), s.closed .committed, a')
  | rolledBack {summary : String} {post : UInt64} {undo : List WriteOp} {eid : EntryId}
      {jid : MemoryId} {t jt time : Instant} {a' : Archive} (hs : s.status = .active)
      (hb : (trim summary).isEmpty = false) (hm : s.mass a.store = some post)
      (hv : (s.verdict post).isTripped = true)
      (hu : AuditEntry.unwind (s.ownTrail a.store) = .ok undo)
      (hw : Archive.Wrote (.rolledBack ∘ .tripped) (undo ++ s.rollbackOps (trim summary) post
        (s.trippedReason post) eid jid t jt time) a a') :
      Performed s a (.complete summary)
        (.ok (.completed ((s.closed .rolledBack).outcome post (s.verdict post).ratio
          (s.trippedReason post) (s.ownTrail a.store).length)), s.closed .rolledBack, a')
  | rollbackFailed {summary reason : String} {post : UInt64} {a' : Archive}
      (hs : s.status = .active) (hb : (trim summary).isEmpty = false)
      (hm : s.mass a.store = some post) (hv : (s.verdict post).isTripped = true)
      (h : Archive.InVain (.rollbackFailed ∘ .tripped) (Hands s a.store (.complete summary)) a a') :
      Performed s a (.complete summary)
        (.error (.rollbackFailed s.params.session reason), { s with status := .rollbackFailed }, a')
  /-- The call was broken off while the session was completing. -/
  | overflowed {summary : String} {a' : Archive} (hs : s.status = .active)
      (hb : (trim summary).isEmpty = false) (hm : s.mass a.store = none)
      (h : Archive.Still a a') :
      Performed s a (.complete summary) (.error .sumOverflow, { s with status := .completing }, a')

/-! ## 4. The actions -/

section

variable {s : Session} {a a₁ : Archive} {act : Action}

/-- **Guards first.**  What is read before an action writes changes nothing, and if it is
refused so is the action. -/
theorem performed_bind {x : SessionM α} {f : α → SessionM ActionOutcome} (hst : Archive.Still a a₁)
    (hx : Reads x)
    (hf : ∀ v a₂, s.answer a₁ x = (.ok v, s, a₂) → Archive.Still a a₂ →
      Performed s a act (s.answer a₂ (f v))) :
    Performed s a act (s.answer a₁ (x >>= f)) := by
  rw [answer_bind]
  rcases h : s.answer a₁ x with ⟨r, s', a₂⟩
  obtain ⟨rfl, hs⟩ := hx.still h
  cases r with
  | ok v => exact hf v a₂ h (hst.trans hs)
  | error e => exact .refused (hx.ordinary h) (hst.trans hs).inVain

/-- The entry and the ops of a change are written together or not at all. -/
theorem performed_commitForward {o : ActionOutcome} {action : AuditAction}
    {subject : List MemoryId} {payload : Json} {ops : List WriteOp} (hst : Archive.Still a a₁)
    (hs : s.status = .active)
    (hf : Forward s.rules s.params.owner a.store act o ⟨action, subject, payload, ops⟩) :
    Performed s a act (s.answer a₁ (do
      commitForward action subject payload ops
      return o)) := by
  unfold commitForward
  simp only [bind_assoc, answer_bind, answer_get, answer_liftState, Archive.run_newEntry,
    answer_liftStore, Archive.answer_ofStore]
  generalize hops : ops ++ [WriteOp.appendAudit _] = batch
  generalize ha₂ : ({ a₁ with drawn := _, clock := _ } : Archive) = a₂
  have hst₂ : Archive.Still a a₂ := by
    subst ha₂
    exact hst.trans ⟨rfl, rfl, rfl, rfl⟩
  have hands : Hands s a.store act batch := hops ▸ .forward _ _ hs hf
  rcases h : a₂.answer (Archive.applyBatch batch) with ⟨r, a₃⟩
  have hcases := Archive.applyBatch_cases h
  cases r with
  | ok v =>
    subst hops
    exact .forward hs hf (hst₂.wrote hcases)
  | error e =>
    exact .refused nofun (hst₂.trans_inVain (hcases.mono fun ops hops => hops ▸ hands))

theorem performed_search (hst : Archive.Still a a₁) (query : String) :
    Performed s a (.search query) (s.answer a₁ (search query)) := by
  unfold search
  refine performed_bind hst reads_ensureAccepting fun _ a₂ h₂ hst => ?_
  rw [answer_bind, answer_get]
  refine performed_bind hst (reads_liftCall (Archive.reads_search _ _ _)) fun hits a₃ _ hst => ?_
  exact .found (ensureAccepting_ok h₂) hst

theorem performed_update (hst : Archive.Still a a₁) (mid : MemoryId) (content : String) :
    Performed s a (.update mid content) (s.answer a₁ (update mid content)) := by
  unfold update
  refine performed_bind hst reads_ensureAccepting fun _ a₂ h₂ hst₂ => ?_
  rw [answer_bind, answer_get]
  refine performed_bind hst₂ (reads_ownedLive mid) fun m a₃ h₃ hst₃ => ?_
  refine performed_bind hst₃ (reads_liftExcept fun _ => updateOp_ordinary) fun op a₄ h₄ hst₄ => ?_
  obtain ⟨rfl, hm⟩ := ownedLive_ok h₃
  rw [answer_liftExcept] at h₄
  obtain ⟨hc, hv, rfl⟩ := updateOp_ok (Prod.mk.inj h₄).1
  rw [hst₂.store] at hm
  exact performed_commitForward hst₄ (ensureAccepting_ok h₂) (.update hm hc hv)

theorem performed_delete (hst : Archive.Still a a₁) (mid : MemoryId) :
    Performed s a (.delete mid) (s.answer a₁ (delete mid)) := by
  unfold delete
  refine performed_bind hst reads_ensureAccepting fun _ a₂ h₂ hst₂ => ?_
  refine performed_bind hst₂ (reads_ownedLive mid) fun m a₃ h₃ hst₃ => ?_
  refine performed_bind hst₃ (reads_liftExcept fun _ => tombstoneOp_ordinary)
    fun op a₄ h₄ hst₄ => ?_
  obtain ⟨rfl, hm⟩ := ownedLive_ok h₃
  rw [answer_liftExcept] at h₄
  obtain ⟨hc, rfl⟩ := tombstoneOp_ok (Prod.mk.inj h₄).1
  rw [hst₂.store] at hm
  exact performed_commitForward hst₄ (ensureAccepting_ok h₂) (.delete hm hc)

theorem performed_consolidate (hst : Archive.Still a a₁) (ids : List MemoryId)
    (content : String) :
    Performed s a (.consolidate ids content) (s.answer a₁ (consolidate ids content)) := by
  unfold consolidate
  refine performed_bind hst reads_ensureAccepting fun _ a₂ h₂ hst₂ => ?_
  rw [answer_bind, answer_get]
  dsimp only
  split
  · exact .refused nofun hst₂.inVain
  · next hn =>
    split
    · exact .refused nofun hst₂.inVain
    · next hd =>
      refine performed_bind hst₂ (reads_liftExcept fun _ => validate_ordinary)
        fun _ a₃ h₃ hst₃ => ?_
      refine performed_bind hst₃ (.mapM reads_mergeSource ids) fun ps a₄ h₄ hst₄ => ?_
      obtain ⟨ms, rfl, hms, rfl⟩ := mergeSources_ok h₄
      rw [answer_liftExcept] at h₃
      have hv := (Prod.mk.inj h₃).1
      rw [hst₃.store] at hms
      rw [answer_bind, answer_liftState, Archive.run_newMemory]
      have htwo : 2 ≤ ms.length := by
        rw [List.length_map] at hn
        omega
      simp only [List.map_map]
      exact performed_commitForward (hst₄.trans ⟨rfl, rfl, rfl, rfl⟩) (ensureAccepting_ok h₂)
        (.consolidate htwo (by simpa using hd) hv hms)

theorem performed_protect (hst : Archive.Still a a₁) (mid : MemoryId) :
    Performed s a (.protect mid) (s.answer a₁ (protect mid)) := by
  unfold protect
  refine performed_bind hst reads_ensureAccepting fun _ a₂ h₂ hst₂ => ?_
  refine performed_bind hst₂ (reads_ownedLive mid) fun m a₃ h₃ hst₃ => ?_
  obtain ⟨rfl, hm⟩ := ownedLive_ok h₃
  rw [hst₂.store] at hm
  dsimp only
  split
  · exact .refused nofun hst₃.inVain
  · next hc =>
    exact performed_commitForward hst₃ (ensureAccepting_ok h₂) (.protect hm (by simpa using hc))

theorem performed_unprotect (hst : Archive.Still a a₁) (mid : MemoryId) :
    Performed s a (.unprotect mid) (s.answer a₁ (unprotect mid)) := by
  unfold unprotect
  refine performed_bind hst reads_ensureAccepting fun _ a₂ h₂ hst₂ => ?_
  refine performed_bind hst₂ (reads_ownedLive mid) fun m a₃ h₃ hst₃ => ?_
  obtain ⟨rfl, hm⟩ := ownedLive_ok h₃
  rw [hst₂.store] at hm
  dsimp only
  split
  · exact .refused nofun hst₃.inVain
  · next hc =>
    exact performed_commitForward hst₃ (ensureAccepting_ok h₂) (.unprotect hm (by simpa using hc))

/-! ### Completion -/

/-- **A completion that is refused**: a session that is active again is what it was. -/
theorem performed_again {e : CurationError} {a' : Archive} (hs : s.status = .active)
    (he : e.Ordinary) (h : Archive.InVain id (Hands s a.store act) a a') :
    Performed s a act (.error e, { s with status := .active }, a') := by
  have hsame : { s with status := .active } = s := by
    rw [← hs]
  rw [hsame]
  exact .refused he h

theorem performed_commit {summary : String} {post : UInt64} (hst : Archive.Still a a₁)
    (hs : s.status = .active) (hb : (trim summary).isEmpty = false)
    (hm : s.mass a.store = some post) (hv : (s.verdict post).isTripped = false) :
    Performed s a (.complete summary)
      (({ s with status := .completing } : Session).answer a₁ (do
        let o ← commit (trim summary) post (s.verdict post).ratio
        return .completed o)) := by
  unfold commit newJournal
  simp only [bind_assoc, answer_bind, answer_get, answer_liftState, Archive.run_newEntry,
    Archive.run_newMemory, Archive.run_now, answer_orActive, Archive.answer_ofStore]
  generalize hops : [WriteOp.appendAudit _, WriteOp.insertMemory _,
    WriteOp.stampRefined _ _] = batch
  generalize ha₂ : ({ a₁ with drawn := _, clock := _ } : Archive) = a₂
  have hst₂ : Archive.Still a a₂ := by
    subst ha₂
    exact hst.trans ⟨rfl, rfl, rfl, rfl⟩
  have hands : Hands s a.store (.complete summary) batch := hops ▸ .commit _ _ _ _ _ hs hm hv
  rcases h : a₂.answer (Archive.applyBatch batch) with ⟨r, a₃⟩
  have hcases := Archive.applyBatch_cases h
  cases r with
  | ok v =>
    subst hops
    exact .committed hs hb hm hv ((hst₂.wrote hcases).count .committed)
  | error e =>
    exact performed_again hs nofun (hst₂.trans_inVain (hcases.mono fun ops hops => hops ▸ hands))

/-- The batches of a rollback of a session, and why it is taken back. -/
inductive TakesBack (s : Session) (σ : Store) (summary : String) (post : UInt64) (reason : String) :
    List WriteOp → Prop
  | mk {undo : List WriteOp} (eid : EntryId) (jid : MemoryId) (t jt time : Instant)
      (hu : AuditEntry.unwind (s.ownTrail σ) = .ok undo) :
      TakesBack s σ summary post reason
        (undo ++ s.rollbackOps summary post reason eid jid t jt time)

/-- What `writeRollback` does: the whole batch, or nothing. -/
theorem writeRollback_cases (s : Session) (summary : String) (post : UInt64) (reason : String)
    (a : Archive) :
    ∃ r a', a.answer (s.writeRollback summary post reason) = (r, a') ∧
      match r with
      | .ok n => n = (s.ownTrail a.store).length ∧
          ∃ ops, s.TakesBack a.store summary post reason ops ∧ Archive.Wrote id ops a a'
      | .error _ => Archive.InVain id (s.TakesBack a.store summary post reason) a a' := by
  unfold writeRollback newJournal
  rw [Archive.answer_bind]
  rcases h : a.answer (liftM (Archive.forSession s.params.session) : CurationM _) with ⟨r, a₁⟩
  have hst := (Archive.reads_forSession _).still h
  cases r with
  | error e => exact ⟨_, _, rfl, hst.inVain⟩
  | ok es =>
    obtain rfl := Archive.forSession_ok h
    dsimp only
    rw [Archive.answer_bind, Archive.answer_lift, Archive.run_newMemory]
    dsimp only
    generalize ha₂ : ({ a₁ with drawn := _, clock := _ } : Archive) = a₂
    have hst₂ : Archive.Still a a₂ := by
      subst ha₂
      exact hst.trans ⟨rfl, rfl, rfl, rfl⟩
    rw [← bind_assoc, Archive.answer_bind]
    let record : RollbackRecord := ⟨s.params.session, s.params.owner, s.nextSeq,
      ⟨some s.params.preMass.toNat, post.toNat, s.params.threshold.value, s.stats, reason⟩,
      .fresh ⟨Ident.generated a₁.drawn⟩ s.params.owner
        (journalText s.limits.journal (s.rollbackJournal summary reason)) .journal
        a₁.clock.next⟩
    have hundoes : ∀ ops, record.Batch (s.ownTrail a.store) ops →
        s.TakesBack a.store summary post reason ops := by
      rintro _ ⟨eid, t, time, hu⟩
      exact .mk eid _ t _ time hu
    obtain ⟨r, a₃, hw, hr⟩ := rollback_written (s.ownTrail a.store) record a₂
    rw [ownTrail] at hw
    rw [hw]
    cases r with
    | ok v =>
      obtain ⟨ops, hops, hw⟩ := hr
      exact ⟨_, _, rfl, rfl, ops, hundoes ops hops, hst₂.wrote hw⟩
    | error e => exact ⟨_, _, rfl, hst₂.trans_inVain (hr.mono hundoes)⟩

theorem performed_rollback {summary : String} {post : UInt64}
    (hc : Archive.Counted .tripped a a₁) (hs : s.status = .active)
    (hb : (trim summary).isEmpty = false) (hm : s.mass a.store = some post)
    (hv : (s.verdict post).isTripped = true) :
    Performed s a (.complete summary)
      (({ s with status := .completing } : Session).answer a₁ (do
        let o ← rollback (trim summary) post (s.verdict post).ratio
        return .completed o)) := by
  unfold rollback
  obtain ⟨r, a₂, h, hr⟩ := writeRollback_cases { s with status := .completing } (trim summary) post
    (s.trippedReason post) a₁
  have h' : (ExceptT.run (({ s with status := .completing } : Session).writeRollback (trim summary)
    post (({ s with status := .completing } : Session).rollbackReason post
      (s.verdict post).ratio))).run a₁ = (r, a₂) := h
  simp only [bind_assoc, answer_bind, answer_get, answer_liftState, h']
  rw [hc.store] at hr
  cases r with
  | ok n =>
    obtain ⟨rfl, _, ⟨eid, jid, t, jt, time, hu⟩, hw⟩ := hr
    exact .rolledBack hs hb hm hv hu ((hc.wrote hw).count .rolledBack)
  | error e =>
    refine .rollbackFailed hs hb hm hv (((hc.inVain hr).count .rollbackFailed).mono ?_)
    rintro _ ⟨eid, jid, t, jt, time, hu⟩
    exact .rollback eid jid t jt time hs hm hv hu

theorem performed_complete (hst : Archive.Still a a₁) (summary : String) :
    Performed s a (.complete summary) (s.answer a₁ (perform (.complete summary))) := by
  unfold perform complete
  simp only [bind_assoc]
  refine performed_bind hst reads_ensureOpen fun _ a₂ h₂ hst₂ => ?_
  split
  · exact .refused nofun hst₂.inVain
  · next hb =>
    have hs := ensureOpen_ok h₂
    rw [Bool.not_eq_true] at hb
    simp only [bind_assoc]
    rw [answer_bind, answer_modify]
    dsimp only
    rw [answer_bind, answer_get]
    dsimp only
    rw [answer_bind, answer_orActive]
    obtain ⟨r, a₃, hu, hst₃, hcases⟩ := Archive.usage_cases s.rules s.params.owner .core a₂
    rw [hu]
    have hst₃ := hst₂.trans hst₃
    rw [hst₂.store] at hcases
    cases r with
    | error e =>
      rcases hcases with ho | ⟨rfl, hnone⟩
      · simp only [(CurationError.ordinary_iff.mp ho).1, Bool.false_eq_true, if_false]
        exact performed_again hs ho hst₃.inVain
      · exact .overflowed hs hb hnone hst₃
    | ok post =>
      dsimp only
      split
      · next hv =>
        simp only [bind_assoc]
        rw [answer_bind, answer_liftState, Archive.run_count]
        exact performed_rollback (hst₃.counted .tripped) hs hb hcases hv
      · next hv =>
        exact performed_commit hst₃ hs hb hcases (Bool.eq_false_iff.mpr hv)

/-- **Every action has one of the ends.** -/
theorem performed (s : Session) (a : Archive) (act : Action) :
    Performed s a act (s.answer a (perform act)) := by
  cases act with
  | search query => exact performed_search (.refl a) query
  | update mid content => exact performed_update (.refl a) mid content
  | delete mid => exact performed_delete (.refl a) mid
  | consolidate ids content => exact performed_consolidate (.refl a) ids content
  | protect mid => exact performed_protect (.refl a) mid
  | unprotect mid => exact performed_unprotect (.refl a) mid
  | complete summary => exact performed_complete (.refl a) summary

theorem Performed.backend {r : Except CurationError ActionOutcome} {s' : Session} {a' : Archive}
    (h : Performed s a act (r, s', a')) : a'.backend = a.backend := by
  cases h with
  | refused _ h | found _ h | rollbackFailed _ _ _ _ h | overflowed _ _ _ h => exact h.backend
  | forward _ _ hw | committed _ _ _ _ hw | rolledBack _ _ _ _ _ hw => exact hw.backend

end

end Session
end Curation
