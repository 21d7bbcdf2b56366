/-
# Where the ops of a step come from

A step of a service writes ops of seven kinds and no others: the change of a forward action and its
entry, the undoing of an entry that stands in the trail, the closing of a trail with its journal and
its stamp, and a memory that was asked for.  `Arises` lists them, each with all that was checked
before it was written, and `Step.arises` says that there are no others.  Whatever is to hold of
every store that a service can come to is proved from the list.
-/
import Curation.Proofs.Service.Requests
import Curation.Proofs.Store.Evolution

namespace Curation

/-! ## 1. Ops of a kind -/

/-- **Only ops of a kind were applied**, and settings set. -/
structure Archive.Writes (P : WriteOp → Prop) (a a' : Archive) : Prop where
  backend : a'.backend = a.backend
  evolves : ∃ ops, Store.Evolves a.backend ops a.store a'.store ∧ ∀ op ∈ ops, P op

namespace Archive

variable {P Q : WriteOp → Prop} {a a₁ a' : Archive}

theorem composes_writes (P : WriteOp → Prop) : Composes (Writes P) where
  quiet h := ⟨h.backend, [], h.store ▸ .refl _, nofun⟩
  trans := by
    rintro a a₁ a' ⟨hb, ops, hev, hops⟩ ⟨hb', ops', hev', hops'⟩
    rw [hb] at hev'
    exact ⟨hb'.trans hb, ops ++ ops', hev.trans hev', List.forall_mem_append.mpr ⟨hops, hops'⟩⟩

theorem Writes.mono (h : Writes P a a') (hPQ : ∀ op, P op → Q op) : Writes Q a a' := by
  obtain ⟨ops, hev, hops⟩ := h.evolves
  exact ⟨h.backend, ops, hev, fun op hop => hPQ op (hops op hop)⟩

theorem Wrote.writes {f : Counters → Counters} {ops : List WriteOp} (h : Wrote f ops a a')
    (hops : ∀ op ∈ ops, P op) : Writes P a a' := by
  obtain ⟨t, ht⟩ := h.written
  exact ⟨h.backend, ops, ht.evolves, hops⟩

/-- One op is applied. -/
theorem writes_apply {op : WriteOp} (t : Instant) {σ : Store} (hP : P op)
    (h : a.store.apply a.backend t op = .ok σ) : Writes P a { a with store := σ } :=
  ⟨rfl, [op], .op t h (.refl σ), List.forall_mem_singleton.mpr hP⟩

/-- Settings are set. -/
theorem writes_configure {owner : OwnerId} {f : OwnerSettings → OwnerSettings} {σ : Store}
    (h : a.store.configure a.backend owner f = .ok σ) : Writes P a { a with store := σ } :=
  ⟨rfl, [], .settings h (.refl σ), nofun⟩

end Archive

/-! ## 2. The kinds -/

/-- **Where an op of a step comes from**, under some rules and with some limit for journals, in the
store that the step met. -/
inductive WriteOp.Arises (rules : MemoryRules) (journal : Nat) (σ : Store) : WriteOp → Prop
  | forward {owner : OwnerId} {act : Action} {o : ActionOutcome} {c : Change} {op : WriteOp}
      (hf : Forward rules owner σ act o c) (hop : op ∈ c.ops) : Arises rules journal σ op
  | entry {owner : OwnerId} {act : Action} {o : ActionOutcome} {c : Change} {e : AuditEntry}
      (hf : Forward rules owner σ act o c) (ha : e.action = c.action)
      (hp : e.payload = c.payload) : Arises rules journal σ (.appendAudit e)
  | undo {e : AuditEntry} {inv : List WriteOp} {op : WriteOp} (he : e ∈ σ.trail)
      (hi : e.inverse = .ok inv) (hop : op ∈ inv) : Arises rules journal σ op
  | closing {e : AuditEntry} (he : e.action.isTerminal = true) :
      Arises rules journal σ (.appendAudit e)
  | journal {text : String} (id : MemoryId) (owner : OwnerId) (t : Instant)
      (ht : blankText text = false) :
      Arises rules journal σ
        (.insertMemory (.fresh id owner (journalText journal text) .journal t))
  | stamp (owner : OwnerId) (time : Instant) : Arises rules journal σ (.stampRefined owner time)
  | create {content : String} (id : MemoryId) (owner : OwnerId) (kind : MemoryKind) (t : Instant)
      (hv : rules.validate content = .ok ()) :
      Arises rules journal σ (.insertMemory (.fresh id owner content kind t))

namespace WriteOp

variable {rules : MemoryRules} {journal : Nat} {σ : Store} {op : WriteOp}

/-- **What a step inserts** is live, and carries no time of a tombstone. -/
theorem Arises.fresh {m : Memory} (h : Arises rules journal σ (.insertMemory m)) : m.Stamped := by
  generalize hop : WriteOp.insertMemory m = op at h
  cases h with
  | forward hf hmem =>
    subst hop
    cases hf with
    | update _ _ _ | delete _ _ | protect _ _ | unprotect _ _ =>
      cases List.mem_singleton.mp hmem
    | consolidate _ _ _ _ =>
      rcases List.mem_cons.mp hmem with heq | hmem
      · rw [WriteOp.insertMemory.inj heq]
        exact Memory.stamped_fresh ..
      · obtain ⟨_, _, heq⟩ := List.mem_map.mp hmem
        cases heq
  | undo he hi hmem =>
    subst hop
    exact absurd (AuditEntry.target_of_inverse hi _ hmem) nofun
  | entry _ _ _ | closing _ | stamp _ _ => cases hop
  | journal _ _ _ _ | create _ _ _ _ _ =>
    rw [WriteOp.insertMemory.inj hop]
    exact Memory.stamped_fresh ..

end WriteOp

/-! ## 3. Calls on a session -/

/-- A text that begins with a word is not blank. -/
theorem blankText_append {front : String} (h : blankText front = false) (back : String) :
    blankText (front ++ back) = false := by
  unfold blankText at h ⊢
  rw [String.toList_append, List.all_append, h, Bool.false_and]

namespace Session

open Archive

variable {s s' : Session} {a a' : Archive}

/-- **The batch that closes a trail.** -/
theorem arises_closing {rules : MemoryRules} {limit : Nat} {σ : Store} {undo : List WriteOp}
    {es : List AuditEntry} (hes : ∀ e ∈ es, e ∈ σ.trail) (hu : AuditEntry.unwind es = .ok undo)
    {e : AuditEntry} {text : String} {id : MemoryId} {owner : OwnerId} {t time : Instant}
    (he : e.action.isTerminal = true) (ht : blankText text = false) :
    ∀ op ∈ undo ++ [.appendAudit e,
        .insertMemory (.fresh id owner (journalText limit text) .journal t),
        .stampRefined owner time],
      op.Arises rules limit σ := by
  refine List.forall_mem_append.mpr ⟨fun op hop => ?_, ?_⟩
  · obtain ⟨x, hx, inv, hinv, hop⟩ := AuditEntry.inverse_of_mem hu hop
    exact .undo (hes x hx) hinv hop
  · exact List.forall_mem_cons.mpr ⟨.closing he, List.forall_mem_cons.mpr
      ⟨.journal id owner t ht, List.forall_mem_singleton.mpr (.stamp owner time)⟩⟩

theorem blankText_commitJournal (s : Session) (summary : String) :
    blankText (s.commitJournal summary) = false := by
  unfold commitJournal
  iterate 6 refine blankText_append ?_ _
  decide

theorem blankText_rollbackJournal (s : Session) (summary reason : String) :
    blankText (s.rollbackJournal summary reason) = false := by
  unfold rollbackJournal
  iterate 5 refine blankText_append ?_ _
  decide

/-- **Every action.** -/
theorem arises_performed {act : Action} {r : Except CurationError ActionOutcome}
    (hp : Performed s a act (r, s', a')) :
    Writes (WriteOp.Arises s.rules s.limits.journal a.store) a a' := by
  cases hp with
  | refused _ h | found _ h | rollbackFailed _ _ _ _ h | overflowed _ _ _ h =>
    exact (composes_writes _).quiet h.quiet
  | forward _ hf hw =>
    exact hw.writes (forall_mem_concat (fun op hop => .forward hf hop) (.entry hf rfl rfl))
  | committed _ _ _ _ hw =>
    have hnone : ∀ e ∈ ([] : List AuditEntry), e ∈ a.store.trail := nofun
    exact hw.writes (arises_closing hnone rfl rfl (s.blankText_commitJournal _))
  | rolledBack _ _ _ _ hu hw =>
    refine hw.writes (arises_closing (fun e he => ?_) hu rfl (s.blankText_rollbackJournal _ _))
    exact (Store.mem_forSession.mp (List.mem_filter.mp he).1).1

/-- **Every call.** -/
theorem arises_call (call : Call) :
    Writes (WriteOp.Arises s.rules s.limits.journal a.store) a (call.run s a).2 := by
  have hc := composes_writes (WriteOp.Arises s.rules s.limits.journal a.store)
  obtain ⟨a₁, a₂, hq₁, hq₂, ⟨-, rfl⟩ | ⟨act, r, hp, -⟩⟩ := call_cases call s a
  · exact hc.trans (hc.quiet hq₁.toQuiet) (hc.quiet hq₂.toQuiet)
  · have hw := arises_performed hp
    rw [hq₁.store] at hw
    exact hc.trans (hc.quiet hq₁.toQuiet) (hc.trans hw (hc.quiet hq₂.toQuiet))

end Session

/-! ## 4. Every step -/

section Step

open Archive

variable {c : Config} {owner : OwnerId} {a : Archive}

theorem Recovery.blankText_journal (session : SessionId) (stats : SessionStats) :
    blankText (journal session stats) = false := by
  unfold journal
  iterate 6 refine blankText_append ?_ _
  decide

theorem Recovery.arises_reconcile (c : Config) (session : SessionId) :
    Writes (WriteOp.Arises c.rules (SessionLimits.ofConfig c.session).journal a.store) a
      (a.answer (reconcile c owner session)).2 := by
  have hr := reconciled c owner session a
  generalize a.answer (reconcile c owner session) = r at hr
  cases hr with
  | refused _ h | alreadyClosed _ _ h | failed _ h | overflowed _ _ h =>
    exact (composes_writes _).quiet h.quiet
  | rolledBack _ _ _ _ hu hw =>
    refine hw.writes (Session.arises_closing (fun e he => ?_) hu rfl
      (Recovery.blankText_journal _ _))
    exact (Store.mem_forSession.mp he).1

/-- **Every request.** -/
theorem Request.arises_serve (c : Config) (request : Request) :
    Writes (WriteOp.Arises c.rules (SessionLimits.ofConfig c.session).journal a.store) a
      (request.serve c owner a) := by
  have hc := composes_writes (WriteOp.Arises c.rules (SessionLimits.ofConfig c.session).journal
    a.store)
  cases request with
  | reconcile session => exact Recovery.arises_reconcile c session
  | ingest extract turns =>
    exact hc.ingest (fun content kind hv id t a σ h => writes_apply t (.create id _ kind t hv) h)
      extract turns a
  | create content kind =>
    exact hc.create (fun hv id t a σ h => writes_apply t (.create id _ kind t hv) h) a
  | chooseThreshold value => exact hc.chooseThreshold (fun _ a σ h => writes_configure h) value a

/-- **Every step**, under the rules of the session that it calls on or else of its configuration. -/
theorem Service.Step.arises {w w' : Service} (h : Service.Step c owner w w') :
    ∃ rules journal,
      (rules = c.rules ∧ journal = (SessionLimits.ofConfig c.session).journal ∨
        ∃ s ∈ w.sessions, rules = s.rules ∧ journal = s.limits.journal) ∧
      Writes (WriteOp.Arises rules journal w.archive.store) w.archive w'.archive := by
  have hc := composes_writes (WriteOp.Arises c.rules (SessionLimits.ofConfig c.session).journal
    w.archive.store)
  cases h with
  | begin sid h =>
    exact ⟨_, _, .inl ⟨rfl, rfl⟩, hc.quiet (Session.still_of_beginFor h).quiet⟩
  | @call _ _ _ s call ho =>
    exact ⟨s.rules, s.limits.journal, .inr ⟨s, by simp, rfl, rfl⟩, Session.arises_call call⟩
  | drop ho => exact ⟨_, _, .inl ⟨rfl, rfl⟩, hc.quiet ⟨rfl, rfl⟩⟩
  | serve request => exact ⟨_, _, .inl ⟨rfl, rfl⟩, request.arises_serve c⟩
  | idle h => exact ⟨_, _, .inl ⟨rfl, rfl⟩, hc.quiet h.quiet⟩

end Step

end Curation
