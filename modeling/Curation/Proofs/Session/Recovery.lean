/-
# Recovery of abandoned sessions

Recovery knows a session from its trail alone.  `reconciled` says how an attempt ends: it is
refused, it finds the session closed, it takes the session back, its batch cannot be written and
nothing is, or it is broken off since the mass does not fit a word.  `reconcile_of_ready` is the
converse for an archive in which nothing is in the way: there the attempt does succeed.

Put together with what every undisturbed run leaves behind (`Revocable`), an abandoned session is
recovered whatever it did and however often the attempt has failed before.
-/
import Curation.Proofs.Session.Rollback

namespace Curation

namespace Recovery

open Archive

/-! ## 1. The ends of an attempt -/

/-- What the batch of a recovery holds after the undoing. -/
def closingOps (c : Config) (owner : OwnerId) (session : SessionId) (entries : List AuditEntry)
    (post : UInt64) (threshold : Threshold) (eid : EntryId) (jid : MemoryId)
    (t jt time : Instant) : List WriteOp :=
  let stats := AuditEntry.stats entries
  [.appendAudit (.make eid t session owner (placeAfter entries) .sessionRollback []
      (RollbackPayload.mk none post.toNat threshold.value stats reason).encode),
    .insertMemory (.fresh jid owner (journalText (SessionLimits.ofConfig c.session).journal
      (journal session stats)) .journal jt),
    .stampRefined owner time]

/-- **The batches that a recovery hands over**, as the store stands. -/
inductive Hands (c : Config) (owner : OwnerId) (session : SessionId) (σ : Store) :
    List WriteOp → Prop
  | recover {undo : List WriteOp} {post : UInt64} {threshold : Threshold} (eid : EntryId)
      (jid : MemoryId) (t jt time : Instant)
      (hf : ∀ e ∈ σ.forSession session, e.action.isTerminal = false)
      (hm : c.rules.meter.mass (σ.list owner (.live .core)) = some post)
      (hu : AuditEntry.unwind (σ.forSession session) = .ok undo) :
      Hands c owner session σ (undo ++ closingOps c owner session (σ.forSession session) post
        threshold eid jid t jt time)

/-- **The ends of an attempt** at recovering a session. -/
inductive Reconciled (c : Config) (owner : OwnerId) (session : SessionId) (a : Archive) :
    Except CurationError Recovered × Archive → Prop
  | refused {e : CurationError} {a' : Archive} (he : e.Ordinary) (h : Still a a') :
      Reconciled c owner session a (.error e, a')
  | alreadyClosed {e : AuditEntry} {a' : Archive}
      (ho : ∀ e ∈ a.store.forSession session, e.owner = owner)
      (hf : (a.store.forSession session).find? (·.action.isTerminal) = some e) (h : Still a a') :
      Reconciled c owner session a (.ok (.alreadyClosed e.action), a')
  | rolledBack {undo : List WriteOp} {post : UInt64} {threshold : Threshold} {eid : EntryId}
      {jid : MemoryId} {t jt time : Instant} {a' : Archive}
      (hn : a.store.forSession session ≠ [])
      (ho : ∀ e ∈ a.store.forSession session, e.owner = owner)
      (hf : ∀ e ∈ a.store.forSession session, e.action.isTerminal = false)
      (hm : c.rules.meter.mass (a.store.list owner (.live .core)) = some post)
      (hu : AuditEntry.unwind (a.store.forSession session) = .ok undo)
      (hw : Wrote .rolledBack (undo ++ closingOps c owner session (a.store.forSession session) post
        threshold eid jid t jt time) a a') :
      Reconciled c owner session a (.ok (.rolledBack (a.store.forSession session).length
        (AuditEntry.stats (a.store.forSession session))), a')
  | failed {detail : String} {a' : Archive} (hm : a.store.MassFits c.rules owner)
      (h : InVain .rollbackFailed (Hands c owner session a.store) a a') :
      Reconciled c owner session a (.error (.rollbackFailed session detail), a')
  /-- The attempt was broken off before it wrote anything. -/
  | overflowed {a' : Archive} (hf : ∀ e ∈ a.store.forSession session, e.action.isTerminal = false)
      (hm : ¬ a.store.MassFits c.rules owner) (h : Still a a') :
      Reconciled c owner session a (.error .sumOverflow, a')

variable {c : Config} {owner : OwnerId} {session : SessionId} {a a₁ a' : Archive}

/-- The batches that close a session which is taken back. -/
inductive Closes (c : Config) (owner : OwnerId) (session : SessionId) (entries : List AuditEntry)
    (post : UInt64) (threshold : Threshold) : List WriteOp → Prop
  | mk {undo : List WriteOp} (eid : EntryId) (jid : MemoryId) (t jt time : Instant)
      (hu : AuditEntry.unwind entries = .ok undo) :
      Closes c owner session entries post threshold
        (undo ++ closingOps c owner session entries post threshold eid jid t jt time)

/-- What `write` does: the whole batch, or nothing. -/
theorem write_cases (c : Config) (owner : OwnerId) (session : SessionId)
    (entries : List AuditEntry) (post : UInt64) (threshold : Threshold) (a : Archive) :
    ∃ r a', a.answer (write c owner session entries post threshold) = (r, a') ∧
      match r with
      | .ok _ => ∃ ops, Closes c owner session entries post threshold ops ∧ Wrote id ops a a'
      | .error _ => InVain id (Closes c owner session entries post threshold) a a' := by
  unfold write newJournal
  rw [answer_bind, answer_lift, run_newMemory]
  dsimp only
  generalize ha₁ : ({ a with drawn := _, clock := _ } : Archive) = a₁
  have hst : Still a a₁ := by
    subst ha₁
    exact ⟨rfl, rfl, rfl, rfl⟩
  let record : RollbackRecord := ⟨session, owner, placeAfter entries,
    ⟨none, post.toNat, threshold.value, AuditEntry.stats entries, reason⟩,
    .fresh ⟨Ident.generated a.drawn⟩ owner (journalText (SessionLimits.ofConfig c.session).journal
      (journal session (AuditEntry.stats entries))) .journal a.clock.next⟩
  have hcloses : ∀ ops, record.Batch entries ops →
      Closes c owner session entries post threshold ops := by
    rintro _ ⟨eid, t, time, hu⟩
    exact .mk eid _ t _ time hu
  obtain ⟨r, a₂, hw, hr⟩ := rollback_written entries record a₁
  rw [hw]
  cases r with
  | ok v =>
    obtain ⟨ops, hops, hw⟩ := hr
    exact ⟨_, _, rfl, ops, hcloses ops hops, hst.wrote hw⟩
  | error e => exact ⟨_, _, rfl, hst.trans_inVain (hr.mono hcloses)⟩

/-- What is read before an attempt writes changes nothing, and if it is refused so is the
attempt. -/
theorem reconciled_bind {α : Type} {x : CurationM α} {f : α → CurationM Recovered}
    (hst : Still a a₁) (hx : Archive.Reads x)
    (hf : ∀ v a₂, a₁.answer x = (.ok v, a₂) → Still a a₂ →
      Reconciled c owner session a (a₂.answer (f v))) :
    Reconciled c owner session a (a₁.answer (x >>= f)) := by
  rw [answer_bind]
  rcases h : a₁.answer x with ⟨r, a₂⟩
  have hs := hst.trans (hx.still h)
  cases r with
  | ok v => exact hf v a₂ h hs
  | error e => exact .refused (hx.ordinary h) hs

/-- **Every attempt has one of the ends.** -/
theorem reconciled (c : Config) (owner : OwnerId) (session : SessionId) (a : Archive) :
    Reconciled c owner session a (a.answer (reconcile c owner session)) := by
  unfold reconcile
  refine reconciled_bind (.refl a) (reads_forSession session) fun es a₁ h₁ hst₁ => ?_
  obtain rfl := forSession_ok h₁
  dsimp only
  split
  · exact .refused nofun hst₁
  · next hn =>
    have hn' : a.store.forSession session ≠ [] ∧
        ∀ e ∈ a.store.forSession session, e.owner = owner := by
      simpa using hn
    split
    · next e hf => exact .alreadyClosed hn'.2 hf hst₁
    · next hf =>
      have hf' : ∀ e ∈ a.store.forSession session, e.action.isTerminal = false := by
        simpa using hf
      rw [answer_bind]
      obtain ⟨r, a₂, h₂, hst₂, hcases⟩ := usage_cases c.rules owner .core a₁
      rw [h₂]
      have hst₂ := hst₁.trans hst₂
      rw [hst₁.store] at hcases
      cases r with
      | error e =>
        rcases hcases with he | ⟨rfl, hnone⟩
        · exact .refused he hst₂
        · refine .overflowed hf' (fun hm => ?_) hst₂
          obtain ⟨mass, hm⟩ := Store.massFits_iff.mp hm
          cases hnone.symm.trans hm
      | ok post =>
        refine reconciled_bind hst₂ (reads_threshold _ _) fun th a₃ h₃ hst₃ => ?_
        obtain ⟨r, a₄, h₄, hr⟩ :=
          write_cases c owner session (a.store.forSession session) post th a₃
        rw [answer_bind, answer_liftRun, h₄]
        cases r with
        | ok v =>
          obtain ⟨_, ⟨eid, jid, t, jt, time, hu⟩, hw⟩ := hr
          exact .rolledBack hn'.1 hn'.2 hf' hcases hu ((hst₃.wrote hw).count .rolledBack)
        | error e =>
          refine .failed (Store.massFits_iff.mpr ⟨post, hcases⟩)
            (((hst₃.trans_inVain hr).count .rollbackFailed).mono ?_)
          rintro _ ⟨eid, jid, t, jt, time, hu⟩
          exact .recover eid jid t jt time hf' hcases hu

/-! ## 2. Attempts that succeed -/

/-- **Nothing is in the way** of a recovery: no fault is armed, the ids that are drawn next are
new, and the owner can have settings. -/
structure Ready (owner : OwnerId) (a : Archive) : Prop where
  faults : a.faults = .none
  journal : a.store.memory? ⟨Ident.generated a.drawn⟩ = none
  entry : ∀ e ∈ a.store.trail, e.id ≠ ⟨Ident.generated (a.drawn + 1)⟩
  named : a.backend = .database → owner.text ≠ ""

instance (owner : OwnerId) (a : Archive) : Decidable (Ready owner a) :=
  decidable_of_iff
    (a.faults = .none ∧ a.store.memory? ⟨Ident.generated a.drawn⟩ = none ∧
      (∀ e ∈ a.store.trail, e.id ≠ ⟨Ident.generated (a.drawn + 1)⟩) ∧
      (a.backend = .database → owner.text ≠ ""))
    ⟨fun ⟨hf, hj, he, hn⟩ => ⟨hf, hj, he, hn⟩, fun h => ⟨h.faults, h.journal, h.entry, h.named⟩⟩

section Ready

variable {entries : List AuditEntry} {undo : List WriteOp}

theorem write_of_ready (c : Config) (session : SessionId) (hr : Ready owner a)
    (hu : AuditEntry.unwind entries = .ok undo)
    (hk : ∀ op ∈ undo, ∃ id, op.target? = some id ∧ (a.store.memory? id).isSome)
    (hp : ∀ e ∈ a.store.trail, e.session = session → e.seq ≠ placeAfter entries)
    (post : UInt64) (threshold : Threshold) :
    ∃ a', a.answer (write c owner session entries post threshold) = (.ok (), a') ∧
      a.Grew 2 ⟨Ident.generated a.drawn⟩ ⟨Ident.generated (a.drawn + 1)⟩ a' := by
  unfold write newJournal
  rw [answer_bind, answer_lift, run_newMemory]
  dsimp only
  generalize ha₁ : ({ a with drawn := _, clock := _ } : Archive) = a₁
  obtain ⟨hst, hd, hf₁⟩ : Still a a₁ ∧ a₁.drawn = a.drawn + 1 ∧ a₁.faults = .none := by
    subst ha₁
    exact ⟨⟨rfl, rfl, rfl, rfl⟩, rfl, hr.faults⟩
  obtain ⟨a', h, hg⟩ := Session.rollback_of_known (a := a₁)
    (r := ⟨session, owner, placeAfter entries,
      ⟨none, post.toNat, threshold.value, AuditEntry.stats entries, reason⟩,
      .fresh ⟨Ident.generated a.drawn⟩ owner (journalText (SessionLimits.ofConfig c.session).journal
        (journal session (AuditEntry.stats entries))) .journal a.clock.next⟩)
    hf₁ hu (hst.store ▸ hk) (hst.store ▸ hp) (by rw [hst.store, hd]; exact hr.entry)
    (by rw [hst.store]; exact hr.journal) (hst.backend ▸ hr.named)
  rw [h]
  refine ⟨a', rfl, hg.backend.trans hst.backend, hg.faults, by rw [hg.drawn, hd], ?_, ?_⟩
  · rw [hg.ids, hst.store]
    rfl
  · rw [hg.entries, hst.store, hd]

/-- **An attempt succeeds** if nothing is in the way, the mass fits a word and the trail can be
unwound. -/
theorem reconcile_of_ready (hr : Ready owner a) (hm : a.store.MassFits c.rules owner)
    (hn : a.store.forSession session ≠ [])
    (ho : ∀ e ∈ a.store.forSession session, e.owner = owner)
    (hf : ∀ e ∈ a.store.forSession session, e.action.isTerminal = false)
    (hu : AuditEntry.unwind (a.store.forSession session) = .ok undo)
    (hk : ∀ op ∈ undo, ∃ id, op.target? = some id ∧ (a.store.memory? id).isSome)
    (hp : ∀ e ∈ a.store.trail, e.session = session →
      e.seq ≠ placeAfter (a.store.forSession session)) :
    ∃ a', a.answer (reconcile c owner session) =
      (.ok (.rolledBack (a.store.forSession session).length
        (AuditEntry.stats (a.store.forSession session))), a') ∧
      a.Grew 2 ⟨Ident.generated a.drawn⟩ ⟨Ident.generated (a.drawn + 1)⟩ a' := by
  have hc : ((a.store.forSession session).isEmpty ||
      (a.store.forSession session).any (·.owner != owner)) = false := by
    simpa [hn] using ho
  have hfind : (a.store.forSession session).find? (·.action.isTerminal) = none := by
    simpa using hf
  obtain ⟨mass, hm⟩ := Store.massFits_iff.mp hm
  obtain ⟨a', hw, hg⟩ := write_of_ready c session hr hu hk hp mass
    ((a.store.settingsOf owner).threshold.getD c.threshold)
  unfold reconcile
  rw [answer_bind, forSession_of_none hr.faults]
  simp only [hc, hfind, Bool.false_eq_true, if_false]
  rw [answer_bind, usage_of_none hr.faults, hm]
  dsimp only [Option.elim]
  rw [answer_bind, threshold_of_none hr.faults]
  dsimp only
  rw [answer_bind, answer_liftRun, hw]
  exact ⟨_, rfl, hg.backend, hg.faults, hg.drawn, hg.ids, hg.entries⟩

/-- **An attempt is broken off** if nothing is in the way but the mass does not fit a word. -/
theorem reconcile_of_not_fits (hfaults : a.faults = .none) (hm : ¬ a.store.MassFits c.rules owner)
    (hn : a.store.forSession session ≠ [])
    (ho : ∀ e ∈ a.store.forSession session, e.owner = owner)
    (hf : ∀ e ∈ a.store.forSession session, e.action.isTerminal = false) :
    a.answer (reconcile c owner session) = (.error .sumOverflow, a) := by
  have hc : ((a.store.forSession session).isEmpty ||
      (a.store.forSession session).any (·.owner != owner)) = false := by
    simpa [hn] using ho
  have hfind : (a.store.forSession session).find? (·.action.isTerminal) = none := by
    simpa using hf
  have hnone : c.rules.meter.mass (a.store.list owner (.live .core)) = none :=
    c.rules.meter.mass_eq_none_iff.mpr (not_lt.mp hm)
  unfold reconcile
  rw [answer_bind, forSession_of_none hfaults]
  simp only [hc, hfind, Bool.false_eq_true, if_false]
  rw [answer_bind, usage_of_none hfaults, hnone]
  rfl

end Ready

/-! ## 3. Attempts one after the other -/

/-- Attempts at recovering a session, each of which ended in an allowed way.  Nothing is written
in between. -/
inductive Attempts (owner : OwnerId) (session : SessionId)
    (allowed : Except CurationError Recovered → Prop) (a : Archive) : Archive → Prop
  | start : Attempts owner session allowed a a
  | attempt {a₁ a₂ : Archive} {r : Except CurationError Recovered} (c : Config)
      (h : Attempts owner session allowed a a₁)
      (hc : a₁.answer (reconcile c owner session) = (r, a₂)) (hr : allowed r) :
      Attempts owner session allowed a a₂
  | quiet {a₁ a₂ : Archive} (h : Attempts owner session allowed a a₁) (hq : Quiet a₁ a₂) :
      Attempts owner session allowed a a₂

/-- **An attempt that fails leaves nothing behind.** -/
theorem quiet_of_failed {e : CurationError}
    (h : a.answer (reconcile c owner session) = (.error e, a')) : Quiet a a' := by
  have hr := reconciled c owner session a
  rw [h] at hr
  cases hr with
  | refused _ h | overflowed _ _ h => exact h.quiet
  | failed _ h => exact h.quiet

theorem Attempts.quiet_of_failed (h : Attempts owner session (·.isOk = false) a a') :
    Quiet a a' := by
  induction h with
  | start => exact ⟨rfl, rfl⟩
  | @attempt a₁ a₂ r c h hc hr ih =>
    cases r with
    | ok v => cases hr
    | error e =>
      have hq := Recovery.quiet_of_failed hc
      exact ⟨hq.backend.trans ih.backend, hq.store.trans ih.store⟩
  | quiet h hq ih => exact ⟨hq.backend.trans ih.backend, hq.store.trans ih.store⟩

/-- **A closed session is left alone.** -/
theorem reconcile_of_closed {e : AuditEntry} {r : Except CurationError Recovered}
    (hf : (a.store.forSession session).find? (·.action.isTerminal) = some e)
    (h : a.answer (reconcile c owner session) = (r, a')) :
    Quiet a a' ∧ ∀ v, r = .ok v → v = .alreadyClosed e.action := by
  have hr := reconciled c owner session a
  rw [h] at hr
  cases hr with
  | refused _ h | overflowed _ _ h => exact ⟨h.quiet, nofun⟩
  | alreadyClosed ho hf' hst =>
    rw [hf] at hf'
    cases hf'
    exact ⟨hst.quiet, fun v hv => by cases hv; rfl⟩
  | rolledBack hn ho hf' hm hu hw =>
    have := hf' e (List.mem_of_find?_eq_some hf)
    rw [List.find?_some hf] at this
    cases this
  | failed _ h => exact ⟨h.quiet, nofun⟩

/-- **An open session that is recovered is taken back**: all entries under its id are the owner's,
the owner's mass was measured, the entries can be unwound, and the whole batch was written. -/
theorem rolledBack_of_ok {v : Recovered} (hc : a.answer (reconcile c owner session) = (.ok v, a'))
    (hopen : ∀ e ∈ a.store.entriesOf session, e.owner = owner → e.action.isTerminal = false) :
    ∃ undo post threshold eid jid t jt time,
      v = .rolledBack (a.store.forSession session).length
        (AuditEntry.stats (a.store.forSession session)) ∧
      (∀ e ∈ a.store.forSession session, e.owner = owner) ∧
      c.rules.meter.mass (a.store.list owner (.live .core)) = some post ∧
      AuditEntry.unwind (a.store.forSession session) = .ok undo ∧
      Wrote .rolledBack (undo ++ closingOps c owner session (a.store.forSession session) post
        threshold eid jid t jt time) a a' := by
  have hr := reconciled c owner session a
  rw [hc] at hr
  cases hr with
  | @alreadyClosed e _ ho hf hst =>
    -- an entry that closes the session is the owner's, so the session is not open
    have hm := List.mem_of_find?_eq_some hf
    have ht := List.find?_some hf
    rw [hopen e ((Store.forSession_perm _ _).mem_iff.mp hm) (ho e hm)] at ht
    cases ht
  | rolledBack hn ho hf hm hu hw => exact ⟨_, _, _, _, _, _, _, _, rfl, ho, hm, hu, hw⟩

/-- Its trail is closed by one more entry. -/
theorem closing_of_recovered {v : Recovered}
    (hc : a.answer (reconcile c owner session) = (.ok v, a'))
    (hopen : ∀ e ∈ a.store.entriesOf session, e.owner = owner → e.action.isTerminal = false) :
    ∃ e, a'.store.trail = a.store.trail ++ [e] ∧ e.session = session ∧ e.owner = owner ∧
      e.action.isTerminal = true := by
  obtain ⟨undo, _, _, _, _, _, _, _, -, -, -, hu, hw⟩ := rolledBack_of_ok hc hopen
  exact ⟨_, hw.trail (appended_of_unwind hu _), rfl, rfl, rfl⟩

/-- It is found closed if no fault is armed. -/
theorem reconcile_of_closed_of_none {e : AuditEntry} (hn : a.faults = .none)
    (ho : ∀ e ∈ a.store.forSession session, e.owner = owner)
    (hf : (a.store.forSession session).find? (·.action.isTerminal) = some e) :
    a.answer (reconcile c owner session) = (.ok (.alreadyClosed e.action), a) := by
  have hc : ((a.store.forSession session).isEmpty ||
      (a.store.forSession session).any (·.owner != owner)) = false := by
    have hne : a.store.forSession session ≠ [] := by
      intro hnil
      rw [hnil] at hf
      cases hf
    simpa [hne] using ho
  unfold reconcile
  rw [answer_bind, forSession_of_none hn]
  simp only [hc, hf, Bool.false_eq_true, if_false]
  rfl

theorem Attempts.quiet_of_closed {allowed : Except CurationError Recovered → Prop}
    {e : AuditEntry} (h : Attempts owner session allowed a a')
    (hf : (a.store.forSession session).find? (·.action.isTerminal) = some e) : Quiet a a' := by
  induction h with
  | start => exact ⟨rfl, rfl⟩
  | attempt c h hc hr ih =>
    have hq := (reconcile_of_closed (ih.store.symm ▸ hf) hc).1
    exact ⟨hq.backend.trans ih.backend, hq.store.trans ih.store⟩
  | quiet h hq ih => exact ⟨hq.backend.trans ih.backend, hq.store.trans ih.store⟩

/-! ## 4. Abandoned sessions -/

section Abandoned

variable {σ₀ : Store} {s s₀ : Session} {a₀ a₂ a₃ : Archive}

/-- **A session that can be taken back is recovered** by an attempt with nothing in the way. -/
theorem recovered_of_revocable (h : Revocable σ₀ s a.store)
    (hm : a.store.MassFits c.rules s.params.owner)
    (hn : a.store.forSession s.params.session ≠ [])
    (hf : ∀ e ∈ a.store.forSession s.params.session, e.action.isTerminal = false)
    (hr : Ready s.params.owner a) :
    ∃ a', a.answer (reconcile c s.params.owner s.params.session) =
      (.ok (.rolledBack (a.store.forSession s.params.session).length s.stats), a') := by
  have hes := h.forSession
  obtain ⟨undo, hu, hund⟩ := h.undone_of_open hf
  have hstats : AuditEntry.stats (a.store.forSession s.params.session) = s.stats := by
    rw [h.chronicle.stats, AuditEntry.stats_perm (Store.forSession_perm _ _)]
  rw [← hstats]
  have hnext : ∀ e ∈ a.store.trail, e.session = s.params.session →
      e.seq ≠ placeAfter (a.store.forSession s.params.session) := by
    intro e he hse
    rw [hes, h.chronicle.placeAfter_reverse]
    exact (h.chronicle.seq_lt (List.mem_filter.mpr ⟨he, by simpa using hse⟩)).ne
  obtain ⟨a', ha', -⟩ := reconcile_of_ready hr hm hn h.owner_forSession hf hu hund.known hnext
  exact ⟨a', ha'⟩

/-- What an attempt leaves that took a session back. -/
theorem restored_of_recovered {n : Nat} {stats : SessionStats} (h : Revocable σ₀ s a.store)
    (hc : a.answer (reconcile c s.params.owner s.params.session) =
      (.ok (.rolledBack n stats), a')) :
    (∀ mid m₀, σ₀.memory? mid = some m₀ → ∃ m, a'.store.memory? mid = some m ∧ m.Restored m₀) ∧
    (∀ mid m, σ₀.memory? mid = none → a.store.memory? mid = some m →
      ∃ m', a'.store.memory? mid = some m' ∧ m'.tombstoned = true) ∧
    (∀ e ∈ a'.store.forSession s.params.session, e.owner = s.params.owner) ∧
    ∃ e, (a'.store.forSession s.params.session).find? (·.action.isTerminal) = some e ∧
      e.action = .sessionRollback := by
  have hr := reconciled c s.params.owner s.params.session a
  rw [hc] at hr
  cases hr with
  | @rolledBack undo post th eid jid t jt time _ hn ho hf hm hu hw =>
    have hes := h.forSession
    obtain ⟨undo', hu', hund⟩ := h.undone_of_open hf
    rw [hu] at hu'
    cases hu'
    have htail : ∀ op ∈ closingOps c s.params.owner s.params.session
        (a.store.forSession s.params.session) post th eid jid t jt time, op.target? = none := by
      simp [closingOps, WriteOp.target?]
    have hnew := Session.entriesOf_of_wrote (s := s) hw (appended_of_unwind hu _) rfl
    have htrail := Store.forSession_of_append h.chronicle.rising (fun x hx => by
      show x.seq < placeAfter _
      rw [hes, h.chronicle.placeAfter_reverse]
      exact h.chronicle.seq_lt hx) hnew
    obtain ⟨t', ht⟩ := hw.written
    refine ⟨fun mid m₀ hm₀ => hund.restores ht htail hm₀,
      fun mid m hn hm => hund.deletes ht htail hn hm, fun e he => ?_, ?_⟩
    · rw [htrail] at he
      rcases List.mem_cons.mp he with rfl | he
      · rfl
      · exact ho e he
    · rw [htrail]
      exact ⟨_, rfl, rfl⟩

/-- **Recovery takes back a session that was abandoned at any point**, as long as what its owner
holds can be measured.  However often attempts have failed before, one with nothing in its way takes
back every forward entry and tells the tally of the session; the memories that were there when it
began are as they were and those that it made are deleted.  From then on every attempt finds it
closed, and none writes anything.

An owner whose mass does not fit a word has the attempt broken off, each time, and its session stays
as it was left. -/
theorem reconcile_recovers (c' : Config) (hb : Session.Begins c owner a₀ s₀ a₁)
    (hr : Session.Run Quiet s₀ a₁ s a) (hn : a.store.forSession s.params.session ≠ [])
    (hf : ∀ e ∈ a.store.forSession s.params.session, e.action.isTerminal = false)
    (hfail : Attempts owner s.params.session (·.isOk = false) a a₂) (hready : Ready owner a₂) :
    a₂.store = a.store ∧
    (¬ a.store.MassFits c'.rules owner →
      a₂.answer (reconcile c' owner s.params.session) = (.error .sumOverflow, a₂)) ∧
    (a.store.MassFits c'.rules owner →
      ∃ a₃, a₂.answer (reconcile c' owner s.params.session) =
          (.ok (.rolledBack ((a.store.forSession s.params.session).countP (·.action.isCompensable))
            s.stats), a₃) ∧
        (∀ mid m₀, a₀.store.memory? mid = some m₀ →
          ∃ m, a₃.store.memory? mid = some m ∧ m.Restored m₀) ∧
        (∀ mid m, a₀.store.memory? mid = none → a.store.memory? mid = some m →
          ∃ m', a₃.store.memory? mid = some m' ∧ m'.tombstoned = true) ∧
        ∀ a₄, Attempts owner s.params.session (fun _ => True) a₃ a₄ → ∀ c'' r a₅,
          a₄.answer (reconcile c'' owner s.params.session) = (r, a₅) →
          a₅.store = a₃.store ∧ (∀ v, r = .ok v → v = .alreadyClosed .sessionRollback) ∧
          (a₄.faults = .none → r = .ok (.alreadyClosed .sessionRollback))) := by
  obtain ⟨hps, hre⟩ := Session.revocable_run hb hr
  have ho : s.params.owner = owner := hps ▸ hb.begun.1.owner
  have hst := hfail.quiet_of_failed.store
  refine ⟨hst, ?_⟩
  rw [← hst] at hre hn hf ⊢
  subst ho
  refine ⟨fun hm => reconcile_of_not_fits hready.faults hm hn hre.owner_forSession hf, fun hm => ?_⟩
  obtain ⟨a₃, h₃⟩ := recovered_of_revocable hre hm hn hf hready
  obtain ⟨hold, hmade, hown, e, hfind, he⟩ := restored_of_recovered hre h₃
  have hlen : (a₂.store.forSession s.params.session).countP (·.action.isCompensable) =
      (a₂.store.forSession s.params.session).length :=
    List.countP_eq_length.mpr fun e he => by simp [AuditAction.isCompensable, hf e he]
  refine ⟨a₃, hlen ▸ h₃, hold, hmade, fun a₄ h₄ c'' r a₅ h₅ => ?_⟩
  have hq := h₄.quiet_of_closed hfind
  rw [← hq.store] at hfind hown
  obtain ⟨hq₅, hv⟩ := reconcile_of_closed hfind h₅
  rw [he] at hv
  refine ⟨hq₅.store.trans hq.store, hv, fun hnone => ?_⟩
  rw [reconcile_of_closed_of_none hnone hown hfind, he] at h₅
  exact (Prod.mk.inj h₅).1.symm

/-- Five times ten to the eighteen tokens a character: two memories of one character can be
measured, but no longer when a session has given one of them three.  It is recovered under the
standard ratio, and never under its own. -/
theorem reconcile_recovers_lengthened :
    let c : Config := { Config.standard with
      tokens := { Config.standard.tokens with charsPerToken := .ofRatio false 2 (10 ^ 19) } }
    let a₀ : Archive := .around .inMemory
      ⟨[.fresh ⟨"m"⟩ ⟨"o"⟩ "x" .core ⟨0, 0⟩, .fresh ⟨"k"⟩ ⟨"o"⟩ "y" .core ⟨1, 0⟩], [], []⟩
      (.steady ⟨2, 0⟩) 0
    c.validate = .ok () ∧
    ∃ s₀ a₁ s a, Session.Begins c ⟨"o"⟩ a₀ s₀ a₁ ∧ Session.Run Quiet s₀ a₁ s a ∧
      a.answer (reconcile c ⟨"o"⟩ s.params.session) = (.error .sumOverflow, a) ∧
      ∃ a₃, a.answer (reconcile .standard ⟨"o"⟩ s.params.session) =
          (.ok (.rolledBack 1 s.stats), a₃) ∧
        a₃.store.memory? ⟨"m"⟩ = some (.fresh ⟨"m"⟩ ⟨"o"⟩ "x" .core ⟨0, 0⟩) := by
  intro c a₀
  have h : a₀.yields (Session.beginAs c ⟨"o"⟩ ⟨"s"⟩) (fun s a =>
      let r := (Session.Call.perform (.update ⟨"m"⟩ "xxx")).run s a
      let es := r.2.store.forSession r.1.params.session
      decide (es ≠ [] ∧ (∀ e ∈ es, e.action.isTerminal = false) ∧
        es.countP (·.action.isCompensable) = 1 ∧ Ready ⟨"o"⟩ r.2 ∧
        ¬ r.2.store.MassFits c.rules ⟨"o"⟩ ∧ r.2.store.MassFits Config.standard.rules ⟨"o"⟩)) =
      true := by decide +kernel
  obtain ⟨s₀, a₁, h, hr⟩ := exists_of_yields h
  obtain ⟨hn, hf, hone, hready, hover, hfits⟩ := of_decide_eq_true hr
  have hb : Session.Begins c ⟨"o"⟩ a₀ s₀ a₁ := .named ⟨"s"⟩ h
  have hr : Session.Run Quiet s₀ a₁ _ _ := .call (.perform (.update ⟨"m"⟩ "xxx")) .start
  obtain ⟨-, hbroken, -⟩ := reconcile_recovers c hb hr hn hf .start hready
  obtain ⟨-, -, hrecovers⟩ := reconcile_recovers .standard hb hr hn hf .start hready
  obtain ⟨a₃, h₃, hold, -⟩ := hrecovers hfits
  rw [hone] at h₃
  obtain ⟨m, hm, hre⟩ := hold ⟨"m"⟩ _ rfl
  rw [hre.tidy fun _ => rfl] at hm
  exact ⟨by decide +kernel, s₀, a₁, _, _, hb, hr, hbroken hover, a₃, h₃, hm⟩

end Abandoned

end Recovery
end Curation
