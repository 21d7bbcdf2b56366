/-
# A bad trail is refused whole

A trail is unwound exactly if it is sound: its places descend, and every entry of it can be undone.
Whatever is wrong with it, and wherever, nothing is made of the good entries: there is no batch.  A
session that would be taken back is then over without having been taken back, a recovery says so
too, and the store is as it was (`bad_trail_refused`).

The calls that come before the batch are taken as they were answered.  If one of them is refused,
no batch is asked for.
-/
import Curation.Proofs.Audit.Sound
import Curation.Proofs.Number.Order
import Curation.Proofs.Session.Recoverable

namespace Curation

/-! ## 1. Sound trails -/

/-- **A trail that can be unwound**, the last entry first. -/
structure SoundTrail (entries : List AuditEntry) : Prop where
  descending : entries.Pairwise fun x y => y.seq < x.seq
  sound : ∀ e ∈ entries, e.Sound

theorem unwind_ok_iff {entries : List AuditEntry} :
    (∃ undo, AuditEntry.unwind entries = .ok undo) ↔ SoundTrail entries := by
  constructor
  · rintro ⟨undo, h⟩
    refine ⟨AuditEntry.descending_of_unwind h, fun e he => ?_⟩
    obtain ⟨invs, hinvs, -⟩ := AuditEntry.inverses_of_unwind h
    obtain ⟨inv, -, hinv⟩ := AuditEntry.exists_of_forall₂_left hinvs he
    exact AuditEntry.sound_of_inverse hinv
  · intro h
    exact AuditEntry.unwind_of_descending h.descending fun e he => (h.sound e he).inverse

/-! ## 2. The batch -/

section Batch

variable {entries : List AuditEntry}

theorem rollbackBatch_of_unwind {undo : List WriteOp} (h : AuditEntry.unwind entries = .ok undo)
    (r : RollbackRecord) (a : Archive) : ∃ eid t time a',
      a.answer (rollbackBatch entries r) = (.ok (undo ++ r.closing eid t time), a') := by
  unfold rollbackBatch
  rw [h]
  simp only [Archive.answer_bind, Archive.answer_liftExcept, Archive.answer_lift,
    Archive.run_newEntry, Archive.run_now, Archive.answer_pure]
  exact ⟨_, _, _, _, rfl⟩

theorem rollbackBatch_of_error {e : CurationError} (h : AuditEntry.unwind entries = .error e)
    (r : RollbackRecord) (a : Archive) :
    a.answer (rollbackBatch entries r) = (.error e, a) := by
  unfold rollbackBatch
  rw [h, Archive.answer_bind, Archive.answer_liftExcept]

/-- **What a batch is made of**: the inverses of the entries in their order, the closing entry, the
journal and the stamp. -/
theorem rollbackBatch_ok {r : RollbackRecord} {a a' : Archive} {ops : List WriteOp}
    (h : a.answer (rollbackBatch entries r) = (.ok ops, a')) :
    SoundTrail entries ∧
    ∃ invs eid t time, List.Forall₂ (fun e inv => e.inverse = .ok inv) entries invs ∧
      ops = invs.flatten ++ r.closing eid t time := by
  rcases hu : AuditEntry.unwind entries with e | undo
  · rw [rollbackBatch_of_error hu] at h
    cases h
  · obtain ⟨eid, t, time, a₁, h₁⟩ := rollbackBatch_of_unwind hu r a
    obtain ⟨invs, hinvs, rfl⟩ := AuditEntry.inverses_of_unwind hu
    rw [h₁] at h
    cases h
    exact ⟨unwind_ok_iff.mp ⟨_, hu⟩, invs, eid, t, time, hinvs, rfl⟩

/-- **There is a batch exactly for a sound trail.** -/
theorem rollbackBatch_ok_iff (r : RollbackRecord) (a : Archive) :
    (∃ ops a', a.answer (rollbackBatch entries r) = (.ok ops, a')) ↔ SoundTrail entries := by
  constructor
  · rintro ⟨ops, a', h⟩
    exact (rollbackBatch_ok h).1
  · intro h
    obtain ⟨undo, hu⟩ := unwind_ok_iff.mpr h
    obtain ⟨eid, t, time, a', h⟩ := rollbackBatch_of_unwind hu r a
    exact ⟨_, a', h⟩

end Batch

/-! ## 3. Sessions -/

namespace Session

open Archive

variable {s : Session} {a a₁ : Archive} {summary : String} {post : UInt64}

theorem rollback_of_unsound (h : ¬ SoundTrail (s.ownTrail a.store)) (summary : String)
    (post : UInt64) (ratio : Option Binary64) :
    ∃ detail a', s.answer a (rollback summary post ratio) =
      (.error (.rollbackFailed s.params.session detail), { s with status := .rollbackFailed }, a') ∧
      a'.store = a.store := by
  obtain ⟨r, a₁, hw, hr⟩ := writeRollback_cases s summary post (s.rollbackReason post ratio) a
  cases r with
  | ok n =>
    obtain ⟨-, _, ⟨_, _, _, _, _, hu⟩, -⟩ := hr
    exact absurd (unwind_ok_iff.mp ⟨_, hu⟩) h
  | error e =>
    have hw' : (ExceptT.run (s.writeRollback summary post (s.rollbackReason post ratio))).run a =
      (.error e, a₁) := hw
    unfold rollback
    simp only [answer_bind, answer_get, answer_liftState, hw']
    exact ⟨_, _, rfl, hr.store⟩

/-- **A session that trips over a bad trail** is over, and nothing was taken back. -/
theorem complete_of_unsound (hs : s.status = .active) (hb : (trim summary).isEmpty = false)
    (hpost : a.answer (s.rules.usage s.params.owner .core) = (.ok post, a₁))
    (htrip : (evaluate s.params.preMass post s.params.threshold).isTripped = true)
    (h : ¬ SoundTrail (s.ownTrail a.store)) :
    ∃ detail a', s.answer a (complete summary) =
      (.error (.rollbackFailed s.params.session detail), { s with status := .rollbackFailed }, a') ∧
      a'.store = a.store := by
  have hstore : a₁.store = a.store := (usage_ok hpost).1.store
  unfold complete
  dsimp only
  rw [answer_bind, answer_ensureOpen_of_active hs]
  dsimp only
  rw [hb, if_neg Bool.false_ne_true, answer_bind, answer_modify]
  dsimp only
  rw [answer_bind, answer_get]
  dsimp only
  rw [answer_bind, answer_orActive, hpost]
  dsimp only
  rw [if_pos htrip, answer_bind, answer_liftState, run_count]
  obtain ⟨detail, a', hr, hstore'⟩ := rollback_of_unsound (s := { s with status := .completing })
    (a := { a₁ with counters := a₁.counters.tripped }) (hstore ▸ h) (trim summary) post
    (evaluate s.params.preMass post s.params.threshold).ratio
  exact ⟨detail, a', hr, hstore'.trans hstore⟩

end Session

/-! ## 4. Recoveries -/

namespace Recovery

open Archive

variable {c : Config} {owner : OwnerId} {session : SessionId} {a a₁ a₂ a₃ : Archive}
  {entries : List AuditEntry} {post : UInt64} {threshold : Threshold}

/-- **A recovery of a bad trail** fails, and nothing was taken back. -/
theorem reconcile_of_unsound
    (hentries : a.answer (liftM (Archive.forSession session) : CurationM _) = (.ok entries, a₁))
    (hn : entries ≠ []) (ho : ∀ e ∈ entries, e.owner = owner)
    (hf : ∀ e ∈ entries, e.action.isTerminal = false)
    (hpost : a₁.answer (c.rules.usage owner .core) = (.ok post, a₂))
    (hthreshold : a₂.answer (Archive.threshold c owner) = (.ok threshold, a₃))
    (h : ¬ SoundTrail entries) :
    ∃ detail a', a.answer (reconcile c owner session) =
      (.error (.rollbackFailed session detail), a') ∧ a'.store = a.store := by
  have hst := (((reads_forSession _).still hentries).trans
    (usage_ok hpost).1).trans ((reads_threshold _ _).still hthreshold)
  have hc : (entries.isEmpty || entries.any (·.owner != owner)) = false := by
    simpa [hn] using ho
  have hfind : entries.find? (·.action.isTerminal) = none := by simpa using hf
  obtain ⟨r, a₄, hw, hr⟩ := write_cases c owner session entries post threshold a₃
  unfold reconcile
  rw [answer_bind, hentries]
  simp only [hc, hfind, Bool.false_eq_true, if_false]
  rw [answer_bind, hpost]
  dsimp only
  rw [answer_bind, hthreshold]
  dsimp only
  rw [answer_bind, answer_liftRun, hw]
  cases r with
  | ok v =>
    obtain ⟨_, ⟨_, _, _, _, _, hu⟩, -⟩ := hr
    exact absurd (unwind_ok_iff.mp ⟨_, hu⟩) h
  | error e => exact ⟨_, _, rfl, hr.store.trans hst.store⟩

/-- **A bad trail is refused whole.**  There is a batch that takes a session back exactly for a
sound trail, and it is made of the inverses of the entries in their order, the closing entry, the
journal and the stamp.  A session that trips over any other trail is over with its rollback failed,
a recovery ends so too, and the store is as it was. -/
theorem bad_trail_refused :
    (∀ (entries : List AuditEntry) (r : RollbackRecord) (a : Archive),
      ((∃ ops a', a.answer (rollbackBatch entries r) = (.ok ops, a')) ↔ SoundTrail entries) ∧
      ∀ ops a', a.answer (rollbackBatch entries r) = (.ok ops, a') →
        ∃ invs eid t time, List.Forall₂ (fun e inv => e.inverse = .ok inv) entries invs ∧
          ops = invs.flatten ++ r.closing eid t time) ∧
    (∀ (s : Session) (a a₁ : Archive) (summary : String) (post : UInt64), s.status = .active →
      (trim summary).isEmpty = false →
      a.answer (s.rules.usage s.params.owner .core) = (.ok post, a₁) →
      (evaluate s.params.preMass post s.params.threshold).isTripped = true →
      ¬ SoundTrail (s.ownTrail a.store) →
      ∃ detail a', s.answer a (Session.complete summary) =
        (.error (.rollbackFailed s.params.session detail),
          { s with status := .rollbackFailed }, a') ∧ a'.store = a.store) ∧
    (∀ (c : Config) (owner : OwnerId) (session : SessionId) (a a₁ a₂ a₃ : Archive)
      (entries : List AuditEntry) (post : UInt64) (threshold : Threshold),
      a.answer (liftM (Archive.forSession session) : CurationM _) = (.ok entries, a₁) →
      entries ≠ [] → (∀ e ∈ entries, e.owner = owner) →
      (∀ e ∈ entries, e.action.isTerminal = false) →
      a₁.answer (c.rules.usage owner .core) = (.ok post, a₂) →
      a₂.answer (Archive.threshold c owner) = (.ok threshold, a₃) → ¬ SoundTrail entries →
      ∃ detail a', a.answer (reconcile c owner session) =
        (.error (.rollbackFailed session detail), a') ∧ a'.store = a.store) := by
  refine ⟨fun entries r a => ⟨rollbackBatch_ok_iff r a, fun ops a' h => (rollbackBatch_ok h).2⟩,
    ?_, ?_⟩
  · intro s a a₁ summary post hs hb hpost htrip h
    exact Session.complete_of_unsound hs hb hpost htrip h
  · intro c owner session a a₁ a₂ a₃ entries post threshold hentries hn ho hf hpost hthreshold h
    exact reconcile_of_unsound hentries hn ho hf hpost hthreshold h

/-- Two deletions, and between them an update that does not say what it wrote, though its digest
fits. -/
theorem bad_trail_refused_between :
    let entry (seq : Nat) (action : AuditAction) (payload : Json) : AuditEntry :=
      .make ⟨"e"⟩ ⟨0, 0⟩ ⟨"s"⟩ ⟨"o"⟩ seq action [⟨"m"⟩] payload
    let first := entry 1 .delete (.obj [("before", .str "note")])
    let bad := entry 2 .update (.obj [("before", .str "note")])
    let last := entry 3 .delete (.arr [.str "note"])
    let a : Archive := .around .inMemory ⟨[], [first, bad, last], []⟩ (.steady ⟨0, 0⟩) 0
    let s : Session := .start Config.standard.rules ⟨⟨"s"⟩, ⟨"o"⟩, 10, .standard, none⟩ .standard
    let r : RollbackRecord := ⟨⟨"s"⟩, ⟨"o"⟩, 4, ⟨none, 0, .zero, .none, reason⟩, default⟩
    bad.verifies = true ∧
    (∃ ops a', a.answer (rollbackBatch [last, first] r) = (.ok ops, a')) ∧
    (¬ ∃ ops a', a.answer (rollbackBatch [last, bad, first] r) = (.ok ops, a')) ∧
    (∃ detail a', s.answer a (Session.complete "done") = (.error (.rollbackFailed ⟨"s"⟩ detail),
      { s with status := .rollbackFailed }, a') ∧ a'.store = a.store) ∧
    (∃ detail a', a.answer (reconcile .standard ⟨"o"⟩ ⟨"s"⟩) =
      (.error (.rollbackFailed ⟨"s"⟩ detail), a') ∧ a'.store = a.store) := by
  intro entry first bad last a s r
  have hbad : ¬ bad.Sound := by
    rintro ⟨-, -, ⟨before, after, hshape⟩, -⟩
    simp [bad, entry, AuditEntry.make, Json.pair?, Json.get?] at hshape
  have hfirst : first.Sound :=
    ⟨AuditEntry.verifies_make .., rfl, ⟨"note", none, rfl, .inl rfl⟩, fun _ => ⟨_, rfl⟩⟩
  have hlast : last.Sound :=
    ⟨AuditEntry.verifies_make .., rfl, ⟨"note", none, rfl, .inl rfl⟩, fun _ => ⟨_, rfl⟩⟩
  have hgood : SoundTrail [last, first] := ⟨by decide, by simp [hfirst, hlast]⟩
  have hstored : bad ∈ a.store.forSession ⟨"s"⟩ :=
    Store.mem_forSession.mpr ⟨by simp [a, Archive.around], rfl⟩
  have htrail : ∀ e ∈ a.store.forSession ⟨"s"⟩, e = first ∨ e = bad ∨ e = last := by
    intro e he
    simpa [a, Archive.around] using (Store.mem_forSession.mp he).1
  obtain ⟨hbatch, hcomplete, hreconcile⟩ := bad_trail_refused
  refine ⟨AuditEntry.verifies_make .., ((hbatch _ r a).1).mpr hgood, fun h => ?_, ?_, ?_⟩
  · exact hbad ((((hbatch _ r a).1).mp h).sound bad (by simp))
  · refine hcomplete s a a "done" _ rfl (by decide) (usage_of_none rfl _ _ _) ?_ fun h => ?_
    · exact evaluate_of_zero (by decide) _
    · exact hbad (h.sound bad (List.mem_filter.mpr ⟨hstored, by decide⟩))
  · refine hreconcile .standard ⟨"o"⟩ ⟨"s"⟩ a a a a _ _ _ (forSession_of_none rfl _) ?_ ?_ ?_
      (usage_of_none rfl _ _ _) (threshold_of_none rfl _ _) fun h => hbad (h.sound bad hstored)
    · exact List.ne_nil_of_mem hstored
    · intro e he
      rcases htrail e he with rfl | rfl | rfl <;> rfl
    · intro e he
      rcases htrail e he with rfl | rfl | rfl <;> rfl

end Recovery
end Curation
