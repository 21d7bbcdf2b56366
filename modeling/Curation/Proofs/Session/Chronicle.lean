/-
# A session and its trail

What a session knows of itself it could read off its trail: the place of its next entry, its
tally and whether it is over.  `Chronicle` says so, and every run preserves it, whatever is done
elsewhere to the archive, as long as nobody else writes under the id of the session.

The invariant is stated of the entries in the order in which they came.  The statements about what
is read, with the last entry first, follow from it at the end.
-/
import Mathlib.Data.List.Range
import Curation.Proofs.Audit.Trail
import Curation.Proofs.Session.Run

namespace Curation

/-- Nobody else wrote under the id of a session.  Anything else may have happened. -/
def Archive.Foreign (session : SessionId) (a a' : Archive) : Prop :=
  a'.store.entriesOf session = a.store.entriesOf session

/-! ## 1. The invariant -/

/-- How the entries of a session end, by the state that it is in.  Only a call that was broken off
leaves it completing. -/
inductive Ended : SessionStatus → List AuditEntry → Prop
  | active {es : List AuditEntry} (h : ∀ e ∈ es, e.action.isTerminal = false) : Ended .active es
  | completing {es : List AuditEntry} (h : ∀ e ∈ es, e.action.isTerminal = false) :
      Ended .completing es
  | rollbackFailed {es : List AuditEntry} (h : ∀ e ∈ es, e.action.isTerminal = false) :
      Ended .rollbackFailed es
  | committed {es : List AuditEntry} {e : AuditEntry} (h : ∀ e ∈ es, e.action.isTerminal = false)
      (he : e.action = .sessionComplete) : Ended .committed (es ++ [e])
  | rolledBack {es : List AuditEntry} {e : AuditEntry} (h : ∀ e ∈ es, e.action.isTerminal = false)
      (he : e.action = .sessionRollback) : Ended .rolledBack (es ++ [e])

/-- **A session whose trail nothing closes**: one that goes on, that was broken off while it was
completing, or whose rollback could not be written. -/
abbrev Session.Unclosed (s : Session) : Prop :=
  s.status = .active ∨ s.status = .rollbackFailed ∨ s.status = .completing

/-- What holds of some items and of one more. -/
theorem forall_mem_concat {α : Type} {P : α → Prop} {xs : List α} {y : α} (hxs : ∀ x ∈ xs, P x)
    (hy : P y) : ∀ x ∈ xs ++ [y], P x :=
  List.forall_mem_append.mpr ⟨hxs, List.forall_mem_singleton.mpr hy⟩

/-- The newest of some forward entries is a forward entry. -/
theorem newest_of_forward {es : List AuditEntry} (h : ∀ e ∈ es, e.action.isTerminal = false)
    {action : AuditAction} (ht : action.isTerminal = true) :
    es.getLast?.map (·.action) ≠ some action := by
  intro hl
  obtain ⟨e, he, rfl⟩ := Option.map_eq_some_iff.mp hl
  have := h e (List.mem_of_getLast? he)
  rw [ht] at this
  cases this

/-- **The newest entry tells the state.** -/
theorem Ended.newest {status : SessionStatus} {es : List AuditEntry} (h : Ended status es) :
    (status = .committed ↔ es.getLast?.map (·.action) = some .sessionComplete) ∧
    (status = .rolledBack ↔ es.getLast?.map (·.action) = some .sessionRollback) ∧
    ((status = .active ∨ status = .rollbackFailed ∨ status = .completing) ↔
      ∀ e ∈ es, e.action.isTerminal = false) := by
  cases h with
  | active h | rollbackFailed h | completing h =>
    have hc : es.getLast?.map (·.action) ≠ some .sessionComplete := newest_of_forward h rfl
    have hr : es.getLast?.map (·.action) ≠ some .sessionRollback := newest_of_forward h rfl
    simpa [hc, hr] using h
  | committed h he | rolledBack h he =>
    simp [he, AuditAction.isTerminal]

/-- **A session and its entries agree.** -/
structure Chronicle (s : Session) (es : List AuditEntry) : Prop where
  places : es.map (·.seq) = List.range' 1 es.length
  nextSeq : s.nextSeq = es.length + 1
  owner : ∀ e ∈ es, e.owner = s.params.owner
  verifies : ∀ e ∈ es, e.verifies = true
  stats : s.stats = AuditEntry.stats es
  ended : Ended s.status es

namespace Chronicle

variable {s : Session} {es : List AuditEntry} {e : AuditEntry}

theorem start (h₁ : s.nextSeq = 1) (h₂ : s.stats = .none) (h₃ : s.status = .active) :
    Chronicle s [] :=
  ⟨rfl, h₁, nofun, nofun, h₂, h₃ ▸ .active nofun⟩

/-- The places rise. -/
theorem rising (h : Chronicle s es) : es.Pairwise fun a b => a.seq < b.seq := by
  have hp : (es.map (·.seq)).Pairwise (· < ·) := by
    rw [h.places]
    exact List.pairwise_lt_range'
  exact List.pairwise_map.mp hp

theorem seq_lt (h : Chronicle s es) (he : e ∈ es) : e.seq < s.nextSeq := by
  have hm : e.seq ∈ es.map (·.seq) := List.mem_map_of_mem he
  rw [h.places, List.mem_range'_1] at hm
  rw [h.nextSeq]
  omega

/-- **The place after the trail** is the one that the session gives its next entry. -/
theorem placeAfter_reverse (h : Chronicle s es) : placeAfter es.reverse = s.nextSeq := by
  rw [h.nextSeq]
  rcases List.eq_nil_or_concat es with rfl | ⟨init, e, rfl⟩
  · rfl
  · rw [List.concat_eq_append] at h ⊢
    have hp := h.places
    rw [List.map_append, List.length_append, List.length_singleton, List.range'_1_concat] at hp
    have he := (List.append_inj' hp rfl).2
    simp only [List.map_cons, List.map_nil, List.cons.injEq, and_true] at he
    simp [placeAfter, he, Nat.add_comm]

/-- While a session is active all its entries are forward ones. -/
theorem forward (h : Chronicle s es) (hs : s.status = .active) :
    ∀ e ∈ es, e.action.isTerminal = false := by
  have he := h.ended
  rw [hs] at he
  cases he with
  | active h => exact h

/-- All the entries of a session are its owner's, so it takes back its whole trail. -/
theorem ownTrail {σ : Store} (h : Chronicle s (σ.entriesOf s.params.session)) :
    s.ownTrail σ = σ.forSession s.params.session := by
  unfold Session.ownTrail
  refine List.filter_eq_self.mpr fun e he => ?_
  simpa using h.owner e ((σ.forSession_perm s.params.session).mem_iff.mp he)

/-- What both kinds of writing do: one more entry, at the next place. -/
theorem places_append (h : Chronicle s es) (he : e.seq = s.nextSeq) :
    (es ++ [e]).map (·.seq) = List.range' 1 (es ++ [e]).length := by
  rw [List.map_append, h.places, List.length_append, List.length_singleton, List.range'_1_concat,
    List.map_singleton, he, h.nextSeq, Nat.add_comm]

/-- A forward entry. -/
theorem recorded (h : Chronicle s es) (hs : s.status = .active) (hseq : e.seq = s.nextSeq)
    (ho : e.owner = s.params.owner) (hv : e.verifies = true) {action : AuditAction}
    (ha : e.action = action) (ht : action.isTerminal = false) :
    Chronicle (s.recorded action) (es ++ [e]) := by
  subst ha
  refine ⟨h.places_append hseq, ?_, forall_mem_concat h.owner ho,
    forall_mem_concat h.verifies hv, ?_, ?_⟩
  · show s.nextSeq + 1 = _
    rw [h.nextSeq, List.length_append, List.length_singleton]
  · show s.stats.record e.action = _
    rw [AuditEntry.stats_append_singleton, h.stats]
  · show Ended s.status _
    rw [hs]
    exact .active (forall_mem_concat (h.forward hs) ht)

/-- The closing entry, which is not tallied. -/
theorem closed (h : Chronicle s es) (hseq : e.seq = s.nextSeq)
    (ho : e.owner = s.params.owner) (hv : e.verifies = true) {status : SessionStatus}
    (ht : e.action.isTerminal = true) (hend : Ended status (es ++ [e])) :
    Chronicle (s.closed status) (es ++ [e]) := by
  refine ⟨h.places_append hseq, ?_, forall_mem_concat h.owner ho,
    forall_mem_concat h.verifies hv, ?_, hend⟩
  · show s.nextSeq + 1 = _
    rw [h.nextSeq, List.length_append, List.length_singleton]
  · show s.stats = _
    rw [AuditEntry.stats_append_singleton, h.stats]
    cases ha : e.action <;> simp_all [AuditAction.isTerminal, SessionStats.record]

/-- A session whose rollback could not be written, or that was broken off, keeps its trail. -/
theorem failed (h : Chronicle s es) {status : SessionStatus} (hend : Ended status es) :
    Chronicle { s with status := status } es :=
  ⟨h.places, h.nextSeq, h.owner, h.verifies, h.stats, hend⟩

end Chronicle

/-! ## 2. What an action writes to the trail -/

theorem Forward.appended {rules : MemoryRules} {owner : OwnerId} {σ : Store} {act : Action}
    {o : ActionOutcome} {c : Change} (h : Forward rules owner σ act o c) (e : AuditEntry) :
    (c.ops ++ [WriteOp.appendAudit e]).filterMap WriteOp.appended? = [e] := by
  have hops : c.ops.filterMap WriteOp.appended? = [] := by
    cases h with
    | update _ _ _ | delete _ _ | protect _ _ | unprotect _ _ => rfl
    | consolidate _ _ _ _ =>
      simp [Change.consolidate, WriteOp.appended?, List.filterMap_cons, List.filterMap_eq_nil_iff]
  rw [List.filterMap_append, hops]
  rfl

/-- A batch with one entry in it adds that one entry. -/
theorem Archive.Wrote.trail {a a' : Archive} {f : Counters → Counters} {ops : List WriteOp}
    {e : AuditEntry} (hw : Archive.Wrote f ops a a') (ha : ops.filterMap WriteOp.appended? = [e]) :
    a'.store.trail = a.store.trail ++ [e.kept a.backend] := by
  obtain ⟨t, ht⟩ := hw.written
  rw [ht.trail, ha]
  rfl

namespace Session

variable {s : Session} {a a' : Archive}

theorem entriesOf_of_wrote {f : Counters → Counters} {ops : List WriteOp} {e : AuditEntry}
    (hw : Archive.Wrote f ops a a') (ha : ops.filterMap WriteOp.appended? = [e])
    (he : e.session = s.params.session) :
    a'.store.entriesOf s.params.session =
      a.store.entriesOf s.params.session ++ [e.kept a.backend] :=
  Store.entriesOf_of_trail (hw.trail ha) fun x hx => by rw [List.mem_singleton.mp hx]; exact he

/-- **The chronicle is kept** by whatever an action does. -/
theorem chronicle_performed {act : Action} {r : Except CurationError ActionOutcome} {s' : Session}
    (h : Chronicle s (a.store.entriesOf s.params.session))
    (hp : Performed s a act (r, s', a')) :
    s'.params = s.params ∧ Chronicle s' (a'.store.entriesOf s.params.session) := by
  cases hp with
  | refused he hst => exact ⟨rfl, hst.store ▸ h⟩
  | found hs hst => exact ⟨rfl, hst.store ▸ h⟩
  | forward hs hf hw =>
    rw [entriesOf_of_wrote hw (hf.appended _) rfl]
    refine ⟨rfl, h.recorded hs rfl rfl ?_ rfl hf.compensable⟩
    rw [AuditEntry.verifies_kept]
    exact AuditEntry.verifies_make ..
  | committed hs hb hm hv hw =>
    rw [entriesOf_of_wrote hw rfl rfl]
    refine ⟨rfl, h.closed rfl rfl ?_ rfl (.committed (h.forward hs) rfl)⟩
    rw [AuditEntry.verifies_kept]
    exact AuditEntry.verifies_make ..
  | rolledBack hs hb hm hv hu hw =>
    rw [entriesOf_of_wrote hw (appended_of_unwind hu _) rfl]
    refine ⟨rfl, h.closed rfl rfl ?_ rfl (.rolledBack (h.forward hs) rfl)⟩
    rw [AuditEntry.verifies_kept]
    exact AuditEntry.verifies_make ..
  | rollbackFailed hs hb hm hv hvain =>
    exact ⟨rfl, hvain.store ▸ h.failed (.rollbackFailed (h.forward hs))⟩
  | overflowed hs hb hm hst => exact ⟨rfl, hst.store ▸ h.failed (.completing (h.forward hs))⟩

/-! ## 3. Runs -/

variable {c : Config} {owner : OwnerId} {s₀ : Session} {a₀ a₁ : Archive}

theorem Begun.entriesOf (h : Begun c owner a s) : a.store.entriesOf s.params.session = [] :=
  Store.forSession_eq_nil.mp h.unused

/-- **Every run keeps the chronicle.** -/
theorem chronicle_run (hb : Begins c owner a₀ s₀ a₁)
    (hr : Run (Archive.Foreign s₀.params.session) s₀ a₁ s a) :
    s.params = s₀.params ∧ Chronicle s (a.store.entriesOf s₀.params.session) := by
  obtain ⟨hb, hst⟩ := hb.begun
  have h₀ : Chronicle s₀ (a₁.store.entriesOf s₀.params.session) := by
    rw [hst.store, hb.entriesOf]
    exact .start hb.nextSeq hb.stats hb.status
  refine hr.preserves (P := fun s a =>
    s.params = s₀.params ∧ Chronicle s (a.store.entriesOf s₀.params.session))
    (fun a a' hq => congrArg (Store.entriesOf · _) hq.store)
    (fun s a a' h hf => ⟨h.1, hf.symm ▸ h.2⟩) (fun s a act r s' a' h hp => ?_) ⟨rfl, h₀⟩
  obtain ⟨hps, hc⟩ := h
  rw [← hps] at hc ⊢
  exact chronicle_performed hc hp

end Session
end Curation
