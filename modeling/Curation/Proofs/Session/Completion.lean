/-
# Completion

What `complete` reports is what the breaker saw (`outcome_of_complete`), and with nothing in the
way and a mass that fits a word it does answer: it commits or rolls back, as the breaker decides
(`complete_of_clear`).

What may be in the way is the store's.  A fault may be armed, an id that is drawn may be taken
already, and the database has no settings for the empty owner.  Each entry takes a new place in its
session, so a trail that the session keeps alone never refuses one.
-/
import Curation.Proofs.Session.Recovery

namespace Curation

/-! ## 1. Archives that refuse nothing -/

/-- **Nothing is in the way** of calls that draw so many ids for an owner: no fault is armed, the
ids that are drawn next are new, and the owner can have settings. -/
structure Archive.Clear (draws : Nat) (owner : OwnerId) (a : Archive) : Prop where
  faults : a.faults = .none
  fresh : ∀ n < draws, a.store.memory? ⟨Ident.generated (a.drawn + n)⟩ = none ∧
    ∀ e ∈ a.store.trail, e.id ≠ ⟨Ident.generated (a.drawn + n)⟩
  named : a.backend = .database → owner.text ≠ ""

instance (draws : Nat) (owner : OwnerId) (a : Archive) : Decidable (a.Clear draws owner) :=
  decidable_of_iff
    (a.faults = .none ∧ (∀ n < draws, a.store.memory? ⟨Ident.generated (a.drawn + n)⟩ = none ∧
      ∀ e ∈ a.store.trail, e.id ≠ ⟨Ident.generated (a.drawn + n)⟩) ∧
      (a.backend = .database → owner.text ≠ ""))
    ⟨fun ⟨hf, hn, ho⟩ => ⟨hf, hn, ho⟩, fun h => ⟨h.faults, h.fresh, h.named⟩⟩

namespace Session

open Archive

variable {s s' : Session} {a a' : Archive} {summary : String} {o : SessionOutcome} {σ₀ : Store}

/-! ## 2. What is reported -/

theorem performed_of_complete (h : s.answer a (complete summary) = (.ok o, s', a')) :
    Performed s a (.complete summary) (.ok (.completed o), s', a') := by
  have hp := performed s a (.complete summary)
  rw [answer_complete, h] at hp
  exact hp

/-- **What a completion reports**: the two masses that the breaker compared, and what it said. -/
theorem outcome_of_complete (h : s.answer a (complete summary) = (.ok o, s', a')) :
    s.status = .active ∧ o.preMass = s.params.preMass.toNat ∧
      ∃ post, s.mass a.store = some post ∧ o.postMass = post.toNat ∧
        o.status = if (s.verdict post).isTripped then .rolledBack else .committed := by
  have hp := performed_of_complete h
  cases hp with
  | forward hs hf hw => cases hf
  | @committed _ post _ _ _ _ _ _ hs hb hm hv hw =>
    refine ⟨hs, rfl, post, hm, rfl, ?_⟩
    rw [hv]
    rfl
  | @rolledBack _ post _ _ _ _ _ _ _ hs hb hm hv hu hw =>
    refine ⟨hs, rfl, post, hm, rfl, ?_⟩
    rw [hv]
    rfl

/-! ## 3. Completion that succeeds -/

theorem answer_ensureOpen_of_active (hs : s.status = .active) (a : Archive) :
    s.answer a ensureOpen = (.ok (), s, a) := by
  unfold ensureOpen
  rw [answer_bind, answer_get]
  simp [hs]

/-- The place of the next entry is free. -/
theorem place_free (h : Chronicle s (a.store.entriesOf s.params.session)) :
    ∀ e ∈ a.store.trail, e.session = s.params.session → e.seq ≠ s.nextSeq :=
  fun _ he hs => (h.seq_lt (Store.mem_entriesOf.mpr ⟨he, hs⟩)).ne

theorem commit_of_clear (h : Chronicle s (a.store.entriesOf s.params.session))
    (hc : a.Clear 2 s.params.owner) (summary : String) (post : UInt64) (ratio : Option Binary64) :
    ∃ o s' a', s.answer a (commit summary post ratio) = (.ok o, s', a') := by
  unfold commit newJournal
  simp only [answer_bind, answer_get, answer_liftState, run_newEntry, run_newMemory, run_now,
    answer_orActive, answer_ofStore]
  generalize ha₁ : ({ a with drawn := _, clock := _ } : Archive) = a₁
  have hf : a₁.faults = .none := by
    subst ha₁
    exact hc.faults
  obtain ⟨σ', hw⟩ := Store.written_closing (b := a.backend) (t := a₁.clock.next) (s := a.store)
    (.make ⟨Ident.generated a.drawn⟩ a.clock.next s.params.session s.params.owner s.nextSeq
      .sessionComplete [] (CompletePayload.mk s.params.session summary s.stats).encode)
    (.fresh ⟨Ident.generated (a.drawn + 1)⟩ s.params.owner
      (journalText s.limits.journal (s.commitJournal summary)) .journal a.clock.advance.next)
    s.params.owner a.clock.advance.advance.next
    (fun _ x hx => ⟨(hc.fresh 0 Nat.two_pos).2 x hx, fun hp => place_free h x hx hp.1 hp.2⟩)
    (hc.fresh 1 Nat.one_lt_two).1 hc.named
  have hb : ∀ ops, a.store.applyBatch a.backend a₁.clock.next none ops = .ok σ' →
      ∃ a', a₁.answer (applyBatch ops) = (.ok (), a') := by
    subst ha₁
    exact fun ops h => ⟨_, answer_applyBatch_of_none hf h⟩
  obtain ⟨a', ha'⟩ := hb _ hw.applyBatch
  rw [ha']
  exact ⟨_, _, _, rfl⟩

theorem writeRollback_of_clear (h : Revocable σ₀ s a.store) (hs : s.Unclosed)
    (hc : a.Clear 2 s.params.owner) (summary : String) (post : UInt64) (reason : String) :
    ∃ n a', a.answer (s.writeRollback summary post reason) = (.ok n, a') := by
  obtain ⟨undo, hu, hund⟩ := h.undone hs
  have hown : AuditEntry.unwind (s.ownTrail a.store) = .ok undo := h.ownTrail ▸ hu
  unfold writeRollback newJournal
  rw [Archive.answer_bind, forSession_of_none hc.faults]
  dsimp only
  rw [Archive.answer_bind, answer_lift, run_newMemory]
  dsimp only
  generalize ha₁ : ({ a with drawn := _, clock := _ } : Archive) = a₁
  obtain ⟨hst, hd, hf⟩ : Still a a₁ ∧ a₁.drawn = a.drawn + 1 ∧ a₁.faults = .none := by
    subst ha₁
    exact ⟨⟨rfl, rfl, rfl, rfl⟩, rfl, hc.faults⟩
  obtain ⟨a₂, hw, -⟩ := rollback_of_known (a := a₁)
    (r := ⟨s.params.session, s.params.owner, s.nextSeq,
      ⟨some s.params.preMass.toNat, post.toNat, s.params.threshold.value, s.stats, reason⟩,
      .fresh ⟨Ident.generated a.drawn⟩ s.params.owner
        (journalText s.limits.journal (s.rollbackJournal summary reason)) .journal a.clock.next⟩)
    hf hown (hst.store ▸ hund.known) (hst.store ▸ place_free h.chronicle)
    (by rw [hst.store, hd]; exact (hc.fresh 1 Nat.one_lt_two).2)
    (by rw [hst.store]; exact (hc.fresh 0 Nat.two_pos).1) (hst.backend ▸ hc.named)
  rw [← bind_assoc, Archive.answer_bind]
  unfold ownTrail at hw
  rw [hw]
  exact ⟨_, _, rfl⟩

theorem rollback_of_clear (h : Revocable σ₀ s a.store) (hs : s.Unclosed)
    (hc : a.Clear 2 s.params.owner) (summary : String) (post : UInt64) (ratio : Option Binary64) :
    ∃ o s' a', s.answer a (rollback summary post ratio) = (.ok o, s', a') := by
  obtain ⟨n, a', hw⟩ := writeRollback_of_clear h hs hc summary post (s.rollbackReason post ratio)
  have hw' : (ExceptT.run (s.writeRollback summary post (s.rollbackReason post ratio))).run a =
    (.ok n, a') := hw
  unfold rollback
  simp only [answer_bind, answer_get, answer_liftState, hw']
  exact ⟨_, _, _, rfl⟩

/-- **A session that is completed with nothing in the way** is committed or rolled back, as the
breaker decides. -/
theorem complete_of_clear {post : UInt64} (h : Revocable σ₀ s a.store) (hs : s.status = .active)
    (hb : (trim summary).isEmpty = false) (hm : s.mass a.store = some post)
    (hc : a.Clear 2 s.params.owner) :
    ∃ o s' a', s.answer a (complete summary) = (.ok o, s', a') ∧
      o.status = if (s.verdict post).isTripped then .rolledBack else .committed := by
  have hre := h.completing hs
  have hok : ∃ o s' a', s.answer a (complete summary) = (.ok o, s', a') := by
    unfold complete
    dsimp only
    rw [answer_bind, answer_ensureOpen_of_active hs]
    dsimp only
    rw [hb, if_neg Bool.false_ne_true, answer_bind, answer_modify]
    dsimp only
    rw [answer_bind, answer_get]
    dsimp only
    unfold mass at hm
    rw [answer_bind, answer_orActive, usage_of_none hc.faults, hm]
    dsimp only [Option.elim]
    split
    · -- that the breaker tripped is counted first
      rw [answer_bind, answer_liftState, run_count]
      exact rollback_of_clear (a := { a with counters := a.counters.tripped }) hre (.inr (.inr rfl))
        ⟨hc.faults, hc.fresh, hc.named⟩ (trim summary) _ _
    · exact commit_of_clear hre.chronicle hc (trim summary) _ _
  obtain ⟨o, s', a', hok⟩ := hok
  obtain ⟨-, -, post', hm', -, ho⟩ := outcome_of_complete hok
  cases hm.symm.trans hm'
  exact ⟨o, s', a', hok, ho⟩

/-! ## 4. Completion that is refused -/

/-- A call that refuses, if it does, for a fatal reason. -/
def FatalOnly {α : Type} (x : SessionM α) : Prop :=
  ∀ (s : Session) (a : Archive) (e : CurationError),
    (s.answer a x).1 = .error e → e.isFatal = true

section FatalOnly

variable {α β : Type}

/-- A call that is never refused. -/
theorem fatalOnly_of_ok {x : SessionM α}
    (h : ∀ (s : Session) (a : Archive), ∃ v, (s.answer a x).1 = .ok v) : FatalOnly x := by
  intro s a e he
  obtain ⟨v, hv⟩ := h s a
  rw [hv] at he
  cases he

theorem fatalOnly_pure (v : α) : FatalOnly (pure v : SessionM α) :=
  fatalOnly_of_ok fun _ _ => ⟨v, rfl⟩

theorem fatalOnly_get : FatalOnly (get : SessionM Session) :=
  fatalOnly_of_ok fun s _ => ⟨s, rfl⟩

theorem fatalOnly_modify (f : Session → Session) : FatalOnly (modify f : SessionM PUnit) :=
  fatalOnly_of_ok fun _ _ => ⟨⟨⟩, rfl⟩

theorem fatalOnly_set (s : Session) : FatalOnly (set s : SessionM PUnit) :=
  fatalOnly_of_ok fun _ _ => ⟨⟨⟩, rfl⟩

theorem fatalOnly_liftState (x : StateM Archive α) : FatalOnly (liftM x : SessionM α) :=
  fatalOnly_of_ok fun _ a => ⟨(x.run a).1, rfl⟩

theorem fatalOnly_throw {e : CurationError} (he : e.isFatal = true) :
    FatalOnly (throw e : SessionM α) := by
  rintro s a e' h
  cases h
  exact he

/-- What the store refuses is fatal. -/
theorem fatal_of_store {x : StoreM α} {e : CurationError}
    (h : (a.answer (liftM x : CurationM α)).1 = .error e) : e.isFatal = true := by
  rw [Archive.answer_ofStore] at h
  rcases hx : (a.answer x).1 with e' | v <;> rw [hx] at h <;> cases h
  rfl

theorem fatalOnly_orActive {x : CurationM α}
    (hx : ∀ (a : Archive) (e : CurationError), (a.answer x).1 = .error e → e.isFatal = true) :
    FatalOnly (orActive x) := by
  intro s a e h
  rw [answer_orActive] at h
  exact hx a e h

theorem FatalOnly.bind {x : SessionM α} {f : α → SessionM β} (hx : FatalOnly x)
    (hf : ∀ v, FatalOnly (f v)) : FatalOnly (x >>= f) := by
  intro s a e h
  rw [answer_bind] at h
  rcases hr : s.answer a x with ⟨r, s₁, a₁⟩
  rw [hr] at h
  cases r with
  | ok v => exact hf v s₁ a₁ e h
  | error e' =>
    cases h
    exact hx s a e (by rw [hr])

/-- A measurement is refused by the store, or broken off. -/
theorem fatal_of_usage {rules : MemoryRules} {owner : OwnerId} {kind : MemoryKind}
    {e : CurationError} (h : (a.answer (rules.usage owner kind)).1 = .error e) :
    e.isFatal = true := by
  unfold MemoryRules.usage at h
  rw [Archive.answer_bind] at h
  rcases hl : a.answer (liftM (Archive.listMemories owner (.live kind)) : CurationM _)
    with ⟨r, a₁⟩
  rw [hl] at h
  cases r with
  | ok live =>
    dsimp only at h
    split at h <;> cases h
    rfl
  | error e' =>
    cases h
    exact fatal_of_store (congrArg Prod.fst hl)

theorem fatalOnly_commit (summary : String) (post : UInt64) (ratio : Option Binary64) :
    FatalOnly (commit summary post ratio) := by
  unfold commit newJournal
  refine fatalOnly_get.bind fun s => (fatalOnly_liftState _).bind fun entry =>
    (fatalOnly_liftState _).bind fun journal => (fatalOnly_liftState _).bind fun t =>
    (fatalOnly_orActive fun _ _ => fatal_of_store).bind fun _ => (fatalOnly_set _).bind fun _ =>
    (fatalOnly_liftState _).bind fun _ => fatalOnly_pure _

theorem fatalOnly_rollback (summary : String) (post : UInt64) (ratio : Option Binary64) :
    FatalOnly (rollback summary post ratio) := by
  unfold rollback
  refine fatalOnly_get.bind fun s => (fatalOnly_liftState _).bind fun r => ?_
  split
  · exact (fatalOnly_set _).bind fun _ => (fatalOnly_liftState _).bind fun _ => fatalOnly_pure _
  · exact (fatalOnly_set _).bind fun _ => (fatalOnly_liftState _).bind fun _ =>
      fatalOnly_throw rfl

end FatalOnly

/-- **A completion with something to say** is refused by an active session only for a fatal reason:
the store is at fault, the mass does not fit a word, or the rollback could not be written. -/
theorem fatal_of_complete {summary : String} {e : CurationError} (hs : s.status = .active)
    (hb : (trim summary).isEmpty = false)
    (h : s.answer a (complete summary) = (.error e, s', a')) : e.isFatal = true := by
  have hrest : FatalOnly (do
      modify fun s => { s with status := .completing }
      let s ← get
      let post ← orActive (s.rules.usage s.params.owner .core)
      let verdict := evaluate s.params.preMass post s.params.threshold
      if verdict.isTripped then
        Archive.count .tripped
        rollback (trim summary) post verdict.ratio
      else commit (trim summary) post verdict.ratio) := by
    refine (fatalOnly_modify _).bind fun _ => fatalOnly_get.bind fun s =>
      (fatalOnly_orActive fun _ _ => fatal_of_usage).bind fun post => ?_
    dsimp only
    split
    · exact (fatalOnly_liftState _).bind fun _ => fatalOnly_rollback _ _ _
    · exact fatalOnly_commit _ _ _
  unfold complete at h
  dsimp only at h
  rw [answer_bind, answer_ensureOpen_of_active hs] at h
  dsimp only at h
  rw [hb, if_neg Bool.false_ne_true] at h
  exact hrest s a e (congrArg Prod.fst h)

end Session
end Curation
