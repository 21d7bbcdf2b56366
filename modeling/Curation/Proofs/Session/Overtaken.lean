/-
# A session that is taken back while it is alive

Recovery is for sessions whose driver is gone, but nothing stops it from taking back one whose
driver is not.  A session keeps its own state and its next place, and never reads its trail again,
so it does not notice.

`Contest` is a run of one session with attempts at its recovery in between.  As long as no attempt
has taken it back, the session and its trail agree (`Chronicle`).  From then on they do not: the
session still takes the place that the entry of the recovery has.  The database refuses a place that
is taken, so there nothing more is ever written.  In memory it is not refused, and the trail that
was closed is open again.

So a closed trail stays closed exactly if the session writes nothing after it was taken back
(`trail_closed_iff`), and in the database it never does.
-/
import Curation.Proofs.Session.Recovery

namespace Curation

/-- Nobody else wrote under the id of a session, and the backend is the same. -/
structure Archive.Aside (session : SessionId) (a a' : Archive) : Prop where
  backend : a'.backend = a.backend
  entries : a'.store.entriesOf session = a.store.entriesOf session

/-! ## 1. What the database takes -/

/-- The database gives a place in a session only once. -/
theorem Store.place_free_of_append {σ σ' : Store} {e : AuditEntry}
    (h : σ.append .database e = .ok σ') :
    ∀ x ∈ σ.trail, x.session = e.session → x.seq ≠ e.seq := by
  intro x hx hs hseq
  simp only [Store.append] at h
  split at h
  · cases h
  · next hany =>
    refine hany (List.any_eq_true.mpr ⟨x, hx, ?_⟩)
    simp [hs, hseq]

theorem Store.Written.place_free {t : Instant} {ops : List WriteOp} {σ σ' : Store}
    (h : Store.Written .database t ops σ σ') {e : AuditEntry} (he : .appendAudit e ∈ ops) :
    ∀ x ∈ σ.trail, x.session = e.session → x.seq ≠ e.seq := by
  induction h with
  | nil => cases he
  | @cons op ops σ σ₁ σ' h₁ _ ih =>
    intro x hx
    rcases List.mem_cons.mp he with rfl | he
    · exact Store.place_free_of_append h₁ x hx
    · refine ih he x ?_
      rw [(Store.apply_ok h₁).trail]
      exact List.mem_append_left _ hx

namespace Session

open Recovery

/-! ## 2. Runs with recovery in between -/

/-- **A run of a session with attempts at its recovery in between.**  The index is the place that
the session was about to take when it was taken back; there is none if it never was. -/
inductive Contest (owner : OwnerId) (s₀ : Session) (a₀ : Archive) :
    Option Nat → Session → Archive → Prop
  | start : Contest owner s₀ a₀ none s₀ a₀
  | call {taken : Option Nat} {s : Session} {a : Archive} (call : Call)
      (h : Contest owner s₀ a₀ taken s a) :
      Contest owner s₀ a₀ taken (call.run s a).1 (call.run s a).2
  | attempt {taken : Option Nat} {s : Session} {a a' : Archive} {c : Config}
      {r : Except CurationError Recovered} (h : Contest owner s₀ a₀ taken s a)
      (hc : a.answer (reconcile c owner s₀.params.session) = (r, a'))
      (hr : ∀ n stats, r ≠ .ok (.rolledBack n stats)) : Contest owner s₀ a₀ taken s a'
  | recovered {taken : Option Nat} {s : Session} {a a' : Archive} {c : Config} {n : Nat}
      {stats : SessionStats} (h : Contest owner s₀ a₀ taken s a)
      (hc : a.answer (reconcile c owner s₀.params.session) = (.ok (.rolledBack n stats), a')) :
      Contest owner s₀ a₀ (some s.nextSeq) s a'
  | aside {taken : Option Nat} {s : Session} {a a' : Archive} (h : Contest owner s₀ a₀ taken s a)
      (hs : Archive.Aside s₀.params.session a a') : Contest owner s₀ a₀ taken s a'

/-! ## 3. The two ways in which a session and its trail stand -/

/-- The newest entry is the only one that may close a trail. -/
theorem after_eq_nil_of_forward {es before after : List AuditEntry} {e x : AuditEntry}
    (h : ∀ y ∈ es, y.action.isTerminal = false) (hsplit : es ++ [e] = before ++ x :: after)
    (hx : x.action.isTerminal = true) : after = [] := by
  rcases List.eq_nil_or_concat after with rfl | ⟨rest, y, rfl⟩
  · rfl
  · rw [List.concat_eq_append, ← List.cons_append, ← List.append_assoc] at hsplit
    obtain ⟨hes, -⟩ := List.append_inj' hsplit rfl
    have hmem : x ∈ es := by
      rw [hes]
      exact List.mem_append_cons_self
    rw [h x hmem] at hx
    cases hx

theorem countP_of_forward {es : List AuditEntry} (h : ∀ y ∈ es, y.action.isTerminal = false) :
    es.countP (·.action.isTerminal) = 0 := by
  refine List.countP_eq_zero.mpr fun x hx => ?_
  rw [h x hx]
  exact Bool.false_ne_true

theorem closings_le {status : SessionStatus} {es : List AuditEntry} (h : Ended status es) :
    es.countP (·.action.isTerminal) ≤ 1 := by
  cases h with
  | active h | rollbackFailed h | completing h =>
    exact (countP_of_forward h).trans_le (Nat.zero_le 1)
  | committed h _ | rolledBack h _ =>
    rw [List.countP_append, countP_of_forward h, Nat.zero_add]
    exact List.countP_le_length

theorem after_eq_nil {status : SessionStatus} {es before after : List AuditEntry}
    {e : AuditEntry} (h : Ended status es) (hsplit : es = before ++ e :: after)
    (he : e.action.isTerminal = true) : after = [] := by
  cases h with
  | active h | rollbackFailed h | completing h =>
    have hmem : e ∈ es := by
      rw [hsplit]
      exact List.mem_append_cons_self
    rw [h e hmem] at he
    cases he
  | committed h _ | rolledBack h _ => exact after_eq_nil_of_forward h hsplit he

/-- A trail that was closed by a recovery at the place `p`, with the entries `late` that the session
has written since.  Their places begin with the one that is taken. -/
structure Overtaken (p : Nat) (old : List AuditEntry) (e : AuditEntry) (late : List AuditEntry)
    (s : Session) : Prop where
  old_forward : ∀ x ∈ old, x.action.isTerminal = false
  old_places : old.map (·.seq) = List.range' 1 old.length
  place : p = old.length + 1
  closing : e.action = .sessionRollback
  owner : e.owner = s.params.owner
  closing_place : e.seq = p
  late_places : late.map (·.seq) = List.range' p late.length
  nextSeq : s.nextSeq = p + late.length
  /-- The session may have committed since, but cannot have rolled back. -/
  late_closed : late.countP (·.action.isTerminal) = if s.status = .committed then 1 else 0

/-- **How a session and its trail stand**: they agree, or the session was taken back. -/
inductive Standing (s : Session) (es : List AuditEntry) : Option Nat → Prop
  | own (h : Chronicle s es) : Standing s es none
  | overtaken {p : Nat} {old late : List AuditEntry} {e : AuditEntry}
      (hes : es = old ++ e :: late) (h : Overtaken p old e late s) : Standing s es (some p)

namespace Overtaken

variable {p : Nat} {old late : List AuditEntry} {e x : AuditEntry} {s : Session}

/-- A session that was just taken back: its chronicle ends with the entry of the recovery. -/
theorem of_chronicle {es : List AuditEntry} (h : Chronicle s es)
    (hf : ∀ x ∈ es, x.action.isTerminal = false) (he : e.action = .sessionRollback)
    (ho : e.owner = s.params.owner) (hseq : e.seq = s.nextSeq) :
    Overtaken s.nextSeq es e [] s where
  old_forward := hf
  old_places := h.places
  place := h.nextSeq
  closing := he
  owner := ho
  closing_place := hseq
  late_places := rfl
  nextSeq := rfl
  late_closed := by
    have hopen := h.ended.newest.2.2.mpr hf
    have hne : s.status ≠ .committed := by
      rintro hs
      rw [hs] at hopen
      rcases hopen with hs | hs | hs <;> cases hs
    simp [hne]

/-- **One more entry** of the session, after its trail was closed. -/
theorem write (h : Overtaken p old e late s) (hs : s.status = .active) (hx : x.seq = s.nextSeq)
    {s' : Session} (hps : s'.params = s.params) (hnext : s'.nextSeq = s.nextSeq + 1)
    (hclosed : x.action.isTerminal = true ↔ s'.status = .committed) :
    Overtaken p old e (late ++ [x]) s' where
  old_forward := h.old_forward
  old_places := h.old_places
  place := h.place
  closing := h.closing
  owner := by rw [hps]; exact h.owner
  closing_place := h.closing_place
  late_places := by
    rw [List.map_append, h.late_places, List.length_append, List.length_singleton,
      List.range'_1_concat, List.map_singleton, hx, h.nextSeq]
  nextSeq := by
    rw [hnext, h.nextSeq, List.length_append, List.length_singleton, Nat.add_assoc]
  late_closed := by
    have hnone : late.countP (·.action.isTerminal) = 0 := by
      rw [h.late_closed, hs]
      rfl
    rw [List.countP_append, hnone, List.countP_singleton, Nat.zero_add]
    by_cases hc : s'.status = .committed
    · rw [if_pos hc, if_pos (hclosed.mpr hc)]
    · rw [if_neg hc, if_neg fun ht => hc (hclosed.mp ht)]

/-- A session that is broken off, or whose rollback cannot be written, writes nothing. -/
theorem failed (h : Overtaken p old e late s) (hs : s.status = .active) {status : SessionStatus}
    (hne : status ≠ .committed) : Overtaken p old e late { s with status := status } where
  old_forward := h.old_forward
  old_places := h.old_places
  place := h.place
  closing := h.closing
  owner := h.owner
  closing_place := h.closing_place
  late_places := h.late_places
  nextSeq := h.nextSeq
  late_closed := by
    rw [h.late_closed, hs, if_neg nofun, if_neg hne]

theorem terminal (h : Overtaken p old e late s) : e.action.isTerminal = true := by
  rw [h.closing]
  rfl

/-- **Written since** is written at a place that is taken. -/
theorem written_iff (h : Overtaken p old e late s) : s.nextSeq = p ↔ late = [] := by
  rw [h.nextSeq, ← List.length_eq_zero_iff]
  omega

theorem places_nodup_iff (h : Overtaken p old e late s) :
    ((old ++ e :: late).map (·.seq)).Nodup ↔ late = [] := by
  constructor
  · intro hd
    rcases late with _ | ⟨x, late⟩
    · rfl
    · -- the first entry since has the place of the recovery's own
      have hx : x.seq = e.seq := by
        have hp := h.late_places
        rw [List.map_cons, List.length_cons, List.range'_succ, List.cons.injEq] at hp
        rw [hp.1, h.closing_place]
      rw [List.map_append, List.map_cons, List.map_cons, hx] at hd
      have htwice := (List.nodup_append.mp hd).2.1
      exact absurd List.mem_cons_self (List.nodup_cons.mp htwice).1
  · rintro rfl
    have hall : (old ++ [e]).map (·.seq) = List.range' 1 (old.length + 1) := by
      rw [List.map_append, h.old_places, List.map_singleton, h.closing_place, h.place,
        List.range'_1_concat, Nat.add_comm]
    rw [hall]
    exact List.nodup_range'

/-- Entries of which one closes the session are followed by none exactly if it is the last. -/
theorem last_iff (h : Overtaken p old e late s) :
    (∀ before x after, old ++ e :: late = before ++ x :: after → x.action.isTerminal = true →
      after = []) ↔ late = [] := by
  constructor
  · intro hlast
    exact hlast old e late rfl h.terminal
  · rintro rfl before x after hsplit hx
    exact after_eq_nil_of_forward h.old_forward hsplit hx

theorem closings (h : Overtaken p old e late s) :
    (old ++ e :: late).countP (·.action.isTerminal) =
      if s.status = .committed then 2 else 1 := by
  rw [List.countP_append, countP_of_forward h.old_forward, List.countP_cons, h.late_closed,
    if_pos h.terminal]
  split <;> rfl

end Overtaken

/-! ## 4. Every step -/

section Step

variable {s s' : Session} {a a' : Archive} {taken : Option Nat}

/-- What a session that was taken back still does: it may write on in memory, but not in the
database, and it cannot be rolled back. -/
theorem standing_overtaken {p : Nat} {old late : List AuditEntry} {e : AuditEntry} {act : Action}
    {r : Except CurationError ActionOutcome}
    (hes : a.store.entriesOf s.params.session = old ++ e :: late)
    (h : Overtaken p old e late s) (hp : Performed s a act (r, s', a')) :
    s'.params = s.params ∧ Standing s' (a'.store.entriesOf s.params.session) (some p) ∧
      (a.backend = .database → s.nextSeq = p → s'.nextSeq = p) := by
  have he : e ∈ a.store.trail ∧ e.session = s.params.session := by
    refine Store.mem_entriesOf.mp ?_
    rw [hes]
    exact List.mem_append_cons_self
  -- an entry at the place that is taken cannot have been written to the database
  have hrefused : ∀ {f : Counters → Counters} {ops : List WriteOp} {x : AuditEntry},
      Archive.Wrote f ops a a' → .appendAudit x ∈ ops → x.session = s.params.session →
      x.seq = s.nextSeq → a.backend = .database → s.nextSeq ≠ p := by
    intro f ops x hw hx hs hseq hb hn
    obtain ⟨t, ht⟩ := hw.written
    rw [hb] at ht
    refine ht.place_free hx e he.1 (he.2.trans hs.symm) ?_
    rw [h.closing_place, hseq, hn]
  cases hp with
  | refused _ hst =>
    rw [hst.store]
    exact ⟨rfl, .overtaken hes h, fun _ hn => hn⟩
  | found _ hst =>
    rw [hst.store]
    exact ⟨rfl, .overtaken hes h, fun _ hn => hn⟩
  | @forward _ _ c eid t _ hs hf hw =>
    have hx := List.mem_append_right c.ops
      (List.mem_singleton_self (WriteOp.appendAudit (s.entry eid t c.action c.subject c.payload)))
    refine ⟨rfl, ?_, fun hb hn => absurd hn (hrefused hw hx rfl rfl hb)⟩
    rw [entriesOf_of_wrote hw (hf.appended _) rfl, hes, List.append_assoc, List.cons_append]
    refine .overtaken rfl (h.write hs rfl rfl rfl ?_)
    have hforward : c.action.isTerminal = false := hf.compensable
    simp [entry, AuditEntry.make, hforward, recorded, hs]
  | committed hs hb hm hv hw =>
    refine ⟨rfl, ?_, fun hb hn => absurd hn (hrefused hw List.mem_cons_self rfl rfl hb)⟩
    rw [entriesOf_of_wrote hw rfl rfl, hes, List.append_assoc, List.cons_append]
    exact .overtaken rfl (h.write hs rfl rfl rfl (by simp [entry, AuditEntry.make, closed,
      AuditAction.isTerminal]))
  | rolledBack hs hb hm hv hu hw =>
    -- the session would have to undo the entry that closed it
    have hown : e ∈ s.ownTrail a.store := by
      exact List.mem_filter.mpr ⟨Store.mem_forSession.mpr he, by simp [h.owner]⟩
    have hforward := AuditEntry.forward_of_unwind hu e hown
    rw [h.terminal] at hforward
    cases hforward
  | rollbackFailed hs hb hm hv hvain =>
    rw [hvain.store]
    exact ⟨rfl, .overtaken hes (h.failed hs (by simp)), fun _ hn => hn⟩
  | overflowed hs hb hm hst =>
    rw [hst.store]
    exact ⟨rfl, .overtaken hes (h.failed hs (by simp)), fun _ hn => hn⟩

/-- **Every action** leaves the session and its trail in one of the two ways. -/
theorem standing_performed {act : Action} {r : Except CurationError ActionOutcome}
    (h : Standing s (a.store.entriesOf s.params.session) taken)
    (hdb : a.backend = .database → ∀ p, taken = some p → s.nextSeq = p)
    (hp : Performed s a act (r, s', a')) :
    s'.params = s.params ∧ Standing s' (a'.store.entriesOf s.params.session) taken ∧
      (a.backend = .database → ∀ p, taken = some p → s'.nextSeq = p) := by
  generalize hes : a.store.entriesOf s.params.session = es at h
  cases h with
  | own h =>
    obtain ⟨hps, hc⟩ := chronicle_performed (hes ▸ h) hp
    exact ⟨hps, .own hc, nofun⟩
  | overtaken hsplit h =>
    obtain ⟨hps, hst, hkept⟩ := standing_overtaken (hes.trans hsplit) h hp
    refine ⟨hps, hst, fun hb p hp => ?_⟩
    cases hp
    exact hkept hb (hdb hb _ rfl)

/-- **An attempt that does not take the session back** writes nothing. -/
theorem quiet_of_attempt {c : Config} {owner : OwnerId} {sid : SessionId}
    {r : Except CurationError Recovered} (hc : a.answer (reconcile c owner sid) = (r, a'))
    (hr : ∀ n stats, r ≠ .ok (.rolledBack n stats)) : Archive.Quiet a a' := by
  have h := reconciled c owner sid a
  rw [hc] at h
  cases h with
  | refused _ hst | alreadyClosed _ _ hst | overflowed _ _ hst => exact hst.quiet
  | rolledBack _ _ _ _ _ _ => exact absurd rfl (hr _ _)
  | failed _ hv => exact hv.quiet

/-- **An attempt that takes the session back** closes its trail, which was open. -/
theorem standing_recovered {c : Config} {n : Nat} {stats : SessionStats}
    (h : Standing s (a.store.entriesOf s.params.session) taken)
    (hc : a.answer (reconcile c s.params.owner s.params.session) =
      (.ok (.rolledBack n stats), a')) :
    a'.backend = a.backend ∧
      Standing s (a'.store.entriesOf s.params.session) (some s.nextSeq) := by
  have hr := reconciled c s.params.owner s.params.session a
  rw [hc] at hr
  cases hr with
  | @rolledBack undo post th eid jid t jt time _ hn ho hf hm hu hw =>
    have hforward : ∀ e ∈ a.store.entriesOf s.params.session, e.action.isTerminal = false :=
      fun e he => hf e ((Store.forSession_perm _ _).mem_iff.mpr he)
    have hes := entriesOf_of_wrote (s := s) hw (appended_of_unwind hu _) rfl
    refine ⟨hw.backend, ?_⟩
    cases h with
    | own h =>
      have hplace : placeAfter (a.store.forSession s.params.session) = s.nextSeq := by
        rw [Store.forSession_eq_reverse h.rising, h.placeAfter_reverse]
      rw [hes]
      exact .overtaken rfl (.of_chronicle h hforward rfl rfl hplace)
    | @overtaken p old late e hsplit h =>
      -- a trail that was closed once is not taken back again
      have he : e ∈ a.store.entriesOf s.params.session := by
        rw [hsplit]
        exact List.mem_append_cons_self
      have hterm := hforward e he
      rw [h.terminal] at hterm
      cases hterm

end Step

/-! ## 5. Every run -/

variable {c : Config} {owner : OwnerId} {s₀ s : Session} {a₀ a₁ a : Archive} {taken : Option Nat}

/-- Nothing was written since the session was taken back, if it was. -/
def Unwritten (taken : Option Nat) (s : Session) : Prop :=
  ∀ p, taken = some p → s.nextSeq = p

/-- What holds in every state of a contest. -/
structure Contested (s₀ : Session) (b : Backend) (taken : Option Nat) (s : Session)
    (a : Archive) : Prop where
  params : s.params = s₀.params
  backend : a.backend = b
  standing : Standing s (a.store.entriesOf s₀.params.session) taken
  /-- The database does not take an entry at a place that is taken. -/
  unwritten : b = .database → Unwritten taken s

namespace Contested

variable {b : Backend} {a' : Archive} {s' : Session}

theorem quiet (h : Contested s₀ b taken s a) (hq : Archive.Quiet a a') :
    Contested s₀ b taken s a' :=
  ⟨h.params, hq.backend.trans h.backend, hq.store ▸ h.standing, h.unwritten⟩

theorem aside (h : Contested s₀ b taken s a) (hs : Archive.Aside s₀.params.session a a') :
    Contested s₀ b taken s a' :=
  ⟨h.params, hs.backend.trans h.backend, hs.entries ▸ h.standing, h.unwritten⟩

theorem performed {act : Action} {r : Except CurationError ActionOutcome}
    (h : Contested s₀ b taken s a) (hp : Performed s a act (r, s', a')) :
    Contested s₀ b taken s' a' := by
  obtain ⟨hps, hb, hst, hun⟩ := h
  rw [← hps] at hst
  obtain ⟨hps', hst', hun'⟩ := standing_performed hst (fun hdb => hun (hb ▸ hdb)) hp
  rw [hps] at hst'
  exact ⟨hps'.trans hps, hp.backend.trans hb, hst', fun hdb => hun' (hb.trans hdb)⟩

/-- **Every call.** -/
theorem call (h : Contested s₀ b taken s a) (call : Call) :
    Contested s₀ b taken (call.run s a).1 (call.run s a).2 := by
  obtain ⟨a₁, a₂, hq₁, hq₂, ⟨hs, rfl⟩ | ⟨act, r, hp, -⟩⟩ := call_cases call s a
  · rw [hs]
    exact (h.quiet hq₁.toQuiet).quiet hq₂.toQuiet
  · exact ((h.quiet hq₁.toQuiet).performed hp).quiet hq₂.toQuiet

/-- **Every recovery.** -/
theorem recovered {c : Config} {n : Nat} {stats : SessionStats} (h : Contested s₀ b taken s a)
    (hc : a.answer (reconcile c s₀.params.owner s₀.params.session) =
      (.ok (.rolledBack n stats), a')) : Contested s₀ b (some s.nextSeq) s a' := by
  obtain ⟨hps, hb, hst, -⟩ := h
  rw [← hps] at hst hc
  obtain ⟨hb', hst'⟩ := standing_recovered hst hc
  rw [hps] at hst'
  refine ⟨hps, hb'.trans hb, hst', fun _ p hp => ?_⟩
  cases hp
  rfl

end Contested

/-- **Every state of a contest.** -/
theorem contested_of_contest (hb : Begins c owner a₀ s₀ a₁)
    (hr : Contest owner s₀ a₁ taken s a) : Contested s₀ a₀.backend taken s a := by
  obtain ⟨hb, hst⟩ := hb.begun
  induction hr with
  | start =>
    refine ⟨rfl, hst.backend, ?_, fun _ => nofun⟩
    rw [hst.store, hb.entriesOf]
    exact .own (.start hb.nextSeq hb.stats hb.status)
  | call call _ ih => exact ih.call call
  | attempt _ hc hr ih => exact ih.quiet (quiet_of_attempt hc hr)
  | recovered _ hc ih =>
    rw [← hb.owner] at hc
    exact ih.recovered hc
  | aside _ hs ih => exact ih.aside hs

/-- **A closed trail stays closed exactly if the session writes nothing after it was taken back.**
Otherwise two entries have the same place and one follows the entry that closed the trail; if the
session commits, two entries close it.  The database never lets it come to that. -/
theorem trail_closed_iff (hb : Begins c owner a₀ s₀ a₁) (hr : Contest owner s₀ a₁ taken s a) :
    let es := a.store.entriesOf s₀.params.session
    ((es.map (·.seq)).Nodup ↔ Unwritten taken s) ∧
    ((∀ before e after, es = before ++ e :: after → e.action.isTerminal = true → after = []) ↔
      Unwritten taken s) ∧
    (es.countP (·.action.isTerminal) ≤ 1 ↔ ¬(taken.isSome ∧ s.status = .committed)) ∧
    (a₀.backend = .database → Unwritten taken s) := by
  obtain ⟨-, -, hst, hdb⟩ := contested_of_contest hb hr
  dsimp only
  generalize a.store.entriesOf s₀.params.session = es at hst ⊢
  cases hst with
  | own h =>
    have hun : Unwritten none s := nofun
    have hplaces : (es.map (·.seq)).Nodup := by
      rw [h.places]
      exact List.nodup_range'
    refine ⟨iff_of_true hplaces hun, iff_of_true (fun _ _ _ => after_eq_nil h.ended) hun,
      iff_of_true (closings_le h.ended) ?_, hdb⟩
    rintro ⟨hsome, -⟩
    cases hsome
  | @overtaken p old late e hes h =>
    have hun : Unwritten (some p) s ↔ late = [] := by
      rw [← h.written_iff]
      exact ⟨fun hu => hu p rfl, fun hp q hq => Option.some.inj hq ▸ hp⟩
    subst hes
    refine ⟨h.places_nodup_iff.trans hun.symm, h.last_iff.trans hun.symm, ?_, hdb⟩
    rw [h.closings]
    split
    · next hc => exact iff_of_false (by decide) fun hn => hn ⟨rfl, hc⟩
    · next hc => exact iff_of_true (by decide) fun hn => hc hn.2

theorem trail_closed_iff_reopened :
    ∃ s₀ a₁ taken s a, Begins .standard ⟨"o"⟩ .oneNote s₀ a₁ ∧
      Contest ⟨"o"⟩ s₀ a₁ taken s a ∧
      ¬((a.store.entriesOf s₀.params.session).map (·.seq)).Nodup := by
  -- the memory is deleted, recovered and deleted again
  let again : Call := .perform (.delete ⟨"m"⟩)
  have h : Archive.oneNote.yields (beginAs .standard ⟨"o"⟩ ⟨"s"⟩) (fun s a =>
      (again.run s a).2.yields (reconcile .standard ⟨"o"⟩ s.params.session) fun r a' =>
        decide (r = .rolledBack 1 (SessionStats.none.record .delete) ∧
          (again.run s a).1.nextSeq = 2 ∧
          (again.run (again.run s a).1 a').1.nextSeq = 3)) = true := by decide +kernel
  obtain ⟨s₀, a₁, h, hn⟩ := Archive.exists_of_yields h
  obtain ⟨r, a₂, h₂, hn⟩ := Archive.exists_of_yields hn
  obtain ⟨rfl, hp, hq⟩ := of_decide_eq_true hn
  have hb : Begins .standard ⟨"o"⟩ .oneNote s₀ a₁ := .named ⟨"s"⟩ h
  have hr₁ : Contest ⟨"o"⟩ s₀ a₁ none _ _ := .call again .start
  have hr := (hr₁.recovered h₂).call again
  rw [hp] at hr
  refine ⟨s₀, a₁, _, _, _, hb, hr, fun hd => ?_⟩
  have hun := (trail_closed_iff hb hr).1.mp hd 2 rfl
  rw [hq] at hun
  cases hun

end Session
end Curation
