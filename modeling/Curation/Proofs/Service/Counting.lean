/-
# Counters and the trail

A forward action is counted by the call that asked for it, a commit and a rollback where they are
written, and a trip of the breaker before it is known whether the rollback can be.  No counter is
computed from the trail.  That they agree with it all the same is seen from outside: an observer
who is told which calls complete a session, and who looks at what each step appends to the trail,
knows the counters.

`Observed` is a run of a service with what was seen of each step, and `Tallied` says that the
counters have gained what was seen.  One kind of call is left out of the runs: a forward action
that is performed directly writes its entry and is not counted.
-/
import Curation.Proofs.Service.Steps
import Curation.Proofs.Session.Faithful

namespace Curation

open Archive

/-! ## 1. What is seen of a step -/

/-- **What is seen of a step** of a service. -/
structure Event where
  /-- It was a call that completes a session. -/
  completes : Bool
  /-- It was refused as a rollback that could not be written. -/
  unwritten : Bool
  /-- What it appended to the trail. -/
  appended : List AuditEntry

/-- What was appended to the trail of an archive until it became another one. -/
def Archive.appended (a a' : Archive) : List AuditEntry :=
  a'.store.trail.drop a.store.trail.length

/-- Whether an answer is the refusal of a rollback that could not be written. -/
def isUnwritten {α : Type} : Except CurationError α → Bool
  | .error (.rollbackFailed _ _) => true
  | _ => false

/-- Whether an action completes a session. -/
def Action.isCompletion : Action → Bool
  | .complete _ => true
  | _ => false

namespace Session

/-- Whether a call asks for an action that completes its session; one that asks for nothing that can
be read does not. -/
def Call.completes : Call → Bool
  | .perform act | .dispatch act => act.isCompletion
  | .invoke call => (Action.decode call).toOption.any Action.isCompletion
  | .invokeNamed name params =>
    ((ToolCall.named? name params).bind fun call => (Action.decode call).toOption).any
      Action.isCompletion
  | .finishExpired => true

/-- Whether a call is answered by the refusal of a rollback that could not be written. -/
def Call.unwritten (s : Session) (a : Archive) : Call → Bool
  | .perform act => isUnwritten (s.answer a (Session.perform act)).1
  | .dispatch act => isUnwritten (s.answer a (Session.dispatch act)).1
  | .invoke call => isUnwritten (s.answer a (ToolCall.invoke call)).1
  | .invokeNamed name params => isUnwritten (s.answer a (ToolCall.invokeNamed name params)).1
  | .finishExpired => isUnwritten (s.answer a Session.finishExpired).1

/-- What is seen of a call on a session. -/
def Call.event (s : Session) (a : Archive) (call : Call) : Event where
  completes := call.completes
  unwritten := call.unwritten s a
  appended := a.appended (call.run s a).2

/-- Any call but a forward action that is performed directly. -/
def Call.IsCounted : Call → Prop
  | .perform act => act.isMutating = false
  | _ => True

end Session

/-- What is seen of an attempt at recovering a session. -/
def Recovery.event (c : Config) (owner : OwnerId) (session : SessionId) (a : Archive) : Event where
  completes := false
  unwritten := isUnwritten (a.answer (reconcile c owner session)).1
  appended := a.appended (a.answer (reconcile c owner session)).2

/-! ## 2. Runs that are observed -/

/-- Nothing was appended to the trail, and nothing was counted of a session. -/
structure Archive.Uncounted (a a' : Archive) : Prop where
  trail : a'.store.trail = a.store.trail
  applied : a'.counters.actionsApplied = a.counters.actionsApplied
  committed : a'.counters.sessionsCommitted = a.counters.sessionsCommitted
  rolledBack : a'.counters.sessionsRolledBack = a.counters.sessionsRolledBack
  tripped : a'.counters.breakerTrips = a.counters.breakerTrips

/-- **A run of a service, and what was seen of it.**  Sessions of any owners are begun, called,
completed and dropped, and sessions are recovered, in any order; each of these may be refused or
fail.  In between anything may happen that neither appends to the trail nor is counted of a
session: faults are armed, memories are added, thresholds are set. -/
inductive Service.Observed (w₀ : Service) : List Event → Service → Prop
  | start : Observed w₀ [] w₀
  | begin {c : Config} {owner : OwnerId} {log : List Event} {a a' : Archive} {ss : List Session}
      {r : Except CurationError Session} (sid : Option SessionId) (h : Observed w₀ log ⟨a, ss⟩)
      (hb : a.answer (Session.beginFor c owner sid) = (r, a')) :
      Observed w₀ log ⟨a', ss ++ r.toOption.toList⟩
  | call {log : List Event} {a : Archive} {before after : List Session} {s : Session}
      (call : Session.Call) (h : Observed w₀ log ⟨a, before ++ s :: after⟩) (hc : call.IsCounted) :
      Observed w₀ (log ++ [call.event s a])
        ⟨(call.run s a).2, before ++ (call.run s a).1 :: after⟩
  | drop {log : List Event} {a : Archive} {before after : List Session} {s : Session}
      (h : Observed w₀ log ⟨a, before ++ s :: after⟩) : Observed w₀ log ⟨a, before ++ after⟩
  | reconcile {log : List Event} {a : Archive} {ss : List Session} (c : Config) (owner : OwnerId)
      (session : SessionId) (h : Observed w₀ log ⟨a, ss⟩) :
      Observed w₀ (log ++ [Recovery.event c owner session a])
        ⟨(a.answer (Recovery.reconcile c owner session)).2, ss⟩
  | aside {log : List Event} {a a' : Archive} {ss : List Session} (h : Observed w₀ log ⟨a, ss⟩)
      (hu : Uncounted a a') : Observed w₀ log ⟨a', ss⟩

/-! ## 3. Counters that have gained what was seen -/

namespace Event

/-- The entries that a log tells of. -/
def entries (log : List Event) : List AuditEntry := log.flatMap (·.appended)

/-- What a log tells of the calls that complete a session. -/
def completions (log : List Event) : List Event := log.filter (·.completes)

@[simp] theorem entries_nil : entries [] = [] := rfl

@[simp] theorem entries_singleton (ev : Event) : entries [ev] = ev.appended := by
  simp [entries]

@[simp] theorem entries_append (log log' : List Event) :
    entries (log ++ log') = entries log ++ entries log' := List.flatMap_append

@[simp] theorem completions_append (log log' : List Event) :
    completions (log ++ log') = completions log ++ completions log' := List.filter_append ..

end Event

/-- **The counters have gained what was seen**, and so has the trail. -/
structure Archive.Tallied (log : List Event) (a a' : Archive) : Prop where
  trail : a'.store.trail = a.store.trail ++ Event.entries log
  applied : a'.counters.actionsApplied = a.counters.actionsApplied +
    (Event.entries log).countP (·.action.isCompensable)
  committed : a'.counters.sessionsCommitted = a.counters.sessionsCommitted +
    (Event.entries log).countP (·.action = .sessionComplete)
  rolledBack : a'.counters.sessionsRolledBack = a.counters.sessionsRolledBack +
    (Event.entries log).countP (·.action = .sessionRollback)
  tripped : a'.counters.breakerTrips = a.counters.breakerTrips +
    ((Event.entries (Event.completions log)).countP (·.action = .sessionRollback) +
      (Event.completions log).countP (·.unwritten))

/-- What the counters gain with an entry, by whether a completion has written it. -/
def Counters.gained (completes : Bool) : AuditAction → Counters → Counters
  | .sessionComplete => committed
  | .sessionRollback => if completes then rolledBack ∘ tripped else rolledBack
  | _ => applied

namespace Archive

variable {a a₁ a' : Archive} {log log' : List Event}

/-- A batch that was handed over in vain is not seen, if nothing was counted. -/
theorem InVain.uncounted {f : Counters → Counters} {P : List WriteOp → Prop} (h : InVain f P a a')
    (hf : ∀ n, (f n).actionsApplied = n.actionsApplied ∧
      (f n).sessionsCommitted = n.sessionsCommitted ∧
      (f n).sessionsRolledBack = n.sessionsRolledBack ∧ (f n).breakerTrips = n.breakerTrips) :
    Uncounted a a' := by
  obtain ⟨ha, hc, hr, ht⟩ := hf a.counters
  rw [← h.counters] at ha hc hr ht
  exact ⟨by rw [h.store], ha, hc, hr, ht⟩

theorem Still.uncounted (h : Still a a') : Uncounted a a' :=
  h.inVain.uncounted (P := fun _ => True) fun _ => ⟨rfl, rfl, rfl, rfl⟩

theorem Uncounted.symm (h : Uncounted a a') : Uncounted a' a :=
  ⟨h.trail.symm, h.applied.symm, h.committed.symm, h.rolledBack.symm, h.tripped.symm⟩

theorem Uncounted.tallied (h : Uncounted a a') : Tallied [] a a' where
  trail := by simpa using h.trail
  applied := h.applied
  committed := h.committed
  rolledBack := h.rolledBack
  tripped := h.tripped

/-- **What was seen of two runs** of which one follows the other. -/
theorem Tallied.trans (h : Tallied log a a₁) (h' : Tallied log' a₁ a') :
    Tallied (log ++ log') a a' where
  trail := by rw [h'.trail, h.trail, Event.entries_append, List.append_assoc]
  applied := by rw [h'.applied, h.applied, Event.entries_append, List.countP_append, Nat.add_assoc]
  committed := by
    rw [h'.committed, h.committed, Event.entries_append, List.countP_append, Nat.add_assoc]
  rolledBack := by
    rw [h'.rolledBack, h.rolledBack, Event.entries_append, List.countP_append, Nat.add_assoc]
  tripped := by
    rw [h'.tripped, h.tripped, Event.completions_append, Event.entries_append,
      List.countP_append, List.countP_append]
    omega

theorem appended_of_trail {new : List AuditEntry}
    (h : a'.store.trail = a.store.trail ++ new) : a.appended a' = new := by
  rw [appended, h, List.drop_left]

/-- **A step that appends nothing and counts nothing**, if it is not a completion whose rollback is
missing. -/
theorem Uncounted.seen (h : Uncounted a a') {completes unwritten : Bool}
    (hn : (completes && unwritten) = false) :
    Tallied [⟨completes, unwritten, a.appended a'⟩] a a' := by
  have happ : a.appended a' = [] := appended_of_trail (by simpa using h.trail)
  rw [happ]
  refine ⟨by simpa using h.trail, h.applied, h.committed, h.rolledBack, ?_⟩
  cases completes with
  | false => exact h.tripped
  | true =>
    obtain rfl : unwritten = false := hn
    exact h.tripped

/-- **A step that appends one entry**, and counts it. -/
theorem tallied_of_entry {completes : Bool} {e : AuditEntry}
    (ht : a'.store.trail = a.store.trail ++ [e])
    (hc : a'.counters = a.counters.gained completes e.action) :
    Tallied [⟨completes, false, a.appended a'⟩] a a' := by
  rw [appended_of_trail ht]
  constructor
  · simpa using ht
  all_goals
    rw [hc]
    cases ha : e.action <;> cases completes <;>
      simp [Event.completions, Counters.gained, Counters.applied, Counters.committed,
        Counters.rolledBack, Counters.tripped, AuditAction.isCompensable, AuditAction.isTerminal,
        ha]

/-- **A rollback that could not be written** has tripped the breaker all the same. -/
theorem tallied_of_unwritten (hs : a'.store = a.store)
    (hc : a'.counters = a.counters.tripped.rollbackFailed) :
    Tallied [⟨true, true, a.appended a'⟩] a a' := by
  have happ : a.appended a' = [] := appended_of_trail (by simp [hs])
  rw [happ]
  constructor <;>
    simp [hs, hc, Event.completions, Counters.tripped, Counters.rollbackFailed]

end Archive

/-! ## 4. Actions -/

theorem isUnwritten_of_ordinary {α : Type} {e : CurationError} (h : e.Ordinary) :
    isUnwritten (.error e : Except CurationError α) = false := by
  cases e with
  | rollbackFailed session reason => exact absurd (.rollbackFailed session reason) h
  | _ => rfl

@[simp] theorem isUnwritten_map {α β : Type} (f : α → β) (r : Except CurationError α) :
    isUnwritten (r.map f) = isUnwritten r := by
  cases r with
  | ok v => rfl
  | error e => cases e <;> rfl

@[simp] theorem isUnwritten_told (r : Except CurationError ActionOutcome) :
    isUnwritten (ToolCall.told r) = isUnwritten r := by
  cases r with
  | ok o => rfl
  | error e => cases e <;> rfl

namespace Session

variable {s s' : Session} {a a' : Archive} {act : Action}

/-- How a call ended is counted, but not of a session, unless it has changed something. -/
theorem uncounted_tally {α : Type} {mutating : Bool} {r : Except CurationError α}
    (h : mutating = false ∨ r.isOk = false) (a : Archive) :
    Uncounted a { a with counters := tally mutating r a.counters } := by
  cases r with
  | ok v =>
    obtain rfl : mutating = false := h.resolve_right nofun
    exact ⟨rfl, rfl, rfl, rfl, rfl⟩
  | error e =>
    cases hf : e.isFatal <;> constructor <;> simp [tally, hf, Counters.rejected]

/-- **Every end of an action is tallied**, once it is counted how the action ended. -/
theorem tallied_performed {r : Except CurationError ActionOutcome}
    (hp : Performed s a act (r, s', a')) :
    Tallied [⟨act.isCompletion, isUnwritten r, a.appended a'⟩] a
      { a' with counters := tally act.isMutating r a'.counters } := by
  cases hp with
  | refused he hv =>
    rw [isUnwritten_of_ordinary he]
    have hu := hv.uncounted fun _ => ⟨rfl, rfl, rfl, rfl⟩
    have h := hu.seen (Bool.and_false act.isCompletion)
    exact h.trans (uncounted_tally (.inr rfl) a').tallied
  | found hs hst => exact hst.uncounted.seen rfl
  | @forward _ o c _ _ _ hs hf hw =>
    have hcounters : tally act.isMutating (.ok o) a'.counters =
        a.counters.gained act.isCompletion c.action := by
      rw [hw.counters]
      cases hf <;> rfl
    have htrail : { a' with counters := tally act.isMutating (.ok o) a'.counters }.store.trail =
        a.store.trail ++ [_] := hw.trail (hf.appended _)
    exact tallied_of_entry htrail hcounters
  | committed hs hb hm hv hw => exact tallied_of_entry (hw.trail rfl) hw.counters
  | rolledBack hs hb hm hv hu hw =>
    exact tallied_of_entry (hw.trail (appended_of_unwind hu _)) hw.counters
  | rollbackFailed hs hb hm hv hvain => exact tallied_of_unwritten hvain.store hvain.counters
  | overflowed hs hb hm hst => exact hst.uncounted.seen rfl

/-! ## 5. Calls -/

/-- **A call is tallied**, as one that completes its session or as another. -/
def Tallies {α : Type} (s : Session) (a : Archive) (completes : Bool) (x : SessionM α) : Prop :=
  Tallied [⟨completes, isUnwritten (s.answer a x).1, a.appended (s.answer a x).2.2⟩] a
    (s.answer a x).2.2

/-- A call that leaves everything as it is. -/
theorem tallies_pure {α : Type} (s : Session) (a : Archive) (v : α) :
    Tallies s a false (pure v) :=
  (Still.refl a).uncounted.seen rfl

theorem tallies_dispatch (s : Session) (a : Archive) (act : Action) :
    Tallies s a act.isCompletion (dispatch act) := by
  have hp := performed s a act
  unfold Tallies
  rw [answer_dispatch]
  rcases h : s.answer a (perform act) with ⟨r, s', a'⟩
  rw [h] at hp
  exact tallied_performed hp

/-- An action that does not write forward is tallied although it is not counted. -/
theorem tallies_perform (s : Session) (a : Archive) (hm : act.isMutating = false) :
    Tallies s a act.isCompletion (perform act) := by
  have hp := performed s a act
  unfold Tallies
  rcases h : s.answer a (perform act) with ⟨r, s', a'⟩
  rw [h] at hp
  exact (tallied_performed hp).trans (uncounted_tally (.inl hm) a').symm.tallied

theorem tallies_complete (s : Session) (a : Archive) (summary : String) :
    Tallies s a true (complete summary) := by
  have hm : (Action.complete summary).isMutating = false := rfl
  have h := tallies_perform s a hm
  unfold Tallies at h ⊢
  rw [answer_complete, isUnwritten_map] at h
  exact h

theorem tallies_finishExpired (s : Session) (a : Archive) : Tallies s a true finishExpired := by
  unfold Tallies
  rcases answer_finishExpired s a with ⟨a', h, hst⟩ | ⟨summary, a₁, hst, h⟩
  · rw [h]
    exact hst.uncounted.seen rfl
  · have hsame : a.appended = a₁.appended := by
      funext a'
      rw [appended, appended, hst.store]
    rw [h, isUnwritten_map, hsame]
    exact hst.uncounted.tallied.trans (tallies_complete s a₁ summary)

theorem tallies_invoke (s : Session) (a : Archive) (call : Json) :
    Tallies s a ((Action.decode call).toOption.any Action.isCompletion) (ToolCall.invoke call) := by
  rcases hd : Action.decode call with cause | act
  · unfold ToolCall.invoke
    rw [hd]
    exact tallies_pure s a _
  · unfold Tallies
    rw [ToolCall.answer_invoke_of_decode hd, isUnwritten_told]
    exact tallies_dispatch s a act

theorem tallies_invokeNamed (s : Session) (a : Archive) (name : String) (params : Json) :
    Tallies s a (((ToolCall.named? name params).bind fun call =>
      (Action.decode call).toOption).any Action.isCompletion)
      (ToolCall.invokeNamed name params) := by
  rw [ToolCall.invokeNamed_eq]
  rcases ToolCall.named? name params with _ | call
  · exact tallies_pure s a _
  · exact tallies_invoke s a call

/-- **Every call that is counted is tallied.** -/
theorem tallied_call (s : Session) (a : Archive) {call : Call} (hc : call.IsCounted) :
    Tallied [call.event s a] a (call.run s a).2 := by
  cases call with
  | perform act => exact tallies_perform s a hc
  | dispatch act => exact tallies_dispatch s a act
  | invoke call => exact tallies_invoke s a call
  | invokeNamed name params => exact tallies_invokeNamed s a name params
  | finishExpired => exact tallies_finishExpired s a

end Session

/-- **An attempt at recovering a session** is tallied. -/
theorem Recovery.tallied_reconcile (c : Config) (owner : OwnerId) (session : SessionId)
    (a : Archive) :
    Tallied [event c owner session a] a (a.answer (reconcile c owner session)).2 := by
  have hr := reconciled c owner session a
  unfold event
  rcases h : a.answer (reconcile c owner session) with ⟨r, a'⟩
  rw [h] at hr
  cases hr with
  | refused he hst => exact hst.uncounted.seen rfl
  | alreadyClosed ho hf hst => exact hst.uncounted.seen rfl
  | rolledBack hn ho hf hm hu hw =>
    exact tallied_of_entry (hw.trail (appended_of_unwind hu _)) hw.counters
  | failed hm hv =>
    -- nothing has tripped: there is no breaker in a recovery
    exact (hv.uncounted fun _ => ⟨rfl, rfl, rfl, rfl⟩).seen rfl
  | overflowed hf hm hst => exact hst.uncounted.seen rfl

/-! ## 6. Runs -/

namespace Service

variable {w₀ w : Service} {log : List Event}

/-- **Every run is tallied.** -/
theorem Observed.tallied (h : Observed w₀ log w) : Tallied log w₀.archive w.archive := by
  induction h with
  | start => exact (Still.refl _).uncounted.tallied
  | begin sid _ hb ih =>
    have hst := Session.still_of_beginFor hb
    simpa using ih.trans hst.uncounted.tallied
  | call call _ hc ih => exact ih.trans (Session.tallied_call _ _ hc)
  | drop _ ih => exact ih
  | reconcile c owner session _ ih => exact ih.trans (Recovery.tallied_reconcile c owner session _)
  | aside _ hu ih => simpa using ih.trans hu.tallied

/-- **The counters agree with the trail**, in every state that a run can come to after they were
reset, whatever was refused and whatever could not be written on the way.  The trips of the breaker
are the rollbacks that completions appended, and those that they could not write. -/
theorem counters_agree (h : Observed w₀ log w) (h₀ : w₀.archive.counters = .zero) :
    let n := w.archive.counters
    let entries := Event.entries log
    let completions := Event.completions log
    w.archive.store.trail = w₀.archive.store.trail ++ entries ∧
    n.actionsApplied = entries.countP (·.action.isCompensable) ∧
    n.sessionsCommitted = entries.countP (·.action = .sessionComplete) ∧
    n.sessionsRolledBack = entries.countP (·.action = .sessionRollback) ∧
    n.breakerTrips = (Event.entries completions).countP (·.action = .sessionRollback) +
      completions.countP (·.unwritten) := by
  obtain ⟨htrail, happlied, hcommitted, hrolledBack, htripped⟩ := h.tallied
  rw [h₀] at happlied hcommitted hrolledBack htripped
  simp only [Counters.zero, Nat.zero_add] at happlied hcommitted hrolledBack htripped
  exact ⟨htrail, happlied, hcommitted, hrolledBack, htripped⟩

/-- A session cuts a memory down.  Its completion trips the breaker, and the batch of the rollback
is aborted; then the session is recovered. -/
theorem counters_agree_recovered :
    ∃ (a₀ : Archive) (log : List Event) (w : Service), Observed ⟨a₀, []⟩ log w ∧
      a₀.counters = .zero ∧
      log.map (fun e => (e.completes, e.unwritten, e.appended.map (·.action))) =
        [(false, false, [.update]), (true, true, []), (false, false, [.sessionRollback])] ∧
      let n := w.archive.counters
      (n.actionsApplied = 1 ∧ n.sessionsRolledBack = 1 ∧ n.breakerTrips = 1) ∧
      n.actionsApplied = (Event.entries log).countP (·.action.isCompensable) ∧
      n.sessionsRolledBack = (Event.entries log).countP (·.action = .sessionRollback) ∧
      n.breakerTrips =
        (Event.entries (Event.completions log)).countP (·.action = .sessionRollback) +
          (Event.completions log).countP (·.unwritten) := by
  let a₀ : Archive := .around .inMemory
    ⟨[.fresh ⟨"m"⟩ ⟨"o"⟩ "longer note" .core ⟨0, 0⟩], [], []⟩ (.steady ⟨0, 0⟩) 0
  let update : Session.Call := .dispatch (.update ⟨"m"⟩ "n")
  let complete : Session.Call := .invokeNamed "complete" (.obj [("summary", .str "done")])
  have h : a₀.yields (Session.beginFor .standard ⟨"o"⟩ (some ⟨"s"⟩)) (fun s a =>
      let r := update.run s a
      let a₁ := ((failBatchAt 0).run r.2).2
      let r' := complete.run r.1 a₁
      let last := Recovery.event .standard ⟨"o"⟩ ⟨"s"⟩ r'.2
      let n := (r'.2.answer (Recovery.reconcile .standard ⟨"o"⟩ ⟨"s"⟩)).2.counters
      decide ([update.event s a, complete.event r.1 a₁, last].map
          (fun e => (e.completes, e.unwritten, e.appended.map (·.action))) =
          [(false, false, [.update]), (true, true, []), (false, false, [.sessionRollback])] ∧
        n.actionsApplied = 1 ∧ n.sessionsRolledBack = 1 ∧ n.breakerTrips = 1)) = true := by
    decide +kernel
  obtain ⟨s, a, hbegin, h⟩ := exists_of_yields h
  obtain ⟨hlog, hcounters⟩ := of_decide_eq_true h
  have hupdated := @Observed.call ⟨a₀, []⟩ [] a [] [] s update (.begin _ .start hbegin) trivial
  have hu : Uncounted (update.run s a).2 ((failBatchAt 0).run (update.run s a).2).2 :=
    ⟨rfl, rfl, rfl, rfl, rfl⟩
  have harmed := hupdated.aside hu
  have hfailed := @Observed.call _ _ _ [] [] _ complete harmed trivial
  have hrecovered := hfailed.reconcile .standard ⟨"o"⟩ ⟨"s"⟩
  obtain ⟨-, happlied, -, hrolledBack, htripped⟩ := counters_agree hrecovered rfl
  refine ⟨a₀, _, _, hrecovered, rfl, ?_, ?_, happlied, hrolledBack, htripped⟩
  · exact hlog
  · dsimp only
    exact hcounters

end Service

end Curation
