/-
# A call that does not succeed changes nothing

A driver hears of a tool call in one of three ways: an answer that is ok, an answer that is not,
or an error of the call itself.  `Faithful` says what it may conclude from each.  Whatever is
refused, and at whatever op a batch was aborted, the store is as it was; and so is the session,
although it was completing in between, unless its rollback could not be written, which closes it and
does nothing else.  What is applied adds one entry to the trail and touches only the memories that
the entry names.

A driver hears nothing of a call that was broken off.  The store is as it was even then, but the
session is left completing.

No condition is put on the session or on the archive, so this holds in every state, whatever faults
are armed.
-/
import Curation.Proofs.Session.Chronicle

namespace Curation

/-! ## 1. What a batch leaves alone -/

/-- The memory that an op names or adds. -/
def WriteOp.touched? : WriteOp → Option MemoryId
  | .insertMemory m => some m.id
  | .setTombstone id _ | .setContent id _ | .setConstitutional id _ => some id
  | .appendAudit _ | .stampRefined _ _ => none

theorem WriteOp.touched_of_target {op : WriteOp} {id : MemoryId} (h : op.target? = some id) :
    op.touched? = some id := by
  cases op <;> simp_all [target?, touched?]

/-- **What no op of a batch touches** is found as it was, if it was there at all. -/
theorem Store.Written.memory?_of_untouched {b : Backend} {t : Instant} {ops : List WriteOp}
    {σ σ' : Store} (h : Store.Written b t ops σ σ') {id : MemoryId}
    (hid : ∀ op ∈ ops, op.touched? ≠ some id) : σ'.memory? id = σ.memory? id := by
  rcases hm : σ.memory? id with _ | m
  · -- it was not there: were it there now, the batch would have added it
    rcases hm' : σ'.memory? id with _ | m'
    · rfl
    · obtain ⟨m₀, ops', hins, rfl⟩ := h.mem_of_new hm hm'
      have hm₀ : m₀.id = id := by simpa using Store.memory?_id hm'
      exact absurd (congrArg some hm₀) (hid _ hins)
  · have hne : ∀ op ∈ ops, op.target? ≠ some m.id := by
      intro op hop ht
      rw [Store.memory?_id hm] at ht
      exact hid op hop (WriteOp.touched_of_target ht)
    rw [h.memory? hm, Memory.revised_of_ne b t hne]

/-- **A change touches what its entry names**, and nothing else. -/
theorem Forward.touched {rules : MemoryRules} {owner : OwnerId} {σ : Store} {act : Action}
    {o : ActionOutcome} {c : Change} (h : Forward rules owner σ act o c) :
    ∀ op ∈ c.ops, ∀ id, op.touched? = some id → id ∈ c.subject := by
  intro op hop id hid
  cases h with
  | update _ _ _ | delete _ _ | protect _ _ | unprotect _ _ =>
    obtain rfl := List.mem_singleton.mp hop
    cases hid
    exact List.mem_singleton_self _
  | consolidate _ _ _ _ =>
    rcases List.mem_cons.mp hop with rfl | hop
    · cases hid
      exact List.mem_append_right _ (List.mem_singleton_self _)
    · obtain ⟨m, hm, rfl⟩ := List.mem_map.mp hop
      cases hid
      exact List.mem_append_left _ (List.mem_map_of_mem hm)

namespace Session

variable {α β : Type}

/-! ## 2. Sessions that are over -/

section Closed

variable {s : Session} (a : Archive)

theorem answer_bind_error {a a' : Archive} {s s' : Session} {e : CurationError}
    {x : SessionM α} (h : s.answer a x = (.error e, s', a')) (f : α → SessionM β) :
    s.answer a (x >>= f) = (.error e, s', a') := by
  rw [answer_bind, h]

theorem answer_ensureOpen_of_closed (h : s.status ≠ .active) :
    s.answer a ensureOpen = (.error (.sessionClosed s.params.session s.status.name), s, a) := by
  unfold ensureOpen
  rw [answer_bind, answer_get]
  dsimp only
  rw [if_pos h, answer_throw]

theorem answer_ensureAccepting_of_closed (h : s.status ≠ .active) :
    s.answer a ensureAccepting =
      (.error (.sessionClosed s.params.session s.status.name), s, a) := by
  unfold ensureAccepting
  exact answer_bind_error (answer_ensureOpen_of_closed a h) _

/-- **A session that is over refuses every action**, before it looks at anything else. -/
theorem answer_perform_of_closed (h : s.status ≠ .active) (act : Action) :
    s.answer a (perform act) =
      (.error (.sessionClosed s.params.session s.status.name), s, a) := by
  cases act with
  | search _ | update _ _ | delete _ | consolidate _ _ | protect _ | unprotect _ =>
    exact answer_bind_error (answer_ensureAccepting_of_closed a h) _
  | complete summary =>
    have hc : s.answer a (complete summary) =
        (.error (.sessionClosed s.params.session s.status.name), s, a) :=
      answer_bind_error (answer_ensureOpen_of_closed a h) _
    exact answer_bind_error hc _

end Closed

end Session

namespace ToolCall

open Session

/-! ## 3. The answer to a call -/

/-- How the end of an action is told to the driver. -/
def told : Except CurationError ActionOutcome → Except CurationError Json
  | .ok o => .ok (okAnswer o)
  | .error e => if e.isFatal then .error e else .ok (errorAnswer e)

theorem answer_invoke_of_decode {call : Json} {act : Action} (h : Action.decode call = .ok act)
    (s : Session) (a : Archive) :
    s.answer a (invoke call) =
      (told (s.answer a (dispatch act)).1, (s.answer a (dispatch act)).2) := by
  unfold invoke
  rw [h]
  dsimp only
  rw [answer_mk_bind]
  rcases s.answer a (dispatch act) with ⟨r, s', a'⟩
  cases r with
  | ok o => rfl
  | error e =>
    unfold told
    cases he : e.isFatal <;> simp only [he] <;> rfl

/-- The call that a name and parameters make; parameters that are no members make none. -/
def named? (name : String) : Json → Option Json
  | .obj members => some (.obj (Json.setMember "action" (.str name) members))
  | .null => some (.obj [("action", .str name)])
  | _ => none

theorem invokeNamed_eq (name : String) (params : Json) :
    invokeNamed name params =
      match named? name params with
      | some call => invoke call
      | none => pure (errorAnswer (.validation (.badParameters name params))) := by
  cases params <;> rfl

/-! ## 4. What a driver may conclude -/

/-- **What a driver may conclude** from how a call ended; `asked` is the action that the call asks
for, if it is well formed. -/
structure Faithful (asked : Option Action) (s : Session) (a : Archive)
    (r : Except CurationError Json) (s' : Session) (a' : Archive) : Prop where
  /-- An answer that is not ok: nothing has changed. -/
  refused : ∀ j, r = .ok j → j.get? "ok" = some (.bool false) → s' = s ∧ a'.store = a.store
  /-- An error of the call: nothing has changed, unless a rollback could not be written. -/
  failed : ∀ e, r = .error e → e.isPanic = false →
    (∀ session reason, e ≠ .rollbackFailed session reason) → s' = s ∧ a'.store = a.store
  /-- A rollback that could not be written: only the state of the session has changed. -/
  unwritten : ∀ session reason, r = .error (.rollbackFailed session reason) →
    s' = { s with status := .rollbackFailed } ∧ a'.store = a.store
  /-- A panic, of which the driver does not hear: the session was completing. -/
  brokenOff : ∀ e, r = .error e → e.isPanic = true →
    s' = { s with status := .completing } ∧ a'.store = a.store
  /-- A session that is over says so. -/
  closed : ∀ act, asked = some act → s.status.isTerminal = true →
    r = .ok (errorAnswer (.sessionClosed s.params.session s.status.name))
  /-- What is applied adds one entry and touches only what the entry names. -/
  applied : ∀ act j, asked = some act → act.isMutating = true → r = .ok j →
    j.get? "ok" = some (.bool true) → ∃ e, a'.store.trail = a.store.trail ++ [e] ∧
      ∀ id, id ∉ e.subject → a'.store.memory? id = a.store.memory? id

/-- A call that asks for no action is refused before the session sees it. -/
theorem faithful_malformed (s : Session) (a : Archive) (e : CurationError) :
    Faithful none s a (.ok (errorAnswer e)) s a where
  refused := fun _ _ _ => ⟨rfl, rfl⟩
  failed := nofun
  unwritten := nofun
  brokenOff := nofun
  closed := nofun
  applied := nofun

/-- **An action that failed** leaves the store as it was.  What becomes of the session depends on
whether it was a rollback that failed, or the call was broken off. -/
theorem faithful_error {act : Action} {s s' : Session} {a a' : Archive} {e : CurationError}
    (hstore : a'.store = a.store) (hordinary : e.Ordinary → s' = s)
    (hfailed : ∀ session reason, e = .rollbackFailed session reason →
      s' = { s with status := .rollbackFailed })
    (hbroken : e.isPanic = true → s' = { s with status := .completing })
    (hclosed : s.status.isTerminal = true →
      e = .sessionClosed s.params.session s.status.name) :
    Faithful (some act) s a (told (.error e)) s' a' := by
  cases hf : e.isFatal with
  | true =>
    have ht : told (.error e) = .error e := if_pos hf
    rw [ht]
    constructor
    · nofun
    · rintro e' he hp hne
      cases he
      exact ⟨hordinary (CurationError.ordinary_iff.mpr ⟨hp, hne⟩), hstore⟩
    · rintro session reason he
      cases he
      exact ⟨hfailed _ _ rfl, hstore⟩
    · rintro e' he hp
      cases he
      exact ⟨hbroken hp, hstore⟩
    · rintro act' - hover
      rw [hclosed hover] at hf
      cases hf
    · nofun
  | false =>
    have ht : told (.error e) = .ok (errorAnswer e) := if_neg (by simp [hf])
    rw [ht]
    constructor
    · rintro j - -
      refine ⟨hordinary fun hgrave => ?_, hstore⟩
      cases hgrave <;> cases hf
    · nofun
    · nofun
    · nofun
    · rintro act' - hover
      rw [hclosed hover]
    · rintro act' j - - hj hyes
      cases hj
      cases hyes

/-- **Every end of an action is told faithfully.** -/
theorem faithful_performed {act : Action} {s s' : Session} {a a' : Archive}
    {r : Except CurationError ActionOutcome} (hp : Performed s a act (r, s', a'))
    (hclosed : s.status.isTerminal = true →
      r = .error (.sessionClosed s.params.session s.status.name)) :
    Faithful (some act) s a (told r) s' a' := by
  -- what succeeded was asked of an active session
  have hok : ∀ o, r = .ok o → (∀ j, told r = .ok j → j.get? "ok" = some (.bool true) →
      act.isMutating = true → ∃ e, a'.store.trail = a.store.trail ++ [e] ∧
        ∀ id, id ∉ e.subject → a'.store.memory? id = a.store.memory? id) →
      Faithful (some act) s a (told r) s' a' := by
    rintro o rfl happ
    constructor
    · rintro j hj hno
      cases hj
      cases hno
    · rintro e he
      cases he
    · rintro session reason he
      cases he
    · rintro e he
      cases he
    · rintro act' - ht
      cases hclosed ht
    · rintro act' j hact hm hj hyes
      cases hact
      exact happ j hj hyes hm
  cases hp with
  | refused he hst =>
    refine faithful_error hst.store (fun _ => rfl) (fun _ _ h => ?_) (fun h => ?_)
      fun ht => Except.error.inj (hclosed ht)
    · exact absurd (h ▸ .rollbackFailed _ _) he
    · rw [(CurationError.ordinary_iff.mp he).1] at h
      cases h
  | found hs hst => exact hok _ rfl nofun
  | forward hs hf hw =>
    refine hok _ rfl fun j hj hyes hm => ?_
    refine ⟨_, hw.trail (hf.appended _), fun id hid => ?_⟩
    obtain ⟨t, ht⟩ := hw.written
    refine ht.memory?_of_untouched fun op hop htouched => ?_
    rcases List.mem_append.mp hop with hop | hop
    · exact hid (hf.touched op hop id htouched)
    · obtain rfl := List.mem_singleton.mp hop
      cases htouched
  | committed hs hb hm hv hw => exact hok _ rfl nofun
  | rolledBack hs hb hm hv hu hw => exact hok _ rfl nofun
  | rollbackFailed hs hb hm hv hvain =>
    exact faithful_error hvain.store (fun h => absurd (.rollbackFailed _ _) h) (fun _ _ _ => rfl)
      nofun fun ht => Except.error.inj (hclosed ht)
  | overflowed hs hb hm hst =>
    exact faithful_error hst.store (fun h => absurd .sumOverflow h) nofun (fun _ => rfl)
      fun ht => Except.error.inj (hclosed ht)

/-- Counting how an action ended changes nothing else. -/
theorem faithful_dispatch (act : Action) (s : Session) (a : Archive) :
    Faithful (some act) s a (told (s.answer a (dispatch act)).1) (s.answer a (dispatch act)).2.1
      (s.answer a (dispatch act)).2.2 := by
  have hp := performed s a act
  have hclosed : s.status.isTerminal = true →
      (s.answer a (perform act)).1 =
        .error (.sessionClosed s.params.session s.status.name) := by
    intro ht
    have hs : s.status ≠ .active := by
      rintro hs
      rw [hs] at ht
      cases ht
    rw [answer_perform_of_closed a hs]
  have h := faithful_performed hp hclosed
  rw [answer_dispatch]
  exact ⟨h.refused, h.failed, h.unwritten, h.brokenOff, h.closed, h.applied⟩

theorem faithful_invoke (call : Json) (s : Session) (a : Archive) :
    Faithful (Action.decode call).toOption s a (s.answer a (invoke call)).1
      (s.answer a (invoke call)).2.1 (s.answer a (invoke call)).2.2 := by
  rcases hd : Action.decode call with cause | act
  · have h : s.answer a (invoke call) =
        (.ok (errorAnswer (.validation (.malformedAction cause))), s, a) := by
      unfold invoke
      rw [hd]
      rfl
    rw [h]
    exact faithful_malformed s a _
  · rw [answer_invoke_of_decode hd]
    exact faithful_dispatch act s a

/-- **A call that does not succeed changes nothing**, however it is malformed or refused and
whatever fails under it; one that succeeds does what its answer says.  The same holds of calls that
are given as a name and parameters. -/
theorem answers_faithful (s : Session) (a : Archive) :
    (∀ call, Faithful (Action.decode call).toOption s a (s.answer a (invoke call)).1
      (s.answer a (invoke call)).2.1 (s.answer a (invoke call)).2.2) ∧
    ∀ name params,
      Faithful ((named? name params).bind fun call => (Action.decode call).toOption) s a
        (s.answer a (invokeNamed name params)).1 (s.answer a (invokeNamed name params)).2.1
        (s.answer a (invokeNamed name params)).2.2 := by
  refine ⟨fun call => faithful_invoke call s a, fun name params => ?_⟩
  rw [invokeNamed_eq]
  rcases named? name params with _ | call
  · exact faithful_malformed s a _
  · exact faithful_invoke call s a

/-- A deletion whose batch is aborted between its op and its entry, and a completion whose batch is
aborted between its entry and its journal: the session is active again. -/
theorem answers_faithful_aborted :
    ∃ s a a', Begins .standard ⟨"o"⟩ .oneNote s a' ∧ a = ((Archive.failBatchAt 1).run a').2 ∧
      (let r := s.answer a (invoke (.obj [("action", .str "delete"), ("id", .str "m")]))
      r.1 = .error (.storage (.opInjected 1 "append_audit")) ∧ r.2.1 = s ∧
        r.2.2.store = a.store) ∧
      let r := s.answer a (invoke (.obj [("action", .str "complete"), ("summary", .str "done")]))
      r.1 = .error (.storage (.opInjected 1 "insert_memory")) ∧ r.2.1 = s ∧
        r.2.2.store = a.store := by
  let failing (s : Session) (a : Archive) (call : Json) (op : String) : Bool :=
    match (s.answer ((Archive.failBatchAt 1).run a).2 (invoke call)).1 with
    | .error e => e = .storage (.opInjected 1 op)
    | .ok _ => false
  have h : Archive.oneNote.yields (beginAs .standard ⟨"o"⟩ ⟨"s"⟩) (fun s a =>
      failing s a (.obj [("action", .str "delete"), ("id", .str "m")]) "append_audit" &&
        failing s a (.obj [("action", .str "complete"), ("summary", .str "done")])
          "insert_memory") = true := by decide +kernel
  obtain ⟨s, a, hb, h⟩ := Archive.exists_of_yields h
  obtain ⟨hdelete, hcomplete⟩ := Bool.and_eq_true_iff.mp h
  have hfailed : ∀ {call : Json} {op : String}, failing s a call op = true →
      (s.answer ((Archive.failBatchAt 1).run a).2 (invoke call)).1 =
        .error (.storage (.opInjected 1 op)) := by
    intro call op h
    dsimp only [failing] at h
    split at h
    · next e he => rw [he, of_decide_eq_true h]
    · cases h
  obtain ⟨hall, -⟩ := answers_faithful s ((Archive.failBatchAt 1).run a).2
  have hdelete := hfailed hdelete
  have hcomplete := hfailed hcomplete
  exact ⟨s, _, a, .named ⟨"s"⟩ hb, rfl, ⟨hdelete, (hall _).failed _ hdelete rfl nofun⟩, hcomplete,
    (hall _).failed _ hcomplete rfl nofun⟩

end ToolCall
end Curation
