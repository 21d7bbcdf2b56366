/-
# Sessions from scripts

A script that is run to an answer has closed its session.  Three ways lead to a completion: a call
of the script asks for it, the deadline is found to have passed before a call, or the script ends.
Each of them meets the session ACTIVE.  Calls are made while it is active only; a call that is
refused leaves it so; and what ends a session without completing it, a rollback that could not be
written, fails the whole run (`conducted`).

So there is one completion, its entry is the newest of the trail, and the calls that come after it
in the script are not made (`makeCalls_append`).
-/
import Curation.Proofs.CommandLine.Calls
import Curation.Proofs.Service.Steps
import Curation.Proofs.Session.Completion
import Curation.Proofs.Session.Faithful

namespace Curation

/-! ## 1. The report of a session that is over -/

/-- An outcome that reports a session as it is, which is over. -/
structure Session.Reported (s : Session) (o : SessionOutcome) : Prop where
  session : o.session = s.params.session
  status : o.status = s.status
  stats : o.stats = s.stats
  ended : s.status = .committed ∨ s.status = .rolledBack

/-- **An answer that concludes a session**: it is ok, and its result says how the session ended. -/
structure Session.Concluded (s : Session) (j : Json) : Prop where
  ok : j.get? "ok" = some (.bool true)
  result : ∃ r, j.get? "result" = some r ∧
    r.get? "session_id" = some (.str s.params.session.text) ∧
    r.get? "status" = some s.status.encode ∧ r.get? "stats" = some s.stats.encode
  ended : s.status = .committed ∨ s.status = .rolledBack

/-- **The entry that closed a session** is the last of its entries, and the only one of its kind. -/
theorem Ended.closed {status : SessionStatus} {es : List AuditEntry} (h : Ended status es)
    (hover : status = .committed ∨ status = .rolledBack) :
    ∃ old e, es = old ++ [e] ∧ e.action.isTerminal = true ∧
      (∀ x ∈ old, x.action.isTerminal = false) ∧
      (status = .committed ↔ e.action = .sessionComplete) ∧
      (status = .rolledBack ↔ e.action = .sessionRollback) := by
  cases h with
  | active h | rollbackFailed h | completing h => rcases hover with hover | hover <;> cases hover
  | @committed old e h he =>
    refine ⟨old, e, rfl, ?_, h, ?_, ?_⟩ <;> simp [he, AuditAction.isTerminal]
  | @rolledBack old e h he =>
    refine ⟨old, e, rfl, ?_, h, ?_, ?_⟩ <;> simp [he, AuditAction.isTerminal]

namespace Session

variable {s s' : Session} {a a' : Archive} {act : Action} {o : SessionOutcome}

theorem Reported.concluded (h : s.Reported o) {r : Json}
    (hr : ∀ name ∈ ["session_id", "status", "stats"], r.get? name = o.encode.get? name) :
    s.Concluded (.obj [("ok", .bool true), ("result", r)]) := by
  refine ⟨rfl, ⟨r, rfl, ?_, ?_, ?_⟩, h.ended⟩
  · rw [hr _ (by simp), ← h.session]
    rfl
  · rw [hr _ (by simp), ← h.status]
    rfl
  · rw [hr _ (by simp), ← h.stats]
    rfl

/-- **What an action that succeeded leaves of an active session**: it stays active, or it was
completed and this is reported. -/
theorem performed_reported {out : ActionOutcome} (h : Performed s a act (.ok out, s', a')) :
    (s'.status = .active ∧ out.name ≠ "completed") ∨
      ∃ o, out = .completed o ∧ s'.Reported o := by
  cases h with
  | found hs hst => exact .inl ⟨hs, by simp [ActionOutcome.name]⟩
  | forward hs hf hw =>
    refine .inl ⟨hs, ?_⟩
    cases hf <;> simp [ActionOutcome.name]
  | committed hs hb hm hv hw => exact .inr ⟨_, rfl, rfl, rfl, rfl, .inl rfl⟩
  | rolledBack hs hb hm hv hu hw => exact .inr ⟨_, rfl, rfl, rfl, rfl, .inr rfl⟩

theorem reported_of_complete {summary : String}
    (h : s.answer a (complete summary) = (.ok o, s', a')) : s'.Reported o := by
  rcases performed_reported (performed_of_complete h) with ⟨-, hne⟩ | ⟨o', ho, hrep⟩
  · exact absurd rfl hne
  · cases ho
    exact hrep

/-- What the check of the deadline leaves: the session as it is, or one that was completed. -/
theorem finishExpired_cases {r : Option SessionOutcome}
    (h : s.answer a finishExpired = (.ok r, s', a')) :
    match r with
    | none => s' = s
    | some o => s'.Reported o := by
  obtain ⟨_, _, _, hg, h⟩ := answer_bind_ok h
  cases hg
  obtain ⟨expired, s₁, a₁, hx, h⟩ := answer_bind_ok h
  obtain ⟨rfl, -⟩ := (reads_isExpired s).still hx
  split at h
  · cases h
    rfl
  · obtain ⟨o, s₂, a₂, hc, h⟩ := answer_bind_ok h
    cases h
    exact reported_of_complete hc

theorem Run.called {elsewhere : Archive → Archive → Prop} {s₀ : Session} {a₀ : Archive}
    (hr : Run elsewhere s₀ a₀ s a) (call : Call) (h : call.run s a = (s', a')) :
    Run elsewhere s₀ a₀ s' a' := by
  have := hr.call call
  rwa [h] at this

end Session

namespace CommandLine

open CommandM

/-! ## 2. One call of a script -/

variable {α : Type} {a a' : Archive} {s s' : Session} {printed printed' : String} {j : Json}

theorem isCompletion_okAnswer (out : ActionOutcome) :
    isCompletion (ToolCall.okAnswer out) = (out.name == "completed") := by
  show (some (Json.str out.name) == some (Json.str "completed")) = _
  rw [Option.some_beq_some, Bool.eq_iff_iff, beq_iff_eq, beq_iff_eq, Json.str.injEq]

/-- **A tool call on an active session** leaves it active, or its answer concludes it. -/
theorem invoke_cases {call : Json} (hs : s.status = .active)
    (h : s.answer a (ToolCall.invoke call) = (.ok j, s', a')) :
    (s'.status = .active ∧ isCompletion j = false) ∨ (s'.Concluded j ∧ isCompletion j = true) := by
  rcases hd : Action.decode call with e | act
  · unfold ToolCall.invoke at h
    rw [hd] at h
    cases h
    exact .inl ⟨hs, rfl⟩
  · rw [ToolCall.answer_invoke_of_decode hd, Session.answer_dispatch] at h
    have hp := Session.performed s a act
    generalize s.answer a (Session.perform act) = end_ at h hp
    obtain ⟨r, s₁, a₁⟩ := end_
    cases r with
    | ok out =>
      cases h
      rcases Session.performed_reported hp with ⟨hact, hne⟩ | ⟨o, rfl, hrep⟩
      · exact .inl ⟨hact, by rw [isCompletion_okAnswer]; simpa using hne⟩
      · refine .inr ⟨hrep.concluded fun name hn => ?_, rfl⟩
        -- the name of the outcome stands before its members and is none of them
        have : "outcome" ≠ name := by
          rintro rfl
          simp at hn
        simp [ActionOutcome.encode, SessionOutcome.encode, ActionOutcome.members, Json.get?, this]
    | error e =>
      dsimp only [ToolCall.told] at h
      split at h
      · cases h
      · next hf =>
        cases h
        refine .inl ⟨?_, rfl⟩
        cases hp with
        | refused he hst => exact hs
        | rollbackFailed hs hb hm hv hvain => exact absurd rfl hf
        | overflowed hs hb hm hst => exact absurd rfl hf

/-! ## 3. The calls of a script -/

/-- **A session that a script conducts** is active while no answer has completed it, and concluded
by the one that has. -/
def Conducts (completion : Option Json) (s : Session) : Prop :=
  match completion with
  | none => s.status = .active
  | some j => s.Concluded j

theorem Conducts.eq_none {completion : Option Json} (h : Conducts completion s)
    (hs : s.status = .active) : completion = none := by
  cases completion with
  | none => rfl
  | some j => rcases (h : s.Concluded j).ended with he | he <;> rw [hs] at he <;> cases he

/-- **Every call of a script** keeps it so. -/
theorem conducted {elsewhere : Archive → Archive → Prop} {s₀ : Session} {a₀ : Archive}
    {r : Option Json} :
    ∀ {calls : List Json} {completion : Option Json} {s : Session} {a : Archive}
      {printed : String}, Session.Run elsewhere s₀ a₀ s a → Conducts completion s →
    answer a printed (makeCalls completion s calls) = (.ok (r, s'), printed', a') →
    Session.Run elsewhere s₀ a₀ s' a' ∧ Conducts r s'
  | [], completion, s, a, printed, hr, hc, h => by
    cases h
    exact ⟨hr, hc⟩
  | call :: calls, completion, s, a, printed, hr, hc, h => by
    rw [makeCalls] at h
    split at h
    · cases h
      exact ⟨hr, hc⟩
    · next hs =>
      have hs : s.status = .active := by simpa using hs
      obtain rfl := hc.eq_none hs
      obtain ⟨⟨expired, s₁⟩, printed₁, a₁, hx, h₁⟩ := answer_bind_ok h
      obtain ⟨hx, -⟩ := onSession_ok hx
      have hr₁ : Session.Run elsewhere s₀ a₀ s₁ a₁ :=
        hr.called .finishExpired (congrArg Prod.snd hx)
      have hcases := Session.finishExpired_cases hx
      cases expired with
      | some o =>
        cases h₁
        exact ⟨hr₁, hcases.concluded fun _ _ => rfl⟩
      | none =>
        obtain rfl : s₁ = s := hcases
        obtain ⟨⟨j, s₂⟩, printed₂, a₂, hj, h₂⟩ := answer_bind_ok h₁
        obtain ⟨hj, -⟩ := onSession_ok hj
        have hr₂ : Session.Run elsewhere s₀ a₀ s₂ a₂ :=
          hr₁.called (.invoke call) (congrArg Prod.snd hj)
        rcases invoke_cases hs hj with ⟨hact, hnot⟩ | ⟨hcon, hyes⟩
        · dsimp only at h₂
          rw [hnot] at h₂
          obtain ⟨_, printed₃, a₃, hp, h₃⟩ := answer_bind_ok h₂
          cases hp
          have hstill : Conducts none s₂ := hact
          exact conducted hr₂ hstill h₃
        · dsimp only at h₂
          rw [hyes] at h₂
          have hover : Conducts (some j) s₂ := hcon
          exact conducted hr₂ hover h₂

/-- On a session that is over no call is made. -/
theorem makeCalls_of_over (hs : s.status ≠ .active) (completion : Option Json)
    (calls : List Json) : makeCalls completion s calls = pure (completion, s) := by
  cases calls with
  | nil => rfl
  | cons call calls => rw [makeCalls, if_pos (by simpa using hs)]

/-- **Calls after the end of a session are not made**: they print nothing, and they change neither
the archive nor the answer. -/
theorem makeCalls_append {r : Option Json} (after : List Json) :
    ∀ {before : List Json} {completion : Option Json} {s : Session} {a : Archive}
      {printed : String},
    answer a printed (makeCalls completion s before) = (.ok (r, s'), printed', a') →
    s'.status ≠ .active →
    answer a printed (makeCalls completion s (before ++ after)) = (.ok (r, s'), printed', a')
  | [], completion, s, a, printed, h, hover => by
    cases h
    rw [List.nil_append, makeCalls_of_over hover, answer_pure]
  | call :: before, completion, s, a, printed, h, hover => by
    rw [List.cons_append, makeCalls]
    rw [makeCalls] at h
    split at h
    · next hs =>
      rw [if_pos hs]
      exact h
    · next hs =>
      rw [if_neg hs]
      obtain ⟨⟨expired, s₁⟩, printed₁, a₁, hx, h⟩ := answer_bind_ok h
      rw [answer_bind, hx]
      cases expired with
      | some o => exact h
      | none =>
        obtain ⟨⟨j, s₂⟩, printed₂, a₂, hj, h⟩ := answer_bind_ok h
        dsimp only
        rw [answer_bind, hj]
        dsimp only at h ⊢
        split at h
        · next hyes =>
          rw [if_pos hyes]
          exact makeCalls_append after h hover
        · next hno =>
          rw [if_neg hno]
          obtain ⟨_, printed₃, a₃, hp, h⟩ := answer_bind_ok h
          rw [answer_bind, hp]
          exact makeCalls_append after h hover

/-! ## 4. The script -/

variable {c : Config} {owner : OwnerId} {session : Option SessionId} {script : String}

/-- **A script that ends without a completion** is completed, for its session is active. -/
theorem concluded_of_standing (hs : s.status = .active)
    (h : s.answer a (ToolCall.invokeNamed "complete"
      (.obj [("summary", .str standingSummary)])) = (.ok j, s', a')) : s'.Concluded j := by
  have hd : Action.decode (.obj [("summary", .str standingSummary), ("action", .str "complete")]) =
      .ok (.complete standingSummary) := by decide +kernel
  have hcall : s.answer a (ToolCall.invoke
      (.obj [("summary", .str standingSummary), ("action", .str "complete")])) =
        (.ok j, s', a') := h
  rcases invoke_cases hs hcall with ⟨-, hnot⟩ | ⟨hcon, -⟩
  · -- it would have been refused, and for a reason that is not fatal
    rw [ToolCall.answer_invoke_of_decode hd, Session.answer_dispatch] at hcall
    unfold Session.perform at hcall
    rw [Session.answer_bind] at hcall
    rcases hc : s.answer a (Session.complete standingSummary) with ⟨r, s₁, a₁⟩
    rw [hc] at hcall
    cases r with
    | ok o =>
      cases hcall
      cases hnot
    | error e =>
      have hf := Session.fatal_of_complete hs (by decide +kernel) hc
      have ht : ToolCall.told (.error e) = .error e := if_pos hf
      dsimp only at hcall
      rw [ht] at hcall
      cases hcall
  · exact hcon

/-- **A script that was run to an answer has closed its session.**  The answer is ok and says how:
the trail of the session, read with the newest entry first, begins with the one entry that closes
it, a commit or a rollback as the answer says, and the answer gives the tally of the trail.  Once
some of the calls have ended the session, the calls after them do nothing: the answer, what is
printed and the archive are what they were when it ended. -/
theorem script_closes_session
    (h : answer a printed (runScript c owner session script) = (.ok j, printed', a')) :
    ∃ calls s₀ a₁ result e old, Script.read script = .ok calls ∧
      Session.Begins c owner a s₀ a₁ ∧
      s₀.params.session = session.getD ⟨Ident.generated a.drawn⟩ ∧
      a'.store.forSession s₀.params.session = e :: old ∧
      e.action.isTerminal = true ∧ (∀ x ∈ old, x.action.isTerminal = false) ∧
      j.get? "ok" = some (.bool true) ∧ j.get? "result" = some result ∧
      result.get? "session_id" = some (.str s₀.params.session.text) ∧
      (result.get? "status" = some SessionStatus.committed.encode ↔
        e.action = .sessionComplete) ∧
      (result.get? "status" = some SessionStatus.rolledBack.encode ↔
        e.action = .sessionRollback) ∧
      result.get? "stats" =
        some (AuditEntry.stats (a'.store.forSession s₀.params.session)).encode ∧
      ∀ before after r s p a₂, calls = before ++ after →
        answer a₁ printed (makeCalls none s₀ before) = (.ok (r, s), p, a₂) → s.status ≠ .active →
        r = some j ∧ printed' = p ∧ a' = a₂ := by
  unfold runScript at h
  obtain ⟨calls, printed₁, a₁, hread, h⟩ := answer_bind_ok h
  obtain ⟨hcallsRead, rfl, rfl⟩ := CommandM.ofExcept_ok hread
  obtain ⟨s₀, printed₂, a₂, hbegin, h⟩ := answer_bind_ok h
  have hbegin : answer a printed (call (some .beginSession) (Session.beginFor c owner session)) =
      (.ok s₀, printed₂, a₂) := by
    cases session <;> exact hbegin
  obtain rfl := printed_of_call hbegin
  obtain ⟨hb, hsid⟩ := Session.begins_of_beginFor (call_ok hbegin)
  obtain ⟨⟨r, s₁⟩, printed₃, a₃, hcalls, h⟩ := answer_bind_ok h
  have hactive : Conducts none s₀ := hb.begun.1.status
  obtain ⟨hr, hmade⟩ := conducted .start hactive hcalls
  -- however the session was completed, this is what concluded it
  have hend : ∃ s, Session.Run (Archive.Foreign s₀.params.session) s₀ a₂ s a' ∧ s.Concluded j ∧
      (s₁.status ≠ .active → r = some j ∧ printed' = printed₃ ∧ a' = a₃) := by
    cases r with
    | some j' =>
      cases h
      exact ⟨s₁, hr, hmade, fun _ => ⟨rfl, rfl, rfl⟩⟩
    | none =>
      obtain ⟨⟨j', s₂⟩, printed₄, a₄, hlast, h⟩ := answer_bind_ok h
      cases h
      obtain ⟨hmadeLast, rfl⟩ := onSession_ok hlast
      exact ⟨s₂, hr.called (.invokeNamed "complete" _) (congrArg Prod.snd hmadeLast),
        concluded_of_standing hmade hmadeLast, fun hover => absurd hmade hover⟩
  obtain ⟨s, hrun, hcon, hrest⟩ := hend
  obtain ⟨hps, hc⟩ := Session.chronicle_run hb hrun
  obtain ⟨old, e, hes, hterm, hold, hcom, hrol⟩ := hc.ended.closed hcon.ended
  obtain ⟨result, hres, hid, hstatus, hstats⟩ := hcon.result
  have htrail := Store.forSession_eq_reverse hc.rising
  refine ⟨calls, s₀, a₂, result, e, old.reverse, hcallsRead, hb, hsid, ?_, hterm, ?_, hcon.ok, hres,
    hps ▸ hid, ?_, ?_, ?_, ?_⟩
  · rw [htrail, hes]
    simp
  · simpa using hold
  · rw [hstatus, ← hcom]
    cases s.status <;> decide
  · rw [hstatus, ← hrol]
    cases s.status <;> decide
  · rw [hstats, hc.stats, htrail, AuditEntry.stats_perm (List.reverse_perm _)]
  · rintro before after r' s' p a₅ rfl hbefore hover
    rw [makeCalls_append after hbefore hover] at hcalls
    cases hcalls
    exact hrest hover

/-- A script that asks for too much: its first line is no call, and its last comes too late. -/
def lateDeletion : String :=
  "1\n[\"update\", \"m\", \"second\"]\n[\"complete\", \"done\"]\n[\"delete\", \"m\"]"

/-- A script with a call that is none, an update, a completion, and a deletion that comes too late:
the memory is updated and not deleted. -/
theorem script_closes_session_updated :
    ∃ j printed a', ∃ s₀ : Session,
      answer .oneNote "" (runScript .standard ⟨"o"⟩ (some ⟨"s"⟩) lateDeletion) =
        (.ok j, printed, a') ∧
      (a'.store.memory? ⟨"m"⟩).any (fun m => m.content == "second" && !m.tombstoned) = true ∧
      s₀.params.session = ⟨"s"⟩ ∧
      (a'.store.forSession s₀.params.session).countP (·.action.isTerminal) = 1 := by
  have h : yields .oneNote "" (runScript .standard ⟨"o"⟩ (some ⟨"s"⟩) lateDeletion) (fun a =>
      (a.store.memory? ⟨"m"⟩).any fun m => m.content == "second" && !m.tombstoned) = true := by
    decide +kernel
  obtain ⟨j, printed, a', hrun, hm⟩ := exists_of_yields h
  obtain ⟨-, s₀, -, -, e, old, -, -, hsid, htrail, hterm, hold, -⟩ := script_closes_session hrun
  refine ⟨j, printed, a', s₀, hrun, hm, hsid, ?_⟩
  simpa [htrail, List.countP_cons, hterm, List.countP_eq_zero] using hold

end CommandLine
end Curation
