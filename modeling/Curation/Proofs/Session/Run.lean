/-
# Runs of a session

A driver makes calls on its session one after the other.  Between two calls other things happen
to the archive: the clock moves on, ids are drawn, faults are armed, and perhaps somebody else
writes.  A `Run` is any finite sequence of both; what may happen in between is its parameter, and
`Archive.Quiet` is the one that a session has to itself.

Whatever kind of call is made, it performs at most one action (`call_cases`).  So a property of
runs is proved from what the ends of an action do to it.
-/
import Curation.Proofs.Session.Performed
import Curation.Session.ToolCall

namespace Curation

/-- Nothing was written in between. -/
structure Archive.Quiet (a a' : Archive) : Prop where
  backend : a'.backend = a.backend
  store : a'.store = a.store

theorem Archive.Still.quiet {a a' : Archive} (h : Archive.Still a a') : Archive.Quiet a a' :=
  ⟨h.backend, h.store⟩

theorem Archive.InVain.quiet {a a' : Archive} {f : Counters → Counters} {P : List WriteOp → Prop}
    (h : Archive.InVain f P a a') : Archive.Quiet a a' :=
  ⟨h.backend, h.store⟩

/-- Nothing was written in between, and no batch was handed over. -/
structure Archive.Silent (a a' : Archive) : Prop extends Archive.Quiet a a' where
  handed : a'.handed = a.handed

theorem Archive.Silent.refl (a : Archive) : Archive.Silent a a := ⟨⟨rfl, rfl⟩, rfl⟩

theorem Archive.Still.silent {a a' : Archive} (h : Archive.Still a a') : Archive.Silent a a' :=
  ⟨h.quiet, h.handed⟩

namespace Session

/-! ## 1. Calls -/

/-- A call that is made on a session: one of its own actions, one that is counted, one given as a
value or as a name and parameters, or the one that completes a session that is late. -/
inductive Call where
  | perform (act : Action)
  | dispatch (act : Action)
  | invoke (call : Json)
  | invokeNamed (name : String) (params : Json)
  | finishExpired

/-- What becomes of a session and its archive when a call is made. -/
def Call.run (s : Session) (a : Archive) : Call → Session × Archive
  | .perform act => (s.answer a (Session.perform act)).2
  | .dispatch act => (s.answer a (Session.dispatch act)).2
  | .invoke call => (s.answer a (ToolCall.invoke call)).2
  | .invokeNamed name params => (s.answer a (ToolCall.invokeNamed name params)).2
  | .finishExpired => (s.answer a Session.finishExpired).2

/-- What an answer was refused with, or broken off, if it was. -/
def failure? {α : Type} : Except CurationError α → Option CurationError
  | .ok _ => none
  | .error e => some e

/-- What a call fails with, if it fails. -/
def Call.failure? (s : Session) (a : Archive) : Call → Option CurationError
  | .perform act => Session.failure? (s.answer a (Session.perform act)).1
  | .dispatch act => Session.failure? (s.answer a (Session.dispatch act)).1
  | .invoke call => Session.failure? (s.answer a (ToolCall.invoke call)).1
  | .invokeNamed name params => Session.failure? (s.answer a (ToolCall.invokeNamed name params)).1
  | .finishExpired => Session.failure? (s.answer a Session.finishExpired).1

/-- A call returns, with a result or a refusal, unless a panic breaks it off. -/
def Call.Returns (s : Session) (a : Archive) (call : Call) : Prop :=
  ∀ e, call.failure? s a = some e → e.isPanic = false

instance (s : Session) (a : Archive) (call : Call) : Decidable (call.Returns s a) :=
  decidable_of_iff (((call.failure? s a).all fun e => !e.isPanic) = true)
    (by simp [Call.Returns, Option.all_eq_true])

/-- How a call that ended so is counted. -/
def tally {α : Type} (mutating : Bool) : Except CurationError α → Counters → Counters
  | .ok _ => if mutating then .applied else id
  | .error e => if e.isFatal then id else .rejected

theorem answer_dispatch (s : Session) (a : Archive) (act : Action) :
    s.answer a (dispatch act) =
      let r := s.answer a (perform act)
      (r.1, r.2.1, { r.2.2 with counters := tally act.isMutating r.1 r.2.2.counters }) := by
  unfold dispatch counted
  rw [answer_mk_bind]
  rcases s.answer a (perform act) with ⟨r, s', a'⟩
  cases r with
  | ok o => cases act.isMutating <;> rfl
  | error e => cases he : e.isFatal <;> simp only [he, tally] <;> rfl

theorem answer_invoke (s : Session) (a : Archive) (call : Json) :
    (s.answer a (ToolCall.invoke call)).2 = (s, a) ∨
      ∃ act, Action.decode call = .ok act ∧
        (s.answer a (ToolCall.invoke call)).2 = (s.answer a (dispatch act)).2 ∧
        ∀ e, (s.answer a (dispatch act)).1 = .error e → e.isFatal = true →
          (s.answer a (ToolCall.invoke call)).1 = .error e := by
  unfold ToolCall.invoke
  rcases Action.decode call with e | act
  · exact .inl rfl
  · refine .inr ⟨act, rfl, ?_⟩
    dsimp only
    rw [answer_mk_bind]
    rcases s.answer a (dispatch act) with ⟨r, s', a'⟩
    cases r with
    | ok o => exact ⟨rfl, nofun⟩
    | error e =>
      refine ⟨rfl, fun e' he hf => ?_⟩
      cases he
      simp only [hf]
      rfl

theorem answer_complete (s : Session) (a : Archive) (summary : String) :
    s.answer a (perform (.complete summary)) =
      ((s.answer a (complete summary)).1.map .completed, (s.answer a (complete summary)).2) := by
  unfold perform
  rw [answer_bind]
  rcases s.answer a (complete summary) with ⟨r, s', a'⟩
  cases r <;> rfl

/-- **The check of the deadline** leaves a session that is not late alone, and completes one that
is. -/
theorem answer_finishExpired (s : Session) (a : Archive) :
    (∃ a', s.answer a finishExpired = (.ok none, s, a') ∧ Archive.Still a a') ∨
      ∃ summary a₁, Archive.Still a a₁ ∧
        s.answer a finishExpired =
          ((s.answer a₁ (complete summary)).1.map some, (s.answer a₁ (complete summary)).2) := by
  unfold finishExpired
  rw [answer_bind, answer_get]
  dsimp only
  rw [answer_bind]
  rcases h : s.answer a (liftM s.isExpired : SessionM Bool) with ⟨r, s', a₁⟩
  obtain ⟨rfl, hst⟩ := (reads_isExpired s).still h
  cases r with
  | error e => cases h
  | ok expired =>
    dsimp only
    split
    · exact .inl ⟨a₁, rfl, hst⟩
    · refine .inr ⟨"session deadline reached before the driver completed", a₁, hst, ?_⟩
      rw [answer_bind]
      rcases s'.answer a₁ (complete _) with ⟨r, s₂, a₂⟩
      cases r <;> rfl

/-- At most one action was performed, and nothing was written or handed over before or after it.
If it was broken off, so was the call. -/
def Acted (s : Session) (a : Archive) (failure : Option CurationError) (s' : Session)
    (a' : Archive) : Prop :=
  ∃ a₁ a₂, Archive.Silent a a₁ ∧ Archive.Silent a₂ a' ∧
    ((s' = s ∧ a₂ = a₁) ∨ ∃ act r, Performed s a₁ act (r, s', a₂) ∧
      (r = .error .sumOverflow → failure = some .sumOverflow))

section Acted

variable {s s' : Session} {a a₁ a' : Archive} {act : Action} {call : Json}
  {failure : Option CurationError}

theorem acted_silent (h : Archive.Silent a a') : Acted s a failure s a' :=
  ⟨a', a', h, .refl a', .inl ⟨rfl, rfl⟩⟩

theorem acted_perform (hq : Archive.Silent a a₁) :
    Acted s a (failure? (s.answer a₁ (perform act)).1) (s.answer a₁ (perform act)).2.1
      (s.answer a₁ (perform act)).2.2 :=
  ⟨a₁, _, hq, .refl _, .inr ⟨act, _, performed s a₁ act, congrArg failure?⟩⟩

theorem acted_dispatch (s : Session) (a : Archive) (act : Action) :
    Acted s a (failure? (s.answer a (dispatch act)).1) (s.answer a (dispatch act)).2.1
      (s.answer a (dispatch act)).2.2 := by
  rw [answer_dispatch]
  exact ⟨a, (s.answer a (perform act)).2.2, .refl a, ⟨⟨rfl, rfl⟩, rfl⟩,
    .inr ⟨act, _, performed s a act, congrArg failure?⟩⟩

theorem acted_invoke (s : Session) (a : Archive) (call : Json) :
    Acted s a (failure? (s.answer a (ToolCall.invoke call)).1)
      (s.answer a (ToolCall.invoke call)).2.1 (s.answer a (ToolCall.invoke call)).2.2 := by
  rcases answer_invoke s a call with hi | ⟨act, -, hi, hfatal⟩
  · rw [hi]
    exact acted_silent (.refl a)
  · rw [hi]
    obtain ⟨a₁, a₂, hq₁, hq₂, hsame | ⟨act', r, hp, hover⟩⟩ := acted_dispatch s a act
    · exact ⟨a₁, a₂, hq₁, hq₂, .inl hsame⟩
    · refine ⟨a₁, a₂, hq₁, hq₂, .inr ⟨act', r, hp, fun hr => ?_⟩⟩
      have hd := hover hr
      rcases hdr : (s.answer a (dispatch act)).1 with e | o
      · rw [hdr] at hd
        cases hd
        rw [hfatal _ hdr rfl]
        rfl
      · rw [hdr] at hd
        cases hd

theorem acted_finishExpired (s : Session) (a : Archive) :
    Acted s a (failure? (s.answer a finishExpired).1) (s.answer a finishExpired).2.1
      (s.answer a finishExpired).2.2 := by
  rcases answer_finishExpired s a with ⟨a₁, hf, hst⟩ | ⟨summary, a₁, hst, hf⟩
  · rw [hf]
    exact acted_silent hst.silent
  · have hp := performed s a₁ (.complete summary)
    rw [answer_complete] at hp
    rw [hf]
    refine ⟨a₁, _, hst.silent, .refl _, .inr ⟨_, _, hp, ?_⟩⟩
    rcases (s.answer a₁ (complete summary)).1 with e | o
    · intro he
      cases he
      rfl
    · nofun

/-- **At most one action**, whatever call is made. -/
theorem call_cases (call : Call) (s : Session) (a : Archive) :
    Acted s a (call.failure? s a) (call.run s a).1 (call.run s a).2 := by
  cases call with
  | perform act => exact acted_perform (.refl a)
  | dispatch act => exact acted_dispatch s a act
  | invoke call => exact acted_invoke s a call
  | invokeNamed name params =>
    unfold Call.run Call.failure? ToolCall.invokeNamed
    dsimp only
    split
    · exact acted_invoke s a _
    · exact acted_invoke s a _
    · exact acted_silent (.refl a)
  | finishExpired => exact acted_finishExpired s a

end Acted

/-! ## 2. Beginnings -/

/-- A session begins, under an id that is given or under a new one. -/
inductive Begins (c : Config) (owner : OwnerId) : Archive → Session → Archive → Prop
  | named {a a' : Archive} {s : Session} (sid : SessionId)
      (h : a.answer (beginAs c owner sid) = (.ok s, a')) : Begins c owner a s a'
  | drawn {a a' : Archive} {s : Session}
      (h : a.answer (begin_ c owner) = (.ok s, a')) : Begins c owner a s a'

/-- What holds of a session that has just begun. -/
structure Begun (c : Config) (owner : OwnerId) (a : Archive) (s : Session) : Prop where
  owner : s.params.owner = owner
  rules : s.rules = c.rules
  limits : s.limits = .ofConfig c.session
  status : s.status = .active
  nextSeq : s.nextSeq = 1
  stats : s.stats = .none
  /-- Its id has never been used. -/
  unused : a.store.forSession s.params.session = []
  /-- The owner's live core mass was measured. -/
  preMass : s.mass a.store = some s.params.preMass

theorem still_deadline (c : Config) (a : Archive) : Archive.Still a (a.answer (deadline c)).2 := by
  unfold deadline
  split
  · exact .refl a
  · split
    · exact .refl a
    · rw [Archive.answer_bind, Archive.answer_lift, Archive.run_now]
      dsimp only
      split <;> exact ⟨rfl, rfl, rfl, rfl⟩

theorem begun_beginAs {c : Config} {owner : OwnerId} {sid : SessionId} {a a' : Archive}
    {s : Session} (h : a.answer (beginAs c owner sid) = (.ok s, a')) :
    Begun c owner a s ∧ Archive.Still a a' := by
  unfold beginAs at h
  dsimp only at h
  split at h
  · cases h
  · obtain ⟨es, a₁, hes, h₁⟩ := Archive.answer_bind_ok h
    have hst₁ := (Archive.reads_forSession sid).still hes
    obtain rfl := Archive.forSession_ok hes
    split at h₁
    · cases h₁
    · next hn =>
      have hunused : a.store.forSession sid = [] := by simpa using hn
      obtain ⟨pre, a₂, hpre, h₂⟩ := Archive.answer_bind_ok h₁
      obtain ⟨hst₂, hmass⟩ := Archive.usage_ok hpre
      rw [hst₁.store] at hmass
      have hst₂ := hst₁.trans hst₂
      obtain ⟨th, a₃, hth, h₃⟩ := Archive.answer_bind_ok h₂
      have hst₃ := hst₂.trans ((Archive.reads_threshold _ _).still hth)
      obtain ⟨d, a₄, hd, h₄⟩ := Archive.answer_bind_ok h₃
      have hd' := still_deadline c a₃
      rw [hd] at hd'
      cases h₄
      exact ⟨⟨rfl, rfl, rfl, rfl, rfl, rfl, hunused, hmass⟩, hst₃.trans hd'⟩

theorem Begins.begun {c : Config} {owner : OwnerId} {a a' : Archive} {s : Session}
    (h : Begins c owner a s a') : Begun c owner a s ∧ Archive.Still a a' := by
  cases h with
  | named sid h => exact begun_beginAs h
  | drawn h =>
    obtain ⟨sid, a₁, hn, h⟩ := Archive.answer_bind_ok h
    rw [Archive.answer_lift, Archive.run_newId] at hn
    generalize Ident.generated a.drawn = new at hn
    cases hn
    obtain ⟨hb, hst⟩ := begun_beginAs h
    exact ⟨⟨hb.owner, hb.rules, hb.limits, hb.status, hb.nextSeq, hb.stats, hb.unused, hb.preMass⟩,
      ⟨hst.backend, hst.store, hst.counters, hst.handed⟩⟩

/-! ## 3. Runs -/

/-- **A run of a session**: calls, and what happens elsewhere in between. -/
inductive Run (elsewhere : Archive → Archive → Prop) (s₀ : Session) (a₀ : Archive) :
    Session → Archive → Prop
  | start : Run elsewhere s₀ a₀ s₀ a₀
  | call {s : Session} {a : Archive} (call : Call) (hr : Run elsewhere s₀ a₀ s a) :
      Run elsewhere s₀ a₀ (call.run s a).1 (call.run s a).2
  | elsewhere {s : Session} {a a' : Archive} (hr : Run elsewhere s₀ a₀ s a)
      (h : elsewhere a a') : Run elsewhere s₀ a₀ s a'

/-- **What every run preserves**: what the ends of an action preserve, and what happens
elsewhere does. -/
theorem Run.preserves {elsewhere : Archive → Archive → Prop} {P : Session → Archive → Prop}
    (hquiet : ∀ a a', Archive.Quiet a a' → elsewhere a a')
    (helse : ∀ s a a', P s a → elsewhere a a' → P s a')
    (haction : ∀ s a act r s' a', P s a → Performed s a act (r, s', a') → P s' a')
    {s₀ s : Session} {a₀ a : Archive} (hr : Run elsewhere s₀ a₀ s a) (h₀ : P s₀ a₀) : P s a := by
  induction hr with
  | start => exact h₀
  | call call _ ih =>
    obtain ⟨a₁, a₂, hq₁, hq₂, ⟨hs, rfl⟩ | ⟨act, r, hp, -⟩⟩ := call_cases call _ _
    · rw [hs]
      exact helse _ _ _ (helse _ _ _ ih (hquiet _ _ hq₁.toQuiet)) (hquiet _ _ hq₂.toQuiet)
    · exact helse _ _ _ (haction _ _ _ _ _ _ (helse _ _ _ ih (hquiet _ _ hq₁.toQuiet)) hp)
        (hquiet _ _ hq₂.toQuiet)
  | elsewhere _ h ih => exact helse _ _ _ ih h

/-- **A run whose calls all return**: none of them was broken off. -/
inductive Returned (elsewhere : Archive → Archive → Prop) (s₀ : Session) (a₀ : Archive) :
    Session → Archive → Prop
  | start : Returned elsewhere s₀ a₀ s₀ a₀
  | call {s : Session} {a : Archive} (call : Call) (hr : Returned elsewhere s₀ a₀ s a)
      (h : call.Returns s a) : Returned elsewhere s₀ a₀ (call.run s a).1 (call.run s a).2
  | elsewhere {s : Session} {a a' : Archive} (hr : Returned elsewhere s₀ a₀ s a)
      (h : elsewhere a a') : Returned elsewhere s₀ a₀ s a'

theorem Returned.run {elsewhere : Archive → Archive → Prop} {s₀ s : Session} {a₀ a : Archive}
    (hr : Returned elsewhere s₀ a₀ s a) : Run elsewhere s₀ a₀ s a := by
  induction hr with
  | start => exact .start
  | call call _ _ ih => exact .call call ih
  | elsewhere _ h ih => exact .elsewhere ih h

end Session

/-- An archive with one memory, in which short runs can be computed. -/
def Archive.oneNote : Archive :=
  .around .inMemory ⟨[.fresh ⟨"m"⟩ ⟨"o"⟩ "note" .core ⟨0, 0⟩], [], []⟩ (.steady ⟨0, 0⟩) 0

end Curation
