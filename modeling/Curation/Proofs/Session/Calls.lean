/-
# Calls on a session

The same for calls that also carry a session: how they compose, which only read, and what the
guards of the actions establish.  Reading now also means that the session is as it was.
-/
import Curation.Proofs.Calls
import Curation.Proofs.Store.Batch

namespace Curation

variable {α β : Type}

/-- A memory that an owner has and that is not deleted. -/
structure Store.Holds (s : Store) (owner : OwnerId) (m : Memory) : Prop where
  found : s.memory? m.id = some m
  owner : m.owner = owner
  live : m.tombstoned = false

/-! ## 1. Answers -/

namespace Session

/-- What a session answers to a call, and what becomes of it and of the archive. -/
def answer (s : Session) (a : Archive) (x : SessionM α) :
    Except CurationError α × Session × Archive :=
  let r := (x.run.run s).run a
  (r.1.1, r.1.2, r.2)

theorem answer_bind (s : Session) (a : Archive) (x : SessionM α) (f : α → SessionM β) :
    s.answer a (x >>= f) =
      match s.answer a x with
      | (.ok v, s', a') => s'.answer a' (f v)
      | (.error e, s', a') => (.error e, s', a') := by
  unfold answer
  rw [ExceptT.run_bind, StateT.run_bind, StateT.run_bind]
  rcases h : (x.run.run s).run a with ⟨⟨r, s'⟩, a'⟩
  cases r <;> rfl

theorem answer_bind_ok {s s' : Session} {a a' : Archive} {x : SessionM α} {f : α → SessionM β}
    {w : β} (h : s.answer a (x >>= f) = (.ok w, s', a')) :
    ∃ v s₁ a₁, s.answer a x = (.ok v, s₁, a₁) ∧ s₁.answer a₁ (f v) = (.ok w, s', a') := by
  rw [answer_bind] at h
  rcases hx : s.answer a x with ⟨r, s₁, a₁⟩
  rw [hx] at h
  cases r with
  | ok v => exact ⟨v, s₁, a₁, rfl, h⟩
  | error e => cases h

/-- Whether a call succeeds and something holds then. -/
def yields (s : Session) (a : Archive) (x : SessionM α) (p : α → Bool) : Bool :=
  match s.answer a x with
  | (.ok v, _) => p v
  | (.error _, _) => false

theorem exists_of_yields {s : Session} {a : Archive} {x : SessionM α} {p : α → Bool}
    (h : s.yields a x p = true) : ∃ v s' a', s.answer a x = (.ok v, s', a') ∧ p v = true := by
  unfold yields at h
  rcases hx : s.answer a x with ⟨r, s', a'⟩
  rw [hx] at h
  cases r with
  | ok v => exact ⟨v, s', a', rfl, h⟩
  | error e => cases h

@[simp] theorem answer_pure (s : Session) (a : Archive) (v : α) :
    s.answer a (pure v : SessionM α) = (.ok v, s, a) := rfl

@[simp] theorem answer_throw (s : Session) (a : Archive) (e : CurationError) :
    s.answer a (throw e : SessionM α) = (.error e, s, a) := rfl

@[simp] theorem answer_get (s : Session) (a : Archive) :
    s.answer a (get : SessionM Session) = (.ok s, s, a) := rfl

@[simp] theorem answer_modify (s : Session) (a : Archive) (f : Session → Session) :
    s.answer a (modify f : SessionM PUnit) = (.ok ⟨⟩, f s, a) := rfl

@[simp] theorem answer_liftState (s : Session) (a : Archive) (x : StateM Archive α) :
    s.answer a (liftM x : SessionM α) = (.ok (x.run a).1, s, (x.run a).2) := rfl

@[simp] theorem answer_liftCall (s : Session) (a : Archive) (x : CurationM α) :
    s.answer a (liftM x : SessionM α) = ((a.answer x).1, s, (a.answer x).2) := rfl

@[simp] theorem answer_liftStore (s : Session) (a : Archive) (x : StoreM α) :
    s.answer a (liftM x : SessionM α) =
      ((a.answer (liftM x : CurationM α)).1, s, (a.answer (liftM x : CurationM α)).2) := rfl

@[simp] theorem answer_liftExcept (s : Session) (a : Archive) (x : Except CurationError α) :
    s.answer a (liftM x : SessionM α) = (x, s, a) := by
  cases x <;> rfl

/-- What is done with the answer of a call, refused or not. -/
theorem answer_mk_bind (s : Session) (a : Archive) (x : SessionM α)
    (f : Except CurationError α → StateT Session (StateM Archive) (Except CurationError β)) :
    s.answer a (ExceptT.mk (x.run >>= f)) =
      (s.answer a x).2.1.answer (s.answer a x).2.2 (ExceptT.mk (f (s.answer a x).1)) := rfl

/-- **A call that a completing session depends on.**  If it is refused the session is active
again, unless the call was broken off. -/
theorem answer_orActive (s : Session) (a : Archive) (x : CurationM α) :
    s.answer a (orActive x) =
      ((a.answer x).1,
        match (a.answer x).1 with
        | .ok _ => s
        | .error e => if e.isPanic then s else { s with status := .active },
        (a.answer x).2) := by
  have hcall : orActive x = ExceptT.mk ((liftM x : SessionM α).run >>= fun r => do
      match r with
      | .ok _ => pure ()
      | .error e => if !e.isPanic then modify fun s => { s with status := .active }
      return r) := rfl
  rw [hcall, answer_mk_bind, answer_liftCall]
  rcases a.answer x with ⟨r, a'⟩
  cases r with
  | ok v => rfl
  | error e => cases he : e.isPanic <;> simp only [he] <;> rfl

/-! ## 2. Calls that only read -/

/-- A call that leaves the session and the store alone and refuses, if it does, for an ordinary
reason. -/
def Reads (x : SessionM α) : Prop :=
  ∀ (s : Session) (a : Archive), (s.answer a x).2.1 = s ∧ Archive.Still a (s.answer a x).2.2 ∧
    ∀ e, (s.answer a x).1 = .error e → e.Ordinary

section Reads

variable {s s' : Session} {a a' : Archive} {x : SessionM α} {r : Except CurationError α}

theorem Reads.still (hx : Reads x) (h : s.answer a x = (r, s', a')) :
    s' = s ∧ Archive.Still a a' := by
  have := hx s a
  rw [h] at this
  exact ⟨this.1, this.2.1⟩

theorem Reads.ordinary (hx : Reads x) {e : CurationError}
    (h : s.answer a x = (.error e, s', a')) : e.Ordinary :=
  (hx s a).2.2 e (by rw [h])

theorem reads_pure (v : α) : Reads (pure v : SessionM α) :=
  fun _ a => ⟨rfl, .refl a, nofun⟩

theorem reads_get : Reads (get : SessionM Session) :=
  fun _ a => ⟨rfl, .refl a, nofun⟩

theorem reads_throw {e : CurationError} (he : e.Ordinary) : Reads (throw e : SessionM α) :=
  fun _ a => ⟨rfl, .refl a, fun _ h => by cases h; exact he⟩

theorem reads_liftState {y : StateM Archive α} (h : ∀ a, Archive.Still a (y.run a).2) :
    Reads (liftM y : SessionM α) :=
  fun _ a => ⟨rfl, h a, nofun⟩

theorem reads_liftCall {y : CurationM α} (hy : Archive.Reads y) : Reads (liftM y : SessionM α) :=
  fun _ a => ⟨rfl, hy a⟩

theorem reads_liftExcept {y : Except CurationError α} (hy : ∀ e, y = .error e → e.Ordinary) :
    Reads (liftM y : SessionM α) := by
  intro s a
  rw [answer_liftExcept]
  exact ⟨rfl, .refl a, hy⟩

theorem Reads.bind {f : α → SessionM β} (hx : Reads x) (hf : ∀ v, Reads (f v)) :
    Reads (x >>= f) := by
  intro s a
  rw [answer_bind]
  rcases h : s.answer a x with ⟨r, s₁, a₁⟩
  obtain ⟨rfl, hs⟩ := hx.still h
  cases r with
  | ok v =>
    obtain ⟨hs₁, hst, he⟩ := hf v s₁ a₁
    exact ⟨hs₁, hs.trans hst, he⟩
  | error e => exact ⟨rfl, hs, fun e' he => by cases he; exact hx.ordinary h⟩

theorem Reads.mapM {f : α → SessionM β} (hf : ∀ v, Reads (f v)) :
    ∀ xs : List α, Reads (xs.mapM f)
  | [] => reads_pure []
  | x :: xs => by
    rw [List.mapM_cons]
    exact (hf x).bind fun _ => (Reads.mapM hf xs).bind fun _ => reads_pure _

end Reads

/-! ## 3. The guards -/

theorem reads_ensureOpen : Reads ensureOpen := by
  unfold ensureOpen
  refine reads_get.bind fun s => ?_
  split
  · exact reads_throw nofun
  · exact reads_pure _

/-- A session that is let through is active. -/
theorem ensureOpen_ok {s s' : Session} {a a' : Archive} {v : Unit}
    (h : s.answer a ensureOpen = (.ok v, s', a')) : s.status = .active := by
  obtain ⟨v', s₁, a₁, hg, h⟩ := answer_bind_ok h
  cases hg
  split at h
  · cases h
  · next hs => exact Decidable.not_not.mp hs

theorem reads_isExpired (s : Session) : Reads (liftM s.isExpired : SessionM Bool) := by
  refine reads_liftState fun a => ?_
  unfold isExpired
  split <;> exact ⟨rfl, rfl, rfl, rfl⟩

theorem reads_ensureAccepting : Reads ensureAccepting := by
  unfold ensureAccepting
  refine reads_ensureOpen.bind fun _ => reads_get.bind fun s => (reads_isExpired s).bind fun v => ?_
  split
  · exact reads_throw nofun
  · exact reads_pure _

theorem ensureAccepting_ok {s s' : Session} {a a' : Archive} {v : Unit}
    (h : s.answer a ensureAccepting = (.ok v, s', a')) : s.status = .active := by
  obtain ⟨_, _, _, ho, -⟩ := answer_bind_ok h
  exact ensureOpen_ok ho

theorem reads_ownedLive (id : MemoryId) : Reads (ownedLive id) := by
  unfold ownedLive
  refine reads_get.bind fun s => (reads_liftCall (Archive.reads_getOwned _ _)).bind fun m => ?_
  split
  · exact reads_throw nofun
  · exact reads_pure _

/-- A memory that an action is let at is the owner's and live. -/
theorem ownedLive_ok {id : MemoryId} {s s' : Session} {a a' : Archive} {m : Memory}
    (h : s.answer a (ownedLive id) = (.ok m, s', a')) :
    m.id = id ∧ a.store.Holds s.params.owner m := by
  obtain ⟨_, _, _, hg, h⟩ := answer_bind_ok h
  cases hg
  obtain ⟨m', s₂, a₂, hm, h⟩ := answer_bind_ok h
  obtain ⟨hr, he⟩ := Prod.mk.inj hm
  cases he
  obtain ⟨hf, ho⟩ := Archive.getOwned_ok (Prod.ext hr rfl)
  split at h
  · cases h
  · next hl =>
    cases h
    have hid := Store.memory?_id hf
    exact ⟨hid, hid.symm ▸ hf, ho, by simpa using hl⟩

/-! ### Guarded changes -/

section Guarded

variable {rules : MemoryRules} {m : Memory} {content : String} {op : WriteOp} {e : CurationError}

theorem unprotectedOnly_ok {v : Unit} (h : m.unprotectedOnly = .ok v) :
    m.constitutional = false := by
  unfold Memory.unprotectedOnly at h
  split at h
  · cases h
  · next hc => simpa using hc

theorem unprotectedOnly_ordinary (h : m.unprotectedOnly = .error e) : e.Ordinary := by
  unfold Memory.unprotectedOnly at h
  split at h <;> cases h
  exact nofun

theorem validate_ordinary (h : rules.validate content = .error e) : e.Ordinary := by
  unfold MemoryRules.validate at h
  (repeat' split at h) <;> cases h <;> exact nofun

theorem tombstoneOp_ok (h : m.tombstoneOp = .ok op) :
    m.constitutional = false ∧ op = .setTombstone m.id true := by
  unfold Memory.tombstoneOp at h
  rcases hu : m.unprotectedOnly with e | v <;> rw [hu] at h <;> cases h
  exact ⟨unprotectedOnly_ok hu, rfl⟩

theorem tombstoneOp_ordinary (h : m.tombstoneOp = .error e) : e.Ordinary := by
  unfold Memory.tombstoneOp at h
  rcases hu : m.unprotectedOnly with e | v <;> rw [hu] at h <;> cases h
  exact unprotectedOnly_ordinary hu

theorem updateOp_ok (h : m.updateOp rules content = .ok op) :
    m.constitutional = false ∧ rules.validate content = .ok () ∧ op = .setContent m.id content := by
  unfold Memory.updateOp at h
  rcases hu : m.unprotectedOnly with e | v <;> rw [hu] at h
  · cases h
  · rcases hv : rules.validate content with e | w <;> rw [hv] at h <;> cases h
    exact ⟨unprotectedOnly_ok hu, rfl, rfl⟩

theorem updateOp_ordinary (h : m.updateOp rules content = .error e) : e.Ordinary := by
  unfold Memory.updateOp at h
  rcases hu : m.unprotectedOnly with e | v <;> rw [hu] at h
  · cases h
    exact unprotectedOnly_ordinary hu
  · rcases hv : rules.validate content with e | w <;> rw [hv] at h <;> cases h
    exact validate_ordinary hv

end Guarded

/-! ### The sources of a merge -/

theorem reads_mergeSource (id : MemoryId) : Reads (mergeSource id) := by
  unfold mergeSource
  exact (reads_ownedLive id).bind fun m =>
    (reads_liftExcept fun _ => tombstoneOp_ordinary).bind fun _ => reads_pure _

theorem mergeSource_ok {id : MemoryId} {s s' : Session} {a a' : Archive}
    {p : WriteOp × MemorySnapshot} (h : s.answer a (mergeSource id) = (.ok p, s', a')) :
    ∃ m : Memory, m.id = id ∧ a.store.Holds s.params.owner m ∧ m.constitutional = false ∧
      p = (.setTombstone m.id true, ⟨m.id, m.content⟩) := by
  obtain ⟨m, s₁, a₁, hm, h⟩ := answer_bind_ok h
  obtain ⟨hid, hh⟩ := ownedLive_ok hm
  obtain ⟨op, s₂, a₂, hop, h⟩ := answer_bind_ok h
  rw [answer_liftExcept] at hop
  obtain ⟨hc, rfl⟩ := tombstoneOp_ok (Prod.mk.inj hop).1
  cases h
  exact ⟨m, hid, hh, hc, rfl⟩

/-- **The sources of a merge** are live, unprotected memories of the owner, one for each id. -/
theorem mergeSources_ok {s : Session} : ∀ {ids : List MemoryId} {s' : Session} {a a' : Archive}
    {ps : List (WriteOp × MemorySnapshot)},
    s.answer a (ids.mapM mergeSource) = (.ok ps, s', a') →
    ∃ ms : List Memory, ms.map (·.id) = ids ∧
      (∀ m ∈ ms, a.store.Holds s.params.owner m ∧ m.constitutional = false) ∧
      ps = ms.map fun m => (.setTombstone m.id true, ⟨m.id, m.content⟩)
  | [], s', a, a', ps, h => by
    cases h
    exact ⟨[], rfl, nofun, rfl⟩
  | id :: ids, s', a, a', ps, h => by
    rw [List.mapM_cons] at h
    obtain ⟨p, s₁, a₁, hp, h₁⟩ := answer_bind_ok h
    obtain ⟨ps', s₂, a₂, hps, h₂⟩ := answer_bind_ok h₁
    obtain ⟨rfl, hs⟩ := (reads_mergeSource id).still hp
    obtain ⟨m, rfl, hh, hc, rfl⟩ := mergeSource_ok hp
    obtain ⟨ms, rfl, hms, rfl⟩ := mergeSources_ok hps
    cases h₂
    refine ⟨m :: ms, rfl, fun m' hm' => ?_, rfl⟩
    rcases List.mem_cons.mp hm' with rfl | hm'
    · exact ⟨hh, hc⟩
    · rw [← hs.store]
      exact hms m' hm'

end Session
end Curation
