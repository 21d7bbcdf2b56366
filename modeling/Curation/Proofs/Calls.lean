/-
# Calls and what they leave alone

A call is a function on the archive that may be refused.
This module says how calls compose and which of them only READ: a call that reads leaves the
store, the backend and the counters as they were and hands no batch over, whatever it answers.  It
may still read the clock, draw ids and use up an armed fault, so the archive itself does change.

Everything later rests on the two inversion lemmas `answer_bind_ok`: a call made of two parts
succeeded only if both parts did, one after the other.
-/
import Curation.Proofs.Tokens
import Curation.Session.Recovery

namespace Curation

variable {ε α β : Type}

/-! ## 1. Answers -/

/-- What an archive answers to a call, and what becomes of it. -/
def Archive.answer (a : Archive) (x : ExceptT ε (StateM Archive) α) : Except ε α × Archive :=
  x.run.run a

namespace Archive

theorem answer_bind (a : Archive) (x : ExceptT ε (StateM Archive) α)
    (f : α → ExceptT ε (StateM Archive) β) :
    a.answer (x >>= f) =
      match a.answer x with
      | (.ok v, a') => a'.answer (f v)
      | (.error e, a') => (.error e, a') := by
  unfold answer
  rw [ExceptT.run_bind, StateT.run_bind]
  rcases h : x.run.run a with ⟨r, a'⟩
  cases r <;> rfl

theorem answer_bind_ok {a a' : Archive} {x : ExceptT ε (StateM Archive) α}
    {f : α → ExceptT ε (StateM Archive) β} {w : β} (h : a.answer (x >>= f) = (.ok w, a')) :
    ∃ v a₁, a.answer x = (.ok v, a₁) ∧ a₁.answer (f v) = (.ok w, a') := by
  rw [answer_bind] at h
  rcases hx : a.answer x with ⟨r, a₁⟩
  rw [hx] at h
  cases r with
  | ok v => exact ⟨v, a₁, rfl, h⟩
  | error e => cases h

/-- Whether a call succeeds and something holds then. -/
def yields (a : Archive) (x : ExceptT ε (StateM Archive) α) (p : α → Archive → Bool) : Bool :=
  match a.answer x with
  | (.ok v, a') => p v a'
  | (.error _, _) => false

theorem exists_of_yields {a : Archive} {x : ExceptT ε (StateM Archive) α} {p : α → Archive → Bool}
    (h : a.yields x p = true) : ∃ v a', a.answer x = (.ok v, a') ∧ p v a' = true := by
  unfold yields at h
  rcases hx : a.answer x with ⟨r, a'⟩
  rw [hx] at h
  cases r with
  | ok v => exact ⟨v, a', rfl, h⟩
  | error e => cases h

@[simp] theorem answer_pure (a : Archive) (v : α) :
    a.answer (pure v : ExceptT ε (StateM Archive) α) = (.ok v, a) := rfl

@[simp] theorem answer_throw (a : Archive) (e : ε) :
    a.answer (throw e : ExceptT ε (StateM Archive) α) = (.error e, a) := rfl

@[simp] theorem answer_get (a : Archive) :
    a.answer (get : ExceptT ε (StateM Archive) Archive) = (.ok a, a) := rfl

@[simp] theorem answer_set (a a' : Archive) :
    a.answer (set a' : ExceptT ε (StateM Archive) PUnit) = (.ok ⟨⟩, a') := rfl

@[simp] theorem answer_lift (a : Archive) (x : StateM Archive α) :
    a.answer (liftM x : ExceptT ε (StateM Archive) α) = (.ok (x.run a).1, (x.run a).2) := rfl

@[simp] theorem answer_liftExcept (a : Archive) (x : Except ε α) :
    a.answer (liftM x : ExceptT ε (StateM Archive) α) = (x, a) := by
  cases x <;> rfl

/-- A call whose refusal is looked at is never refused itself. -/
@[simp] theorem answer_liftRun {ε' : Type} (a : Archive) (x : ExceptT ε (StateM Archive) α) :
    a.answer (ExceptT.lift x.run : ExceptT ε' (StateM Archive) (Except ε α)) =
      (.ok (a.answer x).1, (a.answer x).2) := rfl

theorem answer_ofStore (a : Archive) (x : StoreM α) :
    a.answer (liftM x : CurationM α) =
      ((a.answer x).1.mapError CurationError.storage, (a.answer x).2) := by
  show a.answer (CurationM.ofStore x) = _
  unfold answer CurationM.ofStore
  rcases h : x.run.run a with ⟨r, a'⟩
  cases r <;> simp [h] <;> rfl

/-! ### Clock, ids and counters -/

@[simp] theorem run_now (a : Archive) :
    now.run a = (a.clock.next, { a with clock := a.clock.advance }) := rfl

@[simp] theorem run_newId (a : Archive) :
    newId.run a = (Ident.generated a.drawn, { a with drawn := a.drawn + 1 }) := rfl

@[simp] theorem run_newMemory (a : Archive) (owner : OwnerId) (content : String)
    (kind : MemoryKind) :
    (newMemory owner content kind).run a =
      (Memory.fresh ⟨Ident.generated a.drawn⟩ owner content kind a.clock.next,
        { a with drawn := a.drawn + 1, clock := a.clock.advance }) := rfl

@[simp] theorem run_newEntry (a : Archive) (session : SessionId) (owner : OwnerId) (seq : Nat)
    (action : AuditAction) (subject : List MemoryId) (payload : Json) :
    (newEntry session owner seq action subject payload).run a =
      (AuditEntry.make ⟨Ident.generated a.drawn⟩ a.clock.next session owner seq action subject
        payload, { a with drawn := a.drawn + 1, clock := a.clock.advance }) := rfl

@[simp] theorem run_count (a : Archive) (f : Counters → Counters) :
    (count f).run a = ((), { a with counters := f a.counters }) := rfl

@[simp] theorem run_hand (a : Archive) (ops : List WriteOp) :
    (hand ops).run a = ((), { a with handed := ⟨a.store, ops⟩ :: a.handed }) := rfl

@[simp] theorem run_takeBatchFault (a : Archive) :
    takeBatchFault.run a =
      (a.faults.batchAt, { a with faults := { a.faults with batchAt := none } }) := rfl

/-! ## 2. The calls of the store -/

/-- Nothing was written or counted, and no batch was handed over.  The clock may have moved on,
ids may have been drawn and faults may have struck. -/
structure Still (a a' : Archive) : Prop where
  backend : a'.backend = a.backend
  store : a'.store = a.store
  counters : a'.counters = a.counters
  handed : a'.handed = a.handed

theorem Still.refl (a : Archive) : Still a a := ⟨rfl, rfl, rfl, rfl⟩

theorem Still.trans {a b c : Archive} (h : Still a b) (h' : Still b c) : Still a c where
  backend := h'.backend.trans h.backend
  store := h'.store.trans h.store
  counters := h'.counters.trans h.counters
  handed := h'.handed.trans h.handed

/-- Calls one after the other, each of which leaves things as they are. -/
theorem Still.bind {a : Archive} {x : ExceptT ε (StateM Archive) α}
    {f : α → ExceptT ε (StateM Archive) β} (hx : Still a (a.answer x).2)
    (hf : ∀ v a₁, Still a₁ (a₁.answer (f v)).2) : Still a (a.answer (x >>= f)).2 := by
  rw [answer_bind]
  rcases h : a.answer x with ⟨r, a₁⟩
  rw [h] at hx
  cases r with
  | ok v => exact hx.trans (hf v a₁)
  | error e => exact hx

/-- A gate touches nothing but the faults. -/
theorem answer_gate (a : Archive) (call : StoreCall) :
    ∃ r f, a.answer (gate call) = (r, { a with faults := f }) := by
  unfold gate
  rcases hp : a.faults.passes? call with _ | (_ | n)
  · exact ⟨.ok (), a.faults, by simp [answer_bind, hp]⟩
  · exact ⟨.error (.backend (.injected call)), a.faults.disarm call, by simp [answer_bind, hp]⟩
  · exact ⟨.ok (), a.faults.arm call n, by simp [answer_bind, hp]⟩

/-- A gate lets a call through unless its fault is due.  It looks at no other fault. -/
theorem answer_gate_of_passes {a : Archive} {call : StoreCall}
    (h : a.faults.passes? call ≠ some 0) :
    ∃ f, (∀ other, other ≠ call → f.passes? other = a.faults.passes? other) ∧
      a.answer (gate call) = (.ok (), { a with faults := f }) := by
  unfold gate
  rcases hp : a.faults.passes? call with _ | (_ | n)
  · exact ⟨a.faults, fun _ _ => rfl, by simp [answer_bind, hp]⟩
  · exact absurd hp h
  · exact ⟨a.faults.arm call n, fun _ ho => a.faults.passes?_arm_of_ne ho n,
      by simp [answer_bind, hp]⟩

/-- A gate stands open for a call that no fault is armed for. -/
theorem answer_gate_of_open {a : Archive} {call : StoreCall} (h : a.faults.passes? call = none) :
    a.answer (gate call) = (.ok (), a) := by
  unfold gate
  simp [answer_bind, h]

theorem passes?_of_none {a : Archive} (ha : a.faults = .none) (call : StoreCall) :
    a.faults.passes? call = none := by
  rw [ha]
  rfl

theorem answer_gate_of_none {a : Archive} (ha : a.faults = .none) (call : StoreCall) :
    a.answer (gate call) = (.ok (), a) :=
  answer_gate_of_open (passes?_of_none ha call)

section Gated

variable (call : StoreCall) {f : Archive → α}

/-- **A call that waits at its gate and then reads off the store.**  It leaves the store alone,
and what it answers is what stands there. -/
theorem answer_gated (hf : ∀ a fl, f { a with faults := fl } = f a) (a : Archive) :
    ∃ r a', a.answer (do gate call; return f (← get) : StoreM α) = (r, a') ∧ Still a a' ∧
      ∀ v, r = .ok v → v = f a := by
  obtain ⟨r, fl, h⟩ := answer_gate a call
  rw [answer_bind, h]
  cases r with
  | ok _ => exact ⟨_, _, rfl, ⟨rfl, rfl, rfl, rfl⟩, fun v hv => by cases hv; exact hf a fl⟩
  | error e => exact ⟨_, _, rfl, ⟨rfl, rfl, rfl, rfl⟩, fun v hv => by cases hv⟩

theorem answer_gated_of_open {a : Archive} (h : a.faults.passes? call = none) :
    a.answer (do gate call; return f (← get) : StoreM α) = (.ok (f a), a) := by
  rw [answer_bind, answer_gate_of_open h]
  rfl

end Gated

theorem answer_getMemory (a : Archive) (id : MemoryId) :
    ∃ r a', a.answer (getMemory id) = (r, a') ∧ Still a a' ∧
      ∀ m, r = .ok m → a.store.memory? id = some m := by
  obtain ⟨r, fl, h⟩ := answer_gate a .getMemory
  unfold getMemory
  rw [answer_bind, h]
  cases r with
  | error e => exact ⟨_, _, rfl, ⟨rfl, rfl, rfl, rfl⟩, fun m hm => by cases hm⟩
  | ok _ =>
    rcases hm : a.store.memory? id with _ | m
    · exact ⟨.error (.memoryNotFound id), { a with faults := fl }, by simp [answer_bind, hm],
        ⟨rfl, rfl, rfl, rfl⟩, fun m hm => by cases hm⟩
    · exact ⟨.ok m, { a with faults := fl }, by simp [answer_bind, hm], ⟨rfl, rfl, rfl, rfl⟩,
        fun m' h => by cases h; rfl⟩

/-- Replacing the store touches nothing else, and a refused change not even that. -/
theorem answer_change (a : Archive) (f : Backend → Store → Except StorageError Store) :
    a.answer (change f) =
      match f a.backend a.store with
      | .ok s => (.ok (), { a with store := s })
      | .error e => (.error e, a) := by
  unfold change
  rcases h : f a.backend a.store with e | s <;> simp [answer_bind, h]

/-- A memory that was added was taken by the store. -/
theorem insertMemory_ok {a a' : Archive} {m m' : Memory}
    (h : a.answer (insertMemory m) = (.ok m', a')) :
    m' = m ∧ a.store.insert m = .ok a'.store := by
  obtain ⟨r, f, hgate⟩ := answer_gate a .insertMemory
  unfold insertMemory at h
  obtain ⟨_, a₁, h₁, h⟩ := answer_bind_ok h
  rw [hgate] at h₁
  cases h₁
  obtain ⟨_, a₂, h₂, h⟩ := answer_bind_ok h
  rw [answer_change] at h₂
  cases h
  rcases hs : a.store.insert m with e | s <;> simp only [hs] at h₂ <;> cases h₂
  exact ⟨rfl, rfl⟩

/-- A memory is added if the store takes it. -/
theorem answer_insertMemory_of_open {a : Archive} (h : a.faults.passes? .insertMemory = none)
    (m : Memory) :
    a.answer (insertMemory m) =
      match a.store.insert m with
      | .ok s => (.ok m, { a with store := s })
      | .error e => (.error e, a) := by
  unfold insertMemory
  rw [answer_bind, answer_gate_of_open h]
  dsimp only
  rw [answer_bind, answer_change]
  cases a.store.insert m <;> rfl

/-- **A batch is written or it is not.**  It is handed over as the store stands, and if it is
refused, for whatever reason and at whatever op, the store is as it was. -/
theorem answer_applyBatch (a : Archive) (ops : List WriteOp) :
    ∃ r a', a.answer (applyBatch ops) = (r, a') ∧ a'.backend = a.backend ∧
      a'.counters = a.counters ∧ a'.handed = ⟨a.store, ops⟩ :: a.handed ∧
      match r with
      | .ok _ => ∃ t fault, a.store.applyBatch a.backend t fault ops = .ok a'.store
      | .error _ => a'.store = a.store := by
  unfold applyBatch
  rw [answer_bind, answer_lift, run_hand]
  dsimp only
  generalize ha₁ : ({ a with handed := _ } : Archive) = a₁
  obtain ⟨r, fl, h⟩ := answer_gate a₁ .applyBatch
  rw [answer_bind, h]
  subst ha₁
  cases r with
  | error e => exact ⟨_, _, rfl, rfl, rfl, rfl, rfl⟩
  | ok _ =>
    simp only [answer_bind, answer_lift, answer_change, run_takeBatchFault, run_now]
    rcases hb : a.store.applyBatch a.backend a.clock.next fl.batchAt ops with e | s
    · exact ⟨_, _, rfl, rfl, rfl, rfl, rfl⟩
    · exact ⟨_, _, rfl, rfl, rfl, rfl, _, _, hb⟩

theorem answer_applyBatch_of_none {a : Archive} (ha : a.faults = .none) {ops : List WriteOp}
    {s : Store} (h : a.store.applyBatch a.backend a.clock.next none ops = .ok s) :
    a.answer (applyBatch ops) = (.ok (), { a with
      store := s, clock := a.clock.advance, handed := ⟨a.store, ops⟩ :: a.handed }) := by
  have hgate := answer_gate_of_none (a := { a with handed := ⟨a.store, ops⟩ :: a.handed }) ha
    .applyBatch
  unfold applyBatch
  rw [answer_bind, answer_lift, run_hand]
  dsimp only
  rw [answer_bind, hgate]
  simp only [answer_bind, answer_lift, answer_change, run_takeBatchFault, run_now, ha,
    Faults.none, h]

end Archive

/-! ## 3. Calls that only read -/

/-- What ends more than a call: a rollback that could not be written, with which only `complete`
and `reconcile` fail, and only after they have tried; and a panic, which breaks a call off. -/
inductive CurationError.Grave : CurationError → Prop
  | rollbackFailed (session : SessionId) (reason : String) : Grave (.rollbackFailed session reason)
  | beyondCalendar : Grave .beyondCalendar
  | sumOverflow : Grave .sumOverflow

/-- Any other refusal. -/
def CurationError.Ordinary (e : CurationError) : Prop := ¬ e.Grave

theorem CurationError.ordinary_iff {e : CurationError} :
    e.Ordinary ↔ e.isPanic = false ∧ ∀ session reason, e ≠ .rollbackFailed session reason := by
  constructor
  · intro h
    refine ⟨?_, fun session reason he => h (he ▸ .rollbackFailed session reason)⟩
    cases e with
    | beyondCalendar => exact absurd .beyondCalendar h
    | sumOverflow => exact absurd .sumOverflow h
    | _ => rfl
  · rintro ⟨hp, hne⟩ hgrave
    cases hgrave with
    | rollbackFailed session reason => exact hne session reason rfl
    | beyondCalendar => cases hp
    | sumOverflow => cases hp

/-- **What an owner holds can be measured**: the tokens of its live core memories fit a word. -/
def Store.MassFits (rules : MemoryRules) (owner : OwnerId) (σ : Store) : Prop :=
  rules.meter.total (σ.list owner (.live .core)) < 2 ^ 64

instance (rules : MemoryRules) (owner : OwnerId) (σ : Store) : Decidable (σ.MassFits rules owner) :=
  inferInstanceAs (Decidable (_ < _))

theorem Store.massFits_iff {rules : MemoryRules} {owner : OwnerId} {σ : Store} :
    σ.MassFits rules owner ↔ ∃ mass, rules.meter.mass (σ.list owner (.live .core)) = some mass :=
  (rules.meter.exists_mass_iff).symm

/-- A call that leaves the archive still and refuses, if it does, for an ordinary reason. -/
def Archive.Reads (x : CurationM α) : Prop :=
  ∀ a, Archive.Still a (a.answer x).2 ∧ ∀ e, (a.answer x).1 = .error e → e.Ordinary

namespace Archive

theorem Reads.still {x : CurationM α} (hx : Reads x) {a a' : Archive}
    {r : Except CurationError α} (h : a.answer x = (r, a')) : Still a a' := by
  have := (hx a).1
  rwa [h] at this

theorem Reads.ordinary {x : CurationM α} (hx : Reads x) {a a' : Archive} {e : CurationError}
    (h : a.answer x = (.error e, a')) : e.Ordinary :=
  (hx a).2 e (by rw [h])

theorem reads_pure (v : α) : Reads (pure v : CurationM α) :=
  fun a => ⟨Still.refl a, fun e he => by cases he⟩

theorem reads_throw {e : CurationError} (he : e.Ordinary) : Reads (throw e : CurationM α) :=
  fun a => ⟨Still.refl a, fun e' h => by cases h; exact he⟩

theorem reads_lift {x : StateM Archive α} (h : ∀ a, Still a (x.run a).2) :
    Reads (liftM x : CurationM α) :=
  fun a => ⟨h a, fun e he => by cases he⟩

theorem Reads.bind {x : CurationM α} {f : α → CurationM β} (hx : Reads x)
    (hf : ∀ v, Reads (f v)) : Reads (x >>= f) := by
  intro a
  rw [answer_bind]
  rcases h : a.answer x with ⟨r, a₁⟩
  cases r with
  | ok v => exact ⟨(hx.still h).trans (hf v a₁).1, (hf v a₁).2⟩
  | error e => exact ⟨hx.still h, fun e' he => by cases he; exact hx.ordinary h⟩

/-- The refusals of a store are ordinary ones. -/
theorem reads_ofStore {x : StoreM α} (hx : ∀ a, Still a (a.answer x).2) :
    Reads (liftM x : CurationM α) := by
  intro a
  rw [answer_ofStore]
  refine ⟨hx a, fun e he => ?_⟩
  rcases h : (a.answer x).1 with c | v <;> rw [h] at he <;> cases he
  exact nofun

/-- What a gated call answers through the curation layer. -/
theorem ofStore_ok {x : StoreM α} {a a' : Archive} {v : α}
    (h : a.answer (liftM x : CurationM α) = (.ok v, a')) : a.answer x = (.ok v, a') := by
  rw [answer_ofStore] at h
  rcases hx : a.answer x with ⟨r, a₁⟩
  rw [hx] at h
  cases r with
  | ok w => cases h; rfl
  | error e => cases h

theorem reads_gated {call : StoreCall} {f : Archive → α}
    (hf : ∀ a fl, f { a with faults := fl } = f a) :
    Reads (liftM (do gate call; return f (← get) : StoreM α) : CurationM α) :=
  reads_ofStore fun a => by
    obtain ⟨r, a', h, hs, -⟩ := answer_gated call hf a
    rw [h]
    exact hs

theorem gated_ok {call : StoreCall} {f : Archive → α}
    (hf : ∀ a fl, f { a with faults := fl } = f a) {a a' : Archive} {v : α}
    (h : a.answer (liftM (do gate call; return f (← get) : StoreM α) : CurationM α)
      = (.ok v, a')) : v = f a := by
  obtain ⟨r, a₁, h₁, -, hv⟩ := answer_gated call hf a
  have h₂ := ofStore_ok h
  rw [h₁] at h₂
  cases h₂
  exact hv v rfl

theorem gated_of_open {call : StoreCall} {f : Archive → α} {a : Archive}
    (h : a.faults.passes? call = none) :
    a.answer (liftM (do gate call; return f (← get) : StoreM α) : CurationM α) =
      (.ok (f a), a) := by
  rw [answer_ofStore, answer_gated_of_open _ h]
  rfl

theorem gated_of_none {call : StoreCall} {f : Archive → α} {a : Archive}
    (ha : a.faults = .none) :
    a.answer (liftM (do gate call; return f (← get) : StoreM α) : CurationM α) =
      (.ok (f a), a) :=
  gated_of_open (passes?_of_none ha call)

/-! ### The trail -/

theorem reads_forSession (id : SessionId) : Reads (liftM (forSession id) : CurationM _) :=
  reads_gated (f := fun a => a.store.forSession id) fun _ _ => rfl

theorem forSession_ok {id : SessionId} {a a' : Archive} {es : List AuditEntry}
    (h : a.answer (liftM (forSession id) : CurationM _) = (.ok es, a')) :
    es = a.store.forSession id :=
  gated_ok (f := fun a => a.store.forSession id) (fun _ _ => rfl) h

theorem forSession_of_none {a : Archive} (ha : a.faults = .none) (id : SessionId) :
    a.answer (liftM (forSession id) : CurationM _) = (.ok (a.store.forSession id), a) :=
  gated_of_none (f := fun a => a.store.forSession id) ha

/-- What is listed as open is what the owner's entries show. -/
theorem openSessions_ok {owner : OwnerId} {a a' : Archive} {sids : List SessionId}
    (h : a.answer (openSessions owner) = (.ok sids, a')) :
    Still a a' ∧ sids = openSessionsOf (a.store.forOwner a.backend owner) := by
  obtain ⟨es, a₁, hes, h⟩ := answer_bind_ok h
  have hread : Reads (liftM (forOwner owner) : CurationM _) :=
    reads_gated (f := fun a => a.store.forOwner a.backend owner) fun _ _ => rfl
  have hv := gated_ok (f := fun a => a.store.forOwner a.backend owner) (fun _ _ => rfl) hes
  have hst := hread.still hes
  cases h
  exact ⟨hst, by rw [hv]⟩

theorem openSessions_of_none {a : Archive} (ha : a.faults = .none) (owner : OwnerId) :
    a.answer (openSessions owner) =
      (.ok (openSessionsOf (a.store.forOwner a.backend owner)), a) := by
  have h : a.answer (liftM (forOwner owner) : CurationM _) =
      (.ok (a.store.forOwner a.backend owner), a) :=
    gated_of_none (f := fun a => a.store.forOwner a.backend owner) ha
  unfold openSessions
  rw [answer_bind, h]
  rfl

/-! ### Memories and settings -/

theorem reads_listMemories (owner : OwnerId) (filter : MemoryFilter) :
    Reads (liftM (listMemories owner filter) : CurationM _) :=
  reads_gated (f := fun a => a.store.list owner filter) fun _ _ => rfl

theorem listMemories_of_open {a : Archive} (h : a.faults.passes? .listMemories = none)
    (owner : OwnerId) (filter : MemoryFilter) :
    a.answer (liftM (listMemories owner filter) : CurationM _) =
      (.ok (a.store.list owner filter), a) :=
  gated_of_open (f := fun a => a.store.list owner filter) h

/-- A listing is answered unless its fault is due. -/
theorem listMemories_of_passes {a : Archive} (h : a.faults.passes? .listMemories ≠ some 0)
    (owner : OwnerId) (filter : MemoryFilter) :
    ∃ f, (∀ other, other ≠ .listMemories → f.passes? other = a.faults.passes? other) ∧
      a.answer (liftM (listMemories owner filter) : CurationM _) =
        (.ok (a.store.list owner filter), { a with faults := f }) := by
  obtain ⟨f, hothers, hgate⟩ := answer_gate_of_passes h
  refine ⟨f, hothers, ?_⟩
  rw [answer_ofStore]
  unfold listMemories
  rw [answer_bind, hgate]
  rfl

/-- A listing that was answered was let through. -/
theorem passes_of_listMemories_ok {owner : OwnerId} {filter : MemoryFilter} {a a' : Archive}
    {ms : List Memory} (h : a.answer (liftM (listMemories owner filter) : CurationM _) =
      (.ok ms, a')) : a.faults.passes? .listMemories ≠ some 0 := by
  intro hdue
  have h := ofStore_ok h
  unfold listMemories gate at h
  simp [answer_bind, hdue] at h

theorem listMemories_ok {owner : OwnerId} {filter : MemoryFilter} {a a' : Archive}
    {ms : List Memory} (h : a.answer (liftM (listMemories owner filter) : CurationM _) =
      (.ok ms, a')) : ms = a.store.list owner filter :=
  gated_ok (f := fun a => a.store.list owner filter) (fun _ _ => rfl) h

/-- **What a measurement measures.**  It reads, and is broken off if the mass does not fit. -/
theorem usage_cases (rules : MemoryRules) (owner : OwnerId) (kind : MemoryKind) (a : Archive) :
    ∃ r a', a.answer (rules.usage owner kind) = (r, a') ∧ Still a a' ∧
      match r with
      | .ok mass => rules.meter.mass (a.store.list owner (.live kind)) = some mass
      | .error e => e.Ordinary ∨
          e = .sumOverflow ∧ rules.meter.mass (a.store.list owner (.live kind)) = none := by
  unfold MemoryRules.usage
  rw [answer_bind]
  rcases h : a.answer (liftM (listMemories owner (.live kind)) : CurationM _) with ⟨r, a₁⟩
  have hread := reads_listMemories owner (.live kind)
  have hst := hread.still h
  cases r with
  | error e => exact ⟨_, _, rfl, hst, .inl (hread.ordinary h)⟩
  | ok live =>
    obtain rfl := listMemories_ok h
    dsimp only
    split
    · next mass hmass => exact ⟨_, _, rfl, hst, hmass⟩
    · next hnone => exact ⟨_, _, rfl, hst, .inr ⟨rfl, hnone⟩⟩

theorem usage_ok {rules : MemoryRules} {owner : OwnerId} {kind : MemoryKind} {a a' : Archive}
    {mass : UInt64} (h : a.answer (rules.usage owner kind) = (.ok mass, a')) :
    Still a a' ∧ rules.meter.mass (a.store.list owner (.live kind)) = some mass := by
  obtain ⟨r, a₁, hr, hst, hcase⟩ := usage_cases rules owner kind a
  rw [h] at hr
  cases hr
  exact ⟨hst, hcase⟩

/-- A measurement that nothing stands in the way of says what the mass is, if there is one. -/
theorem usage_of_open {a : Archive} (h : a.faults.passes? .listMemories = none)
    (rules : MemoryRules) (owner : OwnerId) (kind : MemoryKind) :
    a.answer (rules.usage owner kind) =
      ((rules.meter.mass (a.store.list owner (.live kind))).elim (.error .sumOverflow) .ok, a) := by
  unfold MemoryRules.usage
  rw [answer_bind, listMemories_of_open h]
  dsimp only
  rcases rules.meter.mass (a.store.list owner (.live kind)) with _ | mass <;> rfl

theorem usage_of_none {a : Archive} (ha : a.faults = .none) (rules : MemoryRules)
    (owner : OwnerId) (kind : MemoryKind) :
    a.answer (rules.usage owner kind) =
      ((rules.meter.mass (a.store.list owner (.live kind))).elim (.error .sumOverflow) .ok, a) :=
  usage_of_open (passes?_of_none ha _) rules owner kind

theorem reads_threshold (c : Config) (owner : OwnerId) : Reads (threshold c owner) :=
  (reads_gated (f := fun a => a.store.settingsOf owner) fun _ _ => rfl).bind fun _ => reads_pure _

theorem threshold_of_none {a : Archive} (ha : a.faults = .none) (c : Config) (owner : OwnerId) :
    a.answer (threshold c owner) =
      (.ok ((a.store.settingsOf owner).threshold.getD c.threshold), a) := by
  unfold threshold ownerSettings
  rw [answer_bind, gated_of_none ha]
  rfl

theorem reads_getOwned (owner : OwnerId) (id : MemoryId) : Reads (getOwned owner id) := by
  refine (reads_lift fun a => ?_).bind fun r => ?_
  · obtain ⟨r, a', h, hs, -⟩ := answer_getMemory a id
    show Still a (a.answer (getMemory id)).2
    rw [h]
    exact hs
  · split
    · split
      · exact reads_pure _
      · exact reads_throw nofun
    · exact reads_throw nofun
    · exact reads_throw nofun

/-- A memory that is shown to an owner is the owner's. -/
theorem getOwned_ok {owner : OwnerId} {id : MemoryId} {a a' : Archive} {m : Memory}
    (h : a.answer (getOwned owner id) = (.ok m, a')) :
    a.store.memory? id = some m ∧ m.owner = owner := by
  obtain ⟨r, a₁, hr, h⟩ := answer_bind_ok h
  obtain ⟨r', a₂, hg, -, hm⟩ := answer_getMemory a id
  have hrr : r = r' := by
    have : (Except.ok (a.answer (getMemory id)).1, (a.answer (getMemory id)).2) =
      ((.ok r, a₁) : Except CurationError _ × Archive) := hr
    rw [hg] at this
    cases this
    rfl
  subst hrr
  split at h
  · split at h
    · next m' ho =>
      cases h
      exact ⟨hm m rfl, ho⟩
    · cases h
  · cases h
  · cases h

theorem reads_search (owner : OwnerId) (query : String) (limit : Nat) :
    Reads (search owner query limit) := by
  unfold search
  dsimp only
  split
  · exact reads_throw nofun
  · exact (reads_listMemories _ _).bind fun _ => reads_pure _

end Archive
end Curation
