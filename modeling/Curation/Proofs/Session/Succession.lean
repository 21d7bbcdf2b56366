/-
# Abandoned sessions, one after the other

Sessions of one owner are begun one after the other, each when the one before it has been abandoned.
Nothing else writes.  Then the trail tells of each session by itself, and its undoing leads from
the store that it left back to the store that it found, not to the one before the first session.

So what the undoing of a session writes to a memory is what THAT session found there
(`Settled.found`), which is what was there at first only for the first session that changed it
(`Settled.first`).  In memory the trail lists the sessions oldest first
(`Successive.openSessions`).
-/
import Curation.Proofs.Session.Changes
import Curation.Proofs.Session.Recovery

namespace Curation

/-! ## 1. What a session adds to the trail -/

/-- **What a session adds to the trail** and leaves of the rest: `σ` is the store that it found. -/
structure Added (p : SessionParams) (new : List AuditEntry) (σ σ' : Store) : Prop where
  trail : σ'.trail = σ.trail ++ new
  /-- It writes under its own id and in the name of its owner. -/
  own : ∀ e ∈ new, e.session = p.session ∧ e.owner = p.owner
  undoable : ∀ e ∈ new, e.action.isTerminal = false → e.Undoable σ'
  /-- What its entries do not tell of is as it was. -/
  kept : ∀ mid m, σ.memory? mid = some m → ∃ m', σ'.memory? mid = some m' ∧
    ∀ f, (∀ e ∈ new, ¬ e.Changes mid f) → m'.aspect f = m.aspect f

namespace Session

variable {c : Config} {owner : OwnerId} {s s' s₀ : Session} {a a' a₀ a₁ : Archive}
  {new : List AuditEntry} {σ₀ : Store}

/-- **One more action.**  Where the session is rolled back, all that is undone is its own. -/
theorem added_performed {act : Action} {r : Except CurationError ActionOutcome}
    (hunused : σ₀.entriesOf s.params.session = []) (h : Added s.params new σ₀ a.store)
    (hp : Performed s a act (r, s', a')) : ∃ new', Added s.params new' σ₀ a'.store := by
  obtain ⟨late, htrail, hlate⟩ := performed_trail hp
  have hown : a.store.entriesOf s.params.session = new := by
    rw [Store.entriesOf_of_trail h.trail fun e he => (h.own e he).1, hunused, List.nil_append]
  have hundo : ∀ e ∈ s.ownTrail a.store, e.action.isTerminal = false → e.Undoable a.store := by
    intro e he
    refine h.undoable e ?_
    rw [← hown]
    exact (Store.forSession_perm _ _).mem_iff.mp (List.mem_filter.mp he).1
  refine ⟨new ++ late, by rw [htrail, h.trail, List.append_assoc],
    List.forall_mem_append.mpr ⟨h.own, fun e he => ⟨(hlate e he).1, (hlate e he).2.1⟩⟩,
    List.forall_mem_append.mpr ⟨fun e he hf => (h.undoable e he hf).mono (performed_there hp),
      fun e he => (hlate e he).2.2⟩, fun mid m hm => ?_⟩
  obtain ⟨m₁, hm₁, hold⟩ := h.kept mid m hm
  obtain ⟨m', hm', hkept⟩ := performed_keeps hp hundo hm₁
  refine ⟨m', hm', fun f hf => ?_⟩
  refine (hkept f ?_).trans (hold f (List.forall_mem_append.mp hf).1)
  rw [Store.entriesOf_of_trail htrail fun e he => (hlate e he).1, hown]
  exact hf

/-- **Every undisturbed run.** -/
theorem added_run (hb : Begins c owner a₀ s₀ a₁) (hr : Run Archive.Quiet s₀ a₁ s a) :
    s.params = s₀.params ∧ ∃ new, Added s₀.params new a₀.store a.store := by
  obtain ⟨hb, hst⟩ := hb.begun
  refine hr.preserves (P := fun s a => s.params = s₀.params ∧
    ∃ new, Added s₀.params new a₀.store a.store)
    (fun _ _ hq => hq) (fun s a a' h hq => hq.store ▸ h) (fun s a act r s' a' h hp => ?_)
    ⟨rfl, [], ?_⟩
  · obtain ⟨hps, new, hadd⟩ := h
    have hps' : s'.params = s.params := by cases hp <;> rfl
    rw [← hps] at hadd ⊢
    exact ⟨hps', added_performed (hps ▸ hb.entriesOf) hadd hp⟩
  · rw [hst.store]
    exact ⟨by simp, nofun, nofun, fun mid m hm => ⟨m, hm, fun _ _ => rfl⟩⟩

end Session

/-! ## 2. Sessions one after the other -/

/-- A session that was abandoned, and the store that it found when it began. -/
structure Abandoned where
  session : Session
  before : Store

/-- The id of an abandoned session. -/
def Abandoned.id (r : Abandoned) : SessionId := r.session.params.session

/-- **Sessions of an owner, one after the other**, oldest first.  Each begins when the one before
it has been abandoned, none is closed, and nobody else writes. -/
inductive Successive (owner : OwnerId) (a₀ : Archive) : List Abandoned → Archive → Prop
  | start : Successive owner a₀ [] a₀
  | quiet {l : List Abandoned} {a a' : Archive} (h : Successive owner a₀ l a)
      (hq : Archive.Quiet a a') : Successive owner a₀ l a'
  | session {l : List Abandoned} {a a₁ a' : Archive} {c : Config} {s₀ s : Session}
      (h : Successive owner a₀ l a) (hb : Session.Begins c owner a s₀ a₁)
      (hr : Session.Run Archive.Quiet s₀ a₁ s a')
      (hopen : ∀ e ∈ a'.store.forSession s.params.session, e.action.isTerminal = false)
      (hd : ∀ r ∈ l, r.id ≠ s.params.session) :
      Successive owner a₀ (l ++ [⟨s, a.store⟩]) a'

/-- The ops that undo a session, as its trail stands. -/
def Store.undoing (σ : Store) (sid : SessionId) : List WriteOp :=
  match AuditEntry.unwind (σ.forSession sid) with
  | .ok ops => ops
  | .error _ => []

/-- **What a session found** in an aspect of a memory that it changed: what undoing it leaves
there. -/
def Store.found (σ : Store) (sid : SessionId) (mid : MemoryId) (f : Aspect) :
    Option Aspect.Value :=
  lastWrite mid f (σ.undoing sid)

namespace Store

theorem undoing_of_ok {σ : Store} {sid : SessionId} {ops : List WriteOp}
    (h : AuditEntry.unwind (σ.forSession sid) = .ok ops) : σ.undoing sid = ops := by
  rw [undoing, h]

theorem undoing_congr {σ σ' : Store} {sid : SessionId}
    (h : σ'.entriesOf sid = σ.entriesOf sid) : σ'.undoing sid = σ.undoing sid := by
  rw [undoing, undoing, forSession_congr h]

theorem found_congr {σ σ' : Store} {sid : SessionId} (h : σ'.entriesOf sid = σ.entriesOf sid)
    (mid : MemoryId) (f : Aspect) : σ'.found sid mid f = σ.found sid mid f := by
  rw [found, found, undoing_congr h]

/-- A session without entries has changed nothing. -/
theorem found_of_nil {σ : Store} {sid : SessionId} (h : σ.entriesOf sid = []) (mid : MemoryId)
    (f : Aspect) : σ.found sid mid f = none := by
  rw [found, undoing_of_ok (by rw [forSession_eq_nil.mpr h]; rfl), lastWrite_nil]

end Store

/-! ## 3. What one session leaves behind -/

/-- What an abandoned session leaves behind: `σ` is the store that it found. -/
structure Left (owner : OwnerId) (sid : SessionId) (σ σ' : Store) : Prop where
  /-- Its id was new. -/
  unused : σ.entriesOf sid = []
  /-- The trail has grown by its entries and no others. -/
  trail : σ'.trail = σ.trail ++ σ'.entriesOf sid
  open_ : ∀ e ∈ σ'.entriesOf sid, e.owner = owner ∧ e.action.isTerminal = false
  /-- What it changed it has found so, and what it did not change is as it was. -/
  found : ∀ mid m, σ.memory? mid = some m → ∃ m', σ'.memory? mid = some m' ∧
    ∀ f, (σ'.found sid mid f).getD (m'.aspect f) = m.aspect f

theorem Left.same {owner : OwnerId} {sid : SessionId} {σ σ' : Store} (h : Left owner sid σ σ')
    {sid' : SessionId} (hne : sid' ≠ sid) : σ'.entriesOf sid' = σ.entriesOf sid' :=
  Store.entriesOf_of_trail_of_ne h.trail (fun _ he => (Store.mem_entriesOf.mp he).2) hne.symm

/-- **A session that is abandoned** can be undone, and has written under no other id. -/
theorem left_of_run {c : Config} {owner : OwnerId} {s₀ s : Session} {a a₁ a' : Archive}
    (hb : Session.Begins c owner a s₀ a₁) (hr : Session.Run Archive.Quiet s₀ a₁ s a')
    (hopen : ∀ e ∈ a'.store.forSession s.params.session, e.action.isTerminal = false) :
    Left owner s.params.session a.store a'.store := by
  obtain ⟨hps, new, hadd⟩ := Session.added_run hb hr
  obtain ⟨-, hre⟩ := Session.revocable_run hb hr
  have ho : s.params.owner = owner := hps ▸ hb.begun.1.owner
  have hunused : a.store.entriesOf s.params.session = [] := hps ▸ hb.begun.1.entriesOf
  rw [← hps] at hadd
  have hown : a'.store.entriesOf s.params.session = new := by
    rw [Store.entriesOf_of_trail hadd.trail fun e he => (hadd.own e he).1, hunused,
      List.nil_append]
  have hopen' : ∀ e ∈ a'.store.entriesOf s.params.session, e.action.isTerminal = false :=
    fun e he => hopen e ((Store.forSession_perm _ _).mem_iff.mpr he)
  obtain ⟨ops, hops, hu⟩ := hre.undone_of_open hopen
  refine ⟨hunused, by rw [hown, hadd.trail], fun e he => ⟨?_, hopen' e he⟩, fun mid m hm => ?_⟩
  · rw [← ho]
    exact hre.chronicle.owner e he
  · obtain ⟨m', hm', hl⟩ := hu.there mid m hm
    refine ⟨m', hm', fun f => ?_⟩
    have ha := hl.aspect f
    rwa [Store.memory?_id hm, ← Store.undoing_of_ok hops] at ha

/-! ## 4. What all of them leave behind -/

/-- What abandoned sessions leave behind. -/
structure Settled (owner : OwnerId) (σ₀ : Store) (l : List Abandoned) (σ : Store) : Prop where
  /-- The trail has grown by their entries, session by session. -/
  trail : σ.trail = σ₀.trail ++ l.flatMap fun r => σ.entriesOf r.id
  open_ : ∀ r ∈ l, ∀ e ∈ σ.entriesOf r.id, e.owner = owner ∧ e.action.isTerminal = false
  /-- What undoing a session leaves is what the session found. -/
  found : ∀ r ∈ l, ∀ mid m, r.before.memory? mid = some m →
    ∀ f v, σ.found r.id mid f = some v → m.aspect f = v
  /-- What none of them changed is as it was. -/
  kept : ∀ mid m₀, σ₀.memory? mid = some m₀ → ∃ m, σ.memory? mid = some m ∧
    ∀ f, (∀ r ∈ l, σ.found r.id mid f = none) → m.aspect f = m₀.aspect f
  /-- The first session to change something found it as it was before all of them. -/
  first : ∀ l₁ r l₂, l = l₁ ++ r :: l₂ → ∀ mid m₀ f v, σ₀.memory? mid = some m₀ →
    (∀ x ∈ l₁, σ.found x.id mid f = none) → σ.found r.id mid f = some v → v = m₀.aspect f
  /-- Their ids are new and differ. -/
  unused : ∀ r ∈ l, σ₀.entriesOf r.id = []
  apart : (l.map Abandoned.id).Nodup
  /-- No memory is ever lost. -/
  there : ∀ r ∈ l, ∀ mid m₀, σ₀.memory? mid = some m₀ → ∃ m, r.before.memory? mid = some m

namespace Settled

variable {owner : OwnerId} {σ₀ σ σ' : Store} {l : List Abandoned} {r : Abandoned}

/-- Before the first session. -/
theorem start (owner : OwnerId) (σ₀ : Store) : Settled owner σ₀ [] σ₀ where
  trail := by rw [List.flatMap_nil, List.append_nil]
  open_ r hr := absurd hr List.not_mem_nil
  found r hr := absurd hr List.not_mem_nil
  kept mid m₀ hm₀ := ⟨m₀, hm₀, fun _ _ => rfl⟩
  first l₁ r l₂ he := by cases l₁ <;> cases he
  unused r hr := absurd hr List.not_mem_nil
  apart := List.nodup_nil
  there r hr := absurd hr List.not_mem_nil

theorem kept_concat (h : Settled owner σ₀ l r.before) (hl : Left owner r.id r.before σ')
    (hd : ∀ x ∈ l, x.id ≠ r.id) {mid : MemoryId} {m₀ : Memory}
    (hm₀ : σ₀.memory? mid = some m₀) : ∃ m, σ'.memory? mid = some m ∧
      ∀ f, (∀ x ∈ l ++ [r], σ'.found x.id mid f = none) → m.aspect f = m₀.aspect f := by
  obtain ⟨m, hm, hkept⟩ := h.kept mid m₀ hm₀
  obtain ⟨m', hm', ha⟩ := hl.found mid m hm
  refine ⟨m', hm', fun f hf => ?_⟩
  have haf := ha f
  rw [hf r (List.mem_append_right _ (List.mem_singleton_self _))] at haf
  refine haf.trans (hkept f fun x hx => ?_)
  rw [← Store.found_congr (hl.same (hd x hx))]
  exact hf x (List.mem_append_left _ hx)

theorem first_concat (h : Settled owner σ₀ l r.before) (hl : Left owner r.id r.before σ')
    (hd : ∀ x ∈ l, x.id ≠ r.id) {l₁ l₂ : List Abandoned} {x : Abandoned}
    (hx : l ++ [r] = l₁ ++ x :: l₂) {mid : MemoryId} {m₀ : Memory} {f : Aspect}
    {v : Aspect.Value} (hm₀ : σ₀.memory? mid = some m₀)
    (hnone : ∀ z ∈ l₁, σ'.found z.id mid f = none) (hv : σ'.found x.id mid f = some v) :
    v = m₀.aspect f := by
  have hfound : ∀ z ∈ l, σ'.found z.id mid f = r.before.found z.id mid f :=
    fun z hz => Store.found_congr (hl.same (hd z hz)) mid f
  rcases List.eq_nil_or_concat l₂ with rfl | ⟨l₃, y, rfl⟩
  · -- the newest is the first: nothing that is older changed what it changed
    obtain ⟨rfl, hr⟩ := List.append_inj' hx rfl
    cases hr
    obtain ⟨m, hm, hkept⟩ := h.kept mid m₀ hm₀
    obtain ⟨m', hm', ha⟩ := hl.found mid m hm
    have haf := ha f
    rw [hv] at haf
    refine haf.trans (hkept f fun z hz => ?_)
    rw [← hfound z hz]
    exact hnone z hz
  · rw [List.concat_eq_append, ← List.cons_append, ← List.append_assoc] at hx
    obtain ⟨rfl, -⟩ := List.append_inj' hx rfl
    rw [hfound x (by simp)] at hv
    refine h.first l₁ x l₃ rfl mid m₀ f v hm₀ (fun z hz => ?_) hv
    rw [← hfound z (List.mem_append_left _ hz)]
    exact hnone z hz

/-- **One more session.** -/
theorem session (h : Settled owner σ₀ l r.before) (hl : Left owner r.id r.before σ')
    (hd : ∀ x ∈ l, x.id ≠ r.id) : Settled owner σ₀ (l ++ [r]) σ' := by
  have hsame : ∀ x ∈ l, σ'.entriesOf x.id = r.before.entriesOf x.id :=
    fun x hx => hl.same (hd x hx)
  refine ⟨?_, forall_mem_concat (fun x hx => ?_) hl.open_,
    forall_mem_concat (fun x hx mid m hm f v hv => ?_) fun mid m hm f v hv => ?_,
    fun mid m₀ hm₀ => h.kept_concat hl hd hm₀,
    fun l₁ x l₂ hx mid m₀ f v hm₀ hnone hv => h.first_concat hl hd hx hm₀ hnone hv,
    forall_mem_concat h.unused ?_, ?_, forall_mem_concat h.there fun mid m₀ hm₀ => ?_⟩
  · have hflat : (l.flatMap fun x => σ'.entriesOf x.id) =
        l.flatMap fun x => r.before.entriesOf x.id :=
      List.flatMap_congr hsame
    rw [hl.trail, h.trail, List.flatMap_append, hflat, List.append_assoc, List.flatMap_singleton]
  · rw [hsame x hx]
    exact h.open_ x hx
  · rw [Store.found_congr (hsame x hx)] at hv
    exact h.found x hx mid m hm f v hv
  · -- the newest session: undoing it leads back to the store that it found
    obtain ⟨m', hm', ha⟩ := hl.found mid m hm
    have haf := ha f
    rw [hv] at haf
    exact haf.symm
  · have hold := hl.unused
    rw [Store.entriesOf, h.trail, List.filter_append] at hold
    exact (List.append_eq_nil_iff.mp hold).1
  · rw [List.map_append]
    refine List.nodup_append.mpr ⟨h.apart, List.pairwise_singleton _ _, ?_⟩
    intro sid hsid sid' hsid'
    obtain ⟨x, hx, rfl⟩ := List.mem_map.mp hsid
    rw [List.map_singleton, List.mem_singleton] at hsid'
    rw [hsid']
    exact hd x hx
  · obtain ⟨m, hm, -⟩ := h.kept mid m₀ hm₀
    exact ⟨m, hm⟩

end Settled

/-- **What successive sessions leave behind**, once the last of them is abandoned too. -/
theorem Successive.settled {owner : OwnerId} {a₀ a : Archive} {l : List Abandoned}
    (h : Successive owner a₀ l a) : Settled owner a₀.store l a.store := by
  induction h with
  | start => exact .start owner a₀.store
  | quiet h hq ih => exact hq.store ▸ ih
  | session h hb hr hopen hd ih => exact ih.session (left_of_run hb hr hopen) hd

/-! ## 5. Taking one of them back -/

/-- An open session is taken back: each aspect that it changed is as it found it, and the trails
of other sessions are as they were. -/
theorem Recovery.taken_back {c : Config} {owner : OwnerId} {a a' : Archive} {sid : SessionId}
    {v : Recovered} (hc : a.answer (reconcile c owner sid) = (.ok v, a'))
    (hopen : ∀ e ∈ a.store.entriesOf sid, e.owner = owner → e.action.isTerminal = false) :
    (∀ sid', sid ≠ sid' → a'.store.entriesOf sid' = a.store.entriesOf sid') ∧
    ∀ mid m, a.store.memory? mid = some m → ∃ m', a'.store.memory? mid = some m' ∧
      ∀ f, m'.aspect f = (a.store.found sid mid f).getD (m.aspect f) := by
  obtain ⟨e, htrail, hs, -⟩ := closing_of_recovered hc hopen
  obtain ⟨undo, post, threshold, eid, jid, t, jt, time, -, -, -, hu, hw⟩ :=
    rolledBack_of_ok hc hopen
  obtain ⟨t', ht⟩ := hw.written
  refine ⟨fun sid' hne => Store.entriesOf_of_trail_of_ne htrail (fun x hx => ?_) hne,
    fun mid m hm => ⟨_, ht.memory? hm, fun f => ?_⟩⟩
  · rw [List.mem_singleton.mp hx, hs]
  · have hclosing : lastWrite mid f (closingOps c owner sid (a.store.forSession sid) post
        threshold eid jid t jt time) = none := by
      refine lastWrite_of_ne fun op hop => ?_
      simp only [closingOps, List.mem_cons, List.not_mem_nil, or_false] at hop
      rcases hop with rfl | rfl | rfl <;> nofun
    rw [Memory.aspect_revised, Store.memory?_id hm, lastWrite_append, hclosing, Option.none_or,
      Store.found, Store.undoing_of_ok hu]

/-! ## 6. The order in which they are listed -/

theorem Session.backend_run {s₀ s : Session} {a₀ a : Archive}
    (hr : Run Archive.Quiet s₀ a₀ s a) : a.backend = a₀.backend := by
  refine hr.preserves (P := fun _ a => a.backend = a₀.backend) (fun _ _ hq => hq)
    (fun s a a' h hq => hq.backend.trans h) (fun s a act r s' a' h hp => ?_) rfl
  exact hp.backend.trans h

namespace Successive

variable {owner : OwnerId} {a₀ a : Archive} {l : List Abandoned}

theorem backend (h : Successive owner a₀ l a) : a.backend = a₀.backend := by
  induction h with
  | start => rfl
  | quiet h hq ih => exact hq.backend.trans ih
  | session h hb hr hopen hd ih =>
    exact (Session.backend_run hr).trans (hb.begun.2.backend.trans ih)

/-- **Abandoned sessions are listed oldest first** in a store that keeps its entries in the order
in which they came; those that have written nothing are not listed. -/
theorem openSessions (h : Successive owner a₀ l a) (hmem : a₀.backend = .inMemory) :
    openSessionsOf (a.store.forOwner a.backend owner) =
      openSessionsOf (a₀.store.forOwner a₀.backend owner) ++
        (l.filter fun r => !(a.store.entriesOf r.id).isEmpty).map Abandoned.id := by
  have hset := h.settled
  generalize hold : a₀.store.forOwner a₀.backend owner = old
  have hin : ∀ e ∈ l.flatMap fun r => a.store.entriesOf r.id, ∃ r ∈ l, e.session = r.id ∧
      e.owner = owner ∧ e.action.isTerminal = false := by
    intro e he
    obtain ⟨r, hr, her⟩ := List.mem_flatMap.mp he
    exact ⟨r, hr, (Store.mem_entriesOf.mp her).2, hset.open_ r hr e her⟩
  have hown : a.store.forOwner a.backend owner =
      old ++ l.flatMap fun r => a.store.entriesOf r.id := by
    have hall : (l.flatMap fun r => a.store.entriesOf r.id).filter (·.owner == owner) =
        l.flatMap fun r => a.store.entriesOf r.id := by
      refine List.filter_eq_self.mpr fun e he => ?_
      obtain ⟨r, hr, -, ho, -⟩ := hin e he
      simpa using ho
    rw [h.backend, ← hold, hmem, Store.forOwner, Store.forOwner, hset.trail, List.filter_append,
      hall]
  rw [hown, openSessionsOf_append, List.map_flatMap, distinct_flatMap (g := Abandoned.id)]
  · simp only [List.isEmpty_map]
  · intro r hr sid hsid
    obtain ⟨e, he, rfl⟩ := List.mem_map.mp hsid
    exact (Store.mem_entriesOf.mp he).2
  · exact hset.apart
  · intro e he
    obtain ⟨r, hr, -, -, ht⟩ := hin e he
    exact ht
  · intro e he e' he' hs
    obtain ⟨r, hr, hs', -, -⟩ := hin e' he'
    have hm := Store.mem_entriesOf.mpr
      ⟨(Store.mem_forOwner.mp (hold ▸ he)).1, hs.trans hs'⟩
    rw [hset.unused r hr] at hm
    cases hm

/-- If no session was open before them, only theirs are listed. -/
theorem exists_of_listed (h : Successive owner a₀ l a)
    (hnone : openSessionsOf (a₀.store.forOwner a₀.backend owner) = []) {sid : SessionId}
    (hsid : sid ∈ openSessionsOf (a.store.forOwner a.backend owner)) : ∃ r ∈ l, r.id = sid := by
  obtain ⟨⟨e, he, hes⟩, hopen⟩ := mem_openSessionsOf.mp hsid
  obtain ⟨het, heo⟩ := Store.mem_forOwner.mp he
  rw [h.settled.trail] at het
  rcases List.mem_append.mp het with hold | hnew
  · -- then it was open before them
    have hin : sid ∈ openSessionsOf (a₀.store.forOwner a₀.backend owner) := by
      refine mem_openSessionsOf.mpr
        ⟨⟨e, Store.mem_forOwner.mpr ⟨hold, heo⟩, hes⟩, fun e' he' hes' => ?_⟩
      obtain ⟨het', heo'⟩ := Store.mem_forOwner.mp he'
      refine hopen e' (Store.mem_forOwner.mpr ⟨?_, heo'⟩) hes'
      rw [h.settled.trail]
      exact List.mem_append_left _ het'
    rw [hnone] at hin
    cases hin
  · obtain ⟨r, hr, her⟩ := List.mem_flatMap.mp hnew
    exact ⟨r, hr, (Store.mem_entriesOf.mp her).2.symm.trans hes⟩

end Successive

end Curation
