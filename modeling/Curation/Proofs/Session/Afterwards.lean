/-
# Taking a session back after others

A session that was abandoned may be taken back much later, when other sessions of its owner have
begun and ended.  Recovery asks nothing of them.  It writes what the abandoned session found over
whatever stands there now.

So a session that has committed since keeps what the abandoned one had not changed, aspect by
aspect of each memory, and loses the rest (`reconcile_spares`).  What it loses may be all that it
did (`commit_lost`).
-/
import Curation.Proofs.Session.Recoverable
import Curation.Proofs.Session.Succession

namespace Curation

/-! ## 1. What sessions leave of a store -/

/-- **What sessions leave of a store** `σ`, if `new` are the entries that they wrote. -/
structure Spared (new : List AuditEntry) (σ σ' : Store) : Prop where
  trail : σ'.trail = σ.trail ++ new
  /-- Their ids were new. -/
  apart : ∀ e ∈ new, σ.entriesOf e.session = []
  /-- What the entries do not tell of is as it was. -/
  kept : ∀ mid m, σ.memory? mid = some m → ∃ m', σ'.memory? mid = some m' ∧
    ∀ f, (∀ e ∈ new, ¬ e.Changes mid f) → m'.aspect f = m.aspect f

namespace Spared

variable {new late : List AuditEntry} {σ σ₁ σ' : Store}

theorem refl (σ : Store) : Spared [] σ σ :=
  ⟨by simp, nofun, fun _ m hm => ⟨m, hm, fun _ _ => rfl⟩⟩

theorem trans (h : Spared new σ σ₁) (h' : Spared late σ₁ σ') : Spared (new ++ late) σ σ' := by
  refine ⟨by rw [h'.trail, h.trail, List.append_assoc],
    List.forall_mem_append.mpr ⟨h.apart, fun e he => ?_⟩, fun mid m hm => ?_⟩
  · have hnone := h'.apart e he
    rw [Store.entriesOf, h.trail, List.filter_append] at hnone
    exact (List.append_eq_nil_iff.mp hnone).1
  · obtain ⟨m₁, hm₁, hkept⟩ := h.kept mid m hm
    obtain ⟨m', hm', hkept'⟩ := h'.kept mid m₁ hm₁
    refine ⟨m', hm', fun f hf => ?_⟩
    obtain ⟨hnew, hlate⟩ := List.forall_mem_append.mp hf
    exact (hkept' f hlate).trans (hkept f hnew)

/-- **A trail that was there is not added to.** -/
theorem entriesOf (h : Spared new σ σ') {sid : SessionId} (hn : σ.entriesOf sid ≠ []) :
    σ'.entriesOf sid = σ.entriesOf sid := by
  have hnone : new.filter (·.session == sid) = [] := by
    refine List.filter_eq_nil_iff.mpr fun e he hs => hn ?_
    have hsid : e.session = sid := by simpa using hs
    exact hsid ▸ h.apart e he
  rw [Store.entriesOf, h.trail, List.filter_append, hnone, List.append_nil]
  rfl

theorem there (h : Spared new σ σ') (mid : MemoryId) (hs : (σ.memory? mid).isSome) :
    (σ'.memory? mid).isSome := by
  obtain ⟨m, hm⟩ := Option.isSome_iff_exists.mp hs
  obtain ⟨m', hm', -⟩ := h.kept mid m hm
  rw [hm']
  rfl

end Spared

/-- **Sessions of an owner, one after the other**, however each of them ends.  Nobody else
writes. -/
inductive Turns (owner : OwnerId) (a₀ : Archive) : Archive → Prop
  | start : Turns owner a₀ a₀
  | quiet {a a' : Archive} (h : Turns owner a₀ a) (hq : Archive.Quiet a a') : Turns owner a₀ a'
  | session {a a₁ a' : Archive} {c : Config} {s₀ s : Session} (h : Turns owner a₀ a)
      (hb : Session.Begins c owner a s₀ a₁) (hr : Session.Run Archive.Quiet s₀ a₁ s a') :
      Turns owner a₀ a'

theorem Session.spared_run {c : Config} {owner : OwnerId} {s₀ s : Session} {a a₁ a' : Archive}
    (hb : Begins c owner a s₀ a₁) (hr : Run Archive.Quiet s₀ a₁ s a') :
    ∃ new, Spared new a.store a'.store := by
  obtain ⟨-, new, hadd⟩ := added_run hb hr
  refine ⟨new, hadd.trail, fun e he => ?_, hadd.kept⟩
  rw [(hadd.own e he).1]
  exact hb.begun.1.entriesOf

theorem Turns.spared {owner : OwnerId} {a₀ a : Archive} (h : Turns owner a₀ a) :
    ∃ new, Spared new a₀.store a.store := by
  induction h with
  | start => exact ⟨[], .refl _⟩
  | quiet _ hq ih => exact hq.store ▸ ih
  | session _ hb hr ih =>
    obtain ⟨new, hnew⟩ := ih
    obtain ⟨late, hlate⟩ := Session.spared_run hb hr
    exact ⟨new ++ late, hnew.trans hlate⟩

/-! ## 2. What an abandoned session found -/

/-- **What an abandoned session leaves to be taken back**, if it found the store `σ₀`. -/
structure Pending (owner : OwnerId) (sid : SessionId) (σ₀ σ : Store) : Prop where
  left : Left owner sid σ₀ σ
  recoverable : σ.Recoverable owner sid
  made : ∀ mid m, σ₀.memory? mid = none → σ.memory? mid = some m →
    σ.found sid mid .tombstone = some (.flag true)

theorem pending_of_run {c : Config} {owner : OwnerId} {s₀ s : Session} {a a₁ a' : Archive}
    (hb : Session.Begins c owner a s₀ a₁) (hr : Session.Run Archive.Quiet s₀ a₁ s a')
    (hn : a'.store.forSession s.params.session ≠ [])
    (hopen : ∀ e ∈ a'.store.forSession s.params.session, e.action.isTerminal = false) :
    Pending owner s.params.session a.store a'.store := by
  have hleft := left_of_run hb hr hopen
  obtain ⟨hps, new, hadd⟩ := Session.added_run hb hr
  obtain ⟨-, hre⟩ := Session.revocable_run hb hr
  obtain ⟨ops, hu, hund⟩ := hre.undone_of_open hopen
  have hnew : a'.store.entriesOf s.params.session = new :=
    List.append_cancel_left (hleft.trail.symm.trans hadd.trail)
  refine ⟨hleft, ⟨⟨fun e he => (hleft.open_ e he).1, ?_⟩,
    fun hnil => hn (Store.forSession_eq_nil.mpr hnil), fun e he => (hleft.open_ e he).2,
    fun e he => hadd.undoable e (hnew ▸ he) (hleft.open_ e he).2⟩, fun mid m hno hm => ?_⟩
  · rw [hre.chronicle.places]
    exact List.nodup_range'
  · rw [Store.found, Store.undoing_of_ok hu]
    exact hund.made mid m hno hm

namespace Pending

variable {owner : OwnerId} {sid : SessionId} {σ₀ σ : Store}

/-- **What it found** it found where its entries tell of a change. -/
theorem isSome_found (h : Pending owner sid σ₀ σ) (mid : MemoryId) (f : Aspect) :
    (σ.found sid mid f).isSome ↔ ∃ e ∈ σ.forSession sid, e.Changes mid f := by
  obtain ⟨ops, hu⟩ := h.recoverable.unwound
  rw [Store.found, Store.undoing_of_ok hu]
  have hes : ∀ e ∈ σ.forSession sid, e.Undoable σ :=
    fun e he => h.recoverable.undoable e ((Store.forSession_perm _ _).mem_iff.mp he)
  exact AuditEntry.isSome_of_unwind hes hu mid f

/-- What it did not change is not written when it is taken back. -/
theorem found_eq_none (h : Pending owner sid σ₀ σ) {mid : MemoryId} {f : Aspect}
    (hno : ∀ e ∈ σ.forSession sid, ¬ e.Changes mid f) : σ.found sid mid f = none := by
  rw [← Option.not_isSome_iff_eq_none, h.isSome_found]
  rintro ⟨e, he, hc⟩
  exact hno e he hc

/-- What it changed is written as it stood when the session began. -/
theorem found_eq_some (h : Pending owner sid σ₀ σ) {mid : MemoryId} {f : Aspect} {m₀ : Memory}
    (hc : ∃ e ∈ σ.forSession sid, e.Changes mid f) (hm₀ : σ₀.memory? mid = some m₀) :
    σ.found sid mid f = some (m₀.aspect f) := by
  obtain ⟨v, hv⟩ := Option.isSome_iff_exists.mp ((h.isSome_found mid f).mpr hc)
  obtain ⟨m, -, ha⟩ := h.left.found mid m₀ hm₀
  have haf := ha f
  rw [hv] at haf ⊢
  exact congrArg some haf

/-! ## 3. Taking it back -/

variable {a a' : Archive} {new : List AuditEntry} {c : Config}

/-- **It can still be taken back** after other sessions, if what the owner holds can be measured. -/
theorem recovered (h : Pending owner sid σ₀ σ) (hs : Spared new σ a.store)
    (hr : Recovery.Ready owner a) (hm : a.store.MassFits c.rules owner) :
    ∃ a', a.answer (Recovery.reconcile c owner sid) =
      (.ok (.rolledBack (σ.forSession sid).length (AuditEntry.stats (σ.forSession sid))), a') := by
  have hsame := hs.entriesOf h.recoverable.written
  obtain ⟨a', ha', -⟩ :=
    Recovery.recovered_of_recoverable (h.recoverable.mono hsame hs.there) hr hm
  rw [Store.forSession_congr hsame] at ha'
  exact ⟨a', ha'⟩

/-- **What taking it back does** after other sessions: what it changed is as it found it, what it
made is deleted, and all else is as they left it. -/
theorem taken_back {v : Recovered} (h : Pending owner sid σ₀ σ) (hs : Spared new σ a.store)
    (hc : a.answer (Recovery.reconcile c owner sid) = (.ok v, a')) :
    v = .rolledBack (σ.forSession sid).length (AuditEntry.stats (σ.forSession sid)) ∧
    (∀ sid', sid ≠ sid' → a'.store.entriesOf sid' = a.store.entriesOf sid') ∧
    ∀ mid m, a.store.memory? mid = some m → ∃ m', a'.store.memory? mid = some m' ∧
      (∀ f, (∀ e ∈ σ.forSession sid, ¬ e.Changes mid f) → m'.aspect f = m.aspect f) ∧
      (∀ f m₀, (∃ e ∈ σ.forSession sid, e.Changes mid f) → σ₀.memory? mid = some m₀ →
        m'.aspect f = m₀.aspect f) ∧
      (σ₀.memory? mid = none → (σ.memory? mid).isSome → m'.tombstoned = true) := by
  have hsame := hs.entriesOf h.recoverable.written
  have hopen : ∀ e ∈ a.store.entriesOf sid, e.owner = owner → e.action.isTerminal = false := by
    intro e he _
    rw [hsame] at he
    exact h.recoverable.forward e he
  obtain ⟨hothers, hback⟩ := Recovery.taken_back hc hopen
  obtain ⟨_, _, _, _, _, _, _, _, hv, -⟩ := Recovery.rolledBack_of_ok hc hopen
  rw [Store.forSession_congr hsame] at hv
  refine ⟨hv, hothers, fun mid m hm => ?_⟩
  obtain ⟨m', hm', ha⟩ := hback mid m hm
  have hfound : ∀ f, m'.aspect f = (σ.found sid mid f).getD (m.aspect f) :=
    fun f => by rw [ha f, Store.found_congr hsame]
  refine ⟨m', hm', fun f hno => ?_, fun f m₀ hch hm₀ => ?_, fun hnone hsome => ?_⟩
  · rw [hfound f, h.found_eq_none hno]
    rfl
  · rw [hfound f, h.found_eq_some hch hm₀]
    rfl
  · obtain ⟨m₁, hm₁⟩ := Option.isSome_iff_exists.mp hsome
    have hdead := hfound .tombstone
    rw [h.made mid m₁ hnone hm₁] at hdead
    simpa [Memory.aspect] using hdead

end Pending

/-! ## 4. After a commit -/

namespace Recovery

open Archive

variable {c c₁ d : Config} {owner : OwnerId} {s₀ s t₀ t : Session}
  {a a₁ a₂ a₃ a₄ a₅ a₆ : Archive}

/-- **What a committed session keeps when an abandoned one is taken back.**  A session was
abandoned, and later sessions followed of which one committed; `late` are the entries that were
written after that.  The abandoned session can still be taken back, as long as what its owner holds
can be measured.  Then, of each memory that was there when the later one committed, an aspect that
the abandoned session did not change is as it stood then, unless it was changed again; what the
abandoned session did change is as THAT session found it, and what it made is deleted. -/
theorem reconcile_spares (hb : Session.Begins c owner a s₀ a₁)
    (hr : Session.Run Quiet s₀ a₁ s a₂) (hn : a₂.store.forSession s.params.session ≠ [])
    (hopen : ∀ e ∈ a₂.store.forSession s.params.session, e.action.isTerminal = false)
    (h₁ : Turns owner a₂ a₃) (hb' : Session.Begins c₁ owner a₃ t₀ a₄)
    (hr' : Session.Run Quiet t₀ a₄ t a₅) (ht : t.status = .committed) (h₂ : Turns owner a₅ a₆) :
    let es := a₂.store.forSession s.params.session
    (Ready owner a₆ → a₆.store.MassFits d.rules owner →
      ∃ a₇, a₆.answer (reconcile d owner s.params.session) =
        (.ok (.rolledBack es.length (AuditEntry.stats es)), a₇)) ∧
    ∃ late, a₆.store.trail = a₅.store.trail ++ late ∧
      ∀ v a₇, a₆.answer (reconcile d owner s.params.session) = (.ok v, a₇) →
        v = .rolledBack es.length (AuditEntry.stats es) ∧
        (a₇.store.entriesOf t.params.session).getLast?.map (·.action) = some .sessionComplete ∧
        ∀ mid m, a₅.store.memory? mid = some m → ∃ m', a₇.store.memory? mid = some m' ∧
          (∀ f, (∀ e ∈ es, ¬ e.Changes mid f) → (∀ e ∈ late, ¬ e.Changes mid f) →
            m'.aspect f = m.aspect f) ∧
          (∀ f m₀, (∃ e ∈ es, e.Changes mid f) → a.store.memory? mid = some m₀ →
            m'.aspect f = m₀.aspect f) ∧
          (a.store.memory? mid = none → (a₂.store.memory? mid).isSome →
            m'.tombstoned = true) := by
  have hp := pending_of_run hb hr hn hopen
  obtain ⟨before, hbefore⟩ := h₁.spared
  obtain ⟨between, hbetween⟩ := Session.spared_run hb' hr'
  obtain ⟨late, hlate⟩ := h₂.spared
  have hall := hbefore.trans (hbetween.trans hlate)
  refine ⟨hp.recovered hall, late, hlate.trail, fun v a₇ hc => ?_⟩
  obtain ⟨hv, hothers, hback⟩ := hp.taken_back hall hc
  refine ⟨hv, ?_, fun mid m hm => ?_⟩
  · -- the trail of the session that committed was not touched
    obtain ⟨hpt, hret⟩ := Session.revocable_run hb' hr'
    have hlast := hret.chronicle.ended.newest.1.mp ht
    have hne : s.params.session ≠ t.params.session := by
      intro he
      have hunused := hb'.begun.1.entriesOf
      rw [← hpt, ← he, hbefore.entriesOf hp.recoverable.written] at hunused
      exact hp.recoverable.written hunused
    have hwritten : a₅.store.entriesOf t.params.session ≠ [] := by
      intro hnil
      rw [hnil] at hlast
      cases hlast
    rw [hothers _ hne, hlate.entriesOf hwritten]
    exact hlast
  · obtain ⟨m₆, hm₆, hkept⟩ := hlate.kept mid m hm
    obtain ⟨m', hm', hspared, hlost, hmade⟩ := hback mid m₆ hm₆
    exact ⟨m', hm', fun f hno hno' => (hspared f hno).trans (hkept f hno'), hlost, hmade⟩

/-- A memory is rewritten and left, then protected by a session that commits.  When the first is
taken back the old text returns, and the memory stays protected. -/
theorem reconcile_spares_protected :
    ∃ s₀ a₁ s a₂ t₀ a₃ t a₄ v a₅ m, Session.Begins .standard ⟨"o"⟩ .oneNote s₀ a₁ ∧
      Session.Run Quiet s₀ a₁ s a₂ ∧ Session.Begins .standard ⟨"o"⟩ a₂ t₀ a₃ ∧
      Session.Run Quiet t₀ a₃ t a₄ ∧ t.status = .committed ∧
      a₄.answer (reconcile .standard ⟨"o"⟩ s.params.session) = (.ok v, a₅) ∧
      a₅.store.memory? ⟨"m"⟩ = some m ∧ m.content = "note" ∧ m.constitutional = true := by
  let rewrite : Session.Call := .perform (.update ⟨"m"⟩ "other")
  let protect : Session.Call := .perform (.protect ⟨"m"⟩)
  let complete : Session.Call := .perform (.complete "done")
  have h : Archive.oneNote.yields (Session.beginAs .standard ⟨"o"⟩ ⟨"a"⟩) (fun s a =>
      let r := rewrite.run s a
      let es := r.2.store.forSession r.1.params.session
      r.2.yields (Session.beginAs .standard ⟨"o"⟩ ⟨"b"⟩) fun t a' =>
        let r' := protect.run t a'
        let r'' := complete.run r'.1 r'.2
        decide (es ≠ [] ∧ (∀ e ∈ es, e.action.isTerminal = false) ∧ r''.1.status = .committed ∧
          Ready ⟨"o"⟩ r''.2 ∧ r''.2.store.MassFits Config.standard.rules ⟨"o"⟩ ∧
          (∃ e ∈ es, e.Changes ⟨"m"⟩ .content) ∧
          (∀ e ∈ es, ¬ e.Changes ⟨"m"⟩ .protection) ∧
          (r''.2.store.memory? ⟨"m"⟩).any (·.constitutional))) = true := by decide +kernel
  obtain ⟨s₀, a₁, h₁, h⟩ := exists_of_yields h
  obtain ⟨t₀, a₃, h₃, h⟩ := exists_of_yields h
  obtain ⟨hn, hopen, ht, hready, hfits, hc, hno, hprot⟩ := of_decide_eq_true h
  have hb : Session.Begins .standard ⟨"o"⟩ .oneNote s₀ a₁ := .named ⟨"a"⟩ h₁
  have hr : Session.Run Quiet s₀ a₁ _ _ := .call rewrite .start
  have hb' : Session.Begins .standard ⟨"o"⟩ _ t₀ a₃ := .named ⟨"b"⟩ h₃
  have hr' : Session.Run Quiet t₀ a₃ _ _ := .call complete (.call protect .start)
  obtain ⟨hback, late, hlate, hspares⟩ :=
    reconcile_spares (d := .standard) hb hr hn hopen .start hb' hr' ht .start
  obtain ⟨a₅, h₅⟩ := hback hready hfits
  obtain ⟨m, hm, hp⟩ := (Option.any_eq_true _ _).mp hprot
  obtain ⟨-, -, hmemory⟩ := hspares _ a₅ h₅
  obtain ⟨m', hm', hkept, hlost, -⟩ := hmemory ⟨"m"⟩ m hm
  rw [List.self_eq_append_right] at hlate
  have hcontent := hlost .content _ hc rfl
  have hprotection := hkept .protection hno (by simp [hlate])
  refine ⟨s₀, a₁, _, _, t₀, a₃, _, _, _, a₅, m', hb, hr, hb', hr', ht, h₅, hm', ?_, ?_⟩
  · simpa [Memory.aspect, Memory.fresh] using hcontent
  · simpa [Memory.aspect, hp] using hprotection

/-- **A commit may be lost.**  Two sessions rewrite a memory one after the other; the first is
abandoned, the second commits.  When the first is taken back, the memory is as it was before both,
although the trail still says that the second has committed. -/
theorem commit_lost :
    ∃ s₀ a₁ s a₂ t₀ a₃ t a₄ v a₅ m m', Session.Begins .standard ⟨"o"⟩ .oneNote s₀ a₁ ∧
      Session.Run Quiet s₀ a₁ s a₂ ∧ a₂.store.forSession s.params.session ≠ [] ∧
      (∀ e ∈ a₂.store.forSession s.params.session, e.action.isTerminal = false) ∧
      Session.Begins .standard ⟨"o"⟩ a₂ t₀ a₃ ∧ Session.Run Quiet t₀ a₃ t a₄ ∧
      t.status = .committed ∧
      a₄.answer (reconcile .standard ⟨"o"⟩ s.params.session) = (.ok v, a₅) ∧
      a₂.store.memory? ⟨"m"⟩ ≠ some m ∧ a₄.store.memory? ⟨"m"⟩ = some m ∧
      a₅.store.memory? ⟨"m"⟩ = some m' ∧ m.content = "third" ∧ m'.content = "note" := by
  let first : Session.Call := .perform (.update ⟨"m"⟩ "second")
  let second : Session.Call := .perform (.update ⟨"m"⟩ "third")
  let complete : Session.Call := .perform (.complete "done")
  have h : Archive.oneNote.yields (Session.beginAs .standard ⟨"o"⟩ ⟨"a"⟩) (fun s a =>
      let r := first.run s a
      let es := r.2.store.forSession r.1.params.session
      r.2.yields (Session.beginAs .standard ⟨"o"⟩ ⟨"b"⟩) fun t a' =>
        let r' := second.run t a'
        let r'' := complete.run r'.1 r'.2
        r''.2.yields (reconcile .standard ⟨"o"⟩ r.1.params.session) fun _ a'' =>
          decide (es ≠ [] ∧ (∀ e ∈ es, e.action.isTerminal = false) ∧ r''.1.status = .committed ∧
            (r.2.store.memory? ⟨"m"⟩).map (·.content) = some "second" ∧
            (r''.2.store.memory? ⟨"m"⟩).map (·.content) = some "third" ∧
            (a''.store.memory? ⟨"m"⟩).map (·.content) = some "note")) = true := by decide +kernel
  obtain ⟨s₀, a₁, h₁, h⟩ := exists_of_yields h
  obtain ⟨t₀, a₃, h₃, h⟩ := exists_of_yields h
  obtain ⟨v, a₅, h₅, h⟩ := exists_of_yields h
  obtain ⟨hn, hopen, ht, hsecond, hthird, hnote⟩ := of_decide_eq_true h
  obtain ⟨m, hm, hthird⟩ := Option.map_eq_some_iff.mp hthird
  obtain ⟨m', hm', hnote⟩ := Option.map_eq_some_iff.mp hnote
  have hb : Session.Begins .standard ⟨"o"⟩ .oneNote s₀ a₁ := .named ⟨"a"⟩ h₁
  have hr : Session.Run Quiet s₀ a₁ _ _ := .call first .start
  have hb' : Session.Begins .standard ⟨"o"⟩ _ t₀ a₃ := .named ⟨"b"⟩ h₃
  have hr' : Session.Run Quiet t₀ a₃ _ _ := .call complete (.call second .start)
  refine ⟨s₀, a₁, _, _, t₀, a₃, _, _, v, a₅, m, m', hb, hr, hn, hopen, hb', hr', ht, h₅,
    fun hsame => ?_, hm, hm', hthird, hnote⟩
  rw [hsame, Option.map_some, hthird] at hsecond
  simp at hsecond

end Recovery
end Curation
