/-
# The sweep over open sessions

Where no session is named, recovery goes through the open sessions of an owner, one after the
other, in the order in which the trail lists them.  Each is taken back as its own trail tells, so
what the sweep leaves in an aspect of a memory is what was found there by the LAST swept of the
sessions that changed it (`Swept.aspect`).

That is what was there before the first of the sessions only if that session found it so.
Sessions that changed different things are all undone (`sweep_restores_of_apart`).  But while a
rollback undoes the newest entry first, the sweep undoes the oldest session first, and where a
newer one changed the same aspect, the change of the older one comes back.
-/
import Curation.Proofs.CommandLine.Calls
import Curation.Proofs.Session.Recovery
import Curation.Proofs.Session.Succession

namespace Curation

/-! ## 1. What several sessions found -/

/-- Every memory of an earlier store is there, each of its aspects as it was. -/
def Store.Reverted (σ σ₀ : Store) : Prop :=
  ∀ mid m₀, σ₀.memory? mid = some m₀ →
    ∃ m, σ.memory? mid = some m ∧ ∀ f, m.aspect f = m₀.aspect f

/-- What the last of some sessions found, of those that changed an aspect of a memory. -/
def Store.lastFound (σ : Store) (sids : List SessionId) (mid : MemoryId) (f : Aspect) :
    Option Aspect.Value :=
  (sids.filterMap (σ.found · mid f)).getLast?

namespace Store

variable {σ σ' : Store} {sids : List SessionId}

theorem lastFound_cons (σ : Store) (sid : SessionId) (sids : List SessionId) (mid : MemoryId)
    (f : Aspect) :
    σ.lastFound (sid :: sids) mid f = (σ.lastFound sids mid f).or (σ.found sid mid f) := by
  unfold lastFound
  rw [List.filterMap_cons]
  cases h : σ.found sid mid f with
  | none => simp
  | some v =>
    dsimp only
    rw [← List.singleton_append, List.getLast?_append, List.getLast?_singleton]

theorem lastFound_congr (h : ∀ sid ∈ sids, σ'.entriesOf sid = σ.entriesOf sid) (mid : MemoryId)
    (f : Aspect) : σ'.lastFound sids mid f = σ.lastFound sids mid f := by
  have hall : sids.filterMap (σ'.found · mid f) = sids.filterMap (σ.found · mid f) :=
    List.filterMap_congr fun sid hs => found_congr (h sid hs) mid f
  rw [lastFound, lastFound, hall]

theorem exists_of_lastFound {mid : MemoryId} {f : Aspect} {v : Aspect.Value}
    (h : σ.lastFound sids mid f = some v) : ∃ sid ∈ sids, σ.found sid mid f = some v :=
  List.mem_filterMap.mp (List.mem_of_getLast? h)

/-- If the last of them found nothing, none did. -/
theorem found_of_lastFound {mid : MemoryId} {f : Aspect} (h : σ.lastFound sids mid f = none) :
    ∀ sid ∈ sids, σ.found sid mid f = none :=
  List.filterMap_eq_nil_iff.mp (List.getLast?_eq_none_iff.mp h)

/-- Sessions that have written nothing do not count. -/
theorem lastFound_listed (σ : Store) (l : List Abandoned) (mid : MemoryId) (f : Aspect) :
    σ.lastFound ((l.filter fun r => !(σ.entriesOf r.id).isEmpty).map Abandoned.id) mid f =
      σ.lastFound (l.map Abandoned.id) mid f := by
  have hall : (l.filter fun r => !(σ.entriesOf r.id).isEmpty).filterMap
      (fun r => σ.found r.id mid f) = l.filterMap fun r => σ.found r.id mid f := by
    rw [List.filterMap_filter]
    refine List.filterMap_congr fun r hr => ?_
    by_cases hnil : σ.entriesOf r.id = []
    · simp [hnil, found_of_nil hnil]
    · simp [hnil]
  unfold lastFound
  rw [List.filterMap_map, List.filterMap_map]
  exact congrArg List.getLast? hall

end Store

/-! ## 2. Sessions taken back one after the other -/

namespace Recovery

variable {c : Config} {owner : OwnerId} {a a' : Archive}

/-- **Sessions are recovered one after the other**, each attempt with success. -/
inductive Swept (c : Config) (owner : OwnerId) : List SessionId → Archive → Archive → Prop
  | nil (a : Archive) : Swept c owner [] a a
  | cons {sid : SessionId} {sids : List SessionId} {a a₁ a' : Archive} {v : Recovered}
      (hc : a.answer (reconcile c owner sid) = (.ok v, a₁)) (h : Swept c owner sids a₁ a') :
      Swept c owner (sid :: sids) a a'

/-- **What a sweep leaves** in an aspect of a memory: what the last of the sessions found there
that changed it. -/
theorem Swept.aspect {sids : List SessionId} (h : Swept c owner sids a a') (hd : sids.Nodup)
    (hopen : ∀ sid ∈ sids, ∀ e ∈ a.store.entriesOf sid,
      e.owner = owner → e.action.isTerminal = false) {mid : MemoryId} {m : Memory}
    (hm : a.store.memory? mid = some m) :
    ∃ m', a'.store.memory? mid = some m' ∧
      ∀ f, m'.aspect f = (a.store.lastFound sids mid f).getD (m.aspect f) := by
  induction h generalizing m with
  | nil a => exact ⟨m, hm, fun f => rfl⟩
  | @cons sid sids a a₁ a' v hc h ih =>
    obtain ⟨hnotin, hd⟩ := List.nodup_cons.mp hd
    obtain ⟨hsame, hback⟩ := taken_back hc (hopen sid List.mem_cons_self)
    have hrest : ∀ sid' ∈ sids, a₁.store.entriesOf sid' = a.store.entriesOf sid' :=
      fun sid' hs => hsame sid' fun he => hnotin (he ▸ hs)
    obtain ⟨m₁, hm₁, ha₁⟩ := hback mid m hm
    obtain ⟨m', hm', ha'⟩ := ih hd (fun sid' hs e he => by
      rw [hrest sid' hs] at he
      exact hopen sid' (List.mem_cons_of_mem _ hs) e he) hm₁
    refine ⟨m', hm', fun f => ?_⟩
    rw [ha' f, ha₁ f, Store.lastFound_congr hrest, Store.lastFound_cons]
    cases a.store.lastFound sids mid f <;> rfl

end Recovery

/-! ## 3. The command -/

namespace CommandLine

open CommandM Recovery

variable {c : Config} {owner : OwnerId} {script : String} {a a' : Archive}
  {printed printed' : String}

theorem swept_of_mapM : ∀ {sids : List SessionId} {a : Archive} {printed : String}
    {w : List (SessionId × Recovered)},
    answer a printed (sids.mapM fun id => do
      let recovered ← recoverOne c owner id
      return (id, recovered)) = (.ok w, printed', a') → Swept c owner sids a a'
  | [], a, _, _, h => by
    cases h
    exact .nil _
  | sid :: sids, a, _, _, h => by
    obtain ⟨p, printed₁, a₁, ws, h₁, h⟩ := mapM_cons_ok h
    obtain ⟨v, printed₂, a₂, hv, h₁⟩ := answer_bind_ok h₁
    obtain ⟨v', printed₃, a₃, hc, hv⟩ := answer_bind_ok hv
    cases hv
    cases h₁
    exact .cons (call_ok hc) (swept_of_mapM h)

/-- **A recovery that names no session** and succeeds is a sweep over the open sessions. -/
theorem swept_of_run
    (h : answer a printed ((Command.reconcile owner none).run c script) = (.ok (), printed', a')) :
    ∃ a₁, Archive.Still a a₁ ∧ (a.faults = .none → a₁ = a) ∧
      Swept c owner (openSessionsOf (a.store.forOwner a.backend owner)) a₁ a' := by
  unfold Command.run recoverAll at h
  obtain ⟨w, printed₁, a₁, h, hw⟩ := answer_bind_ok h
  cases hw
  obtain ⟨sids, printed₂, a₂, hs, h⟩ := answer_bind_ok h
  have hlisted := call_ok hs
  obtain ⟨hst, rfl⟩ := Archive.openSessions_ok hlisted
  have hsame : a.faults = .none → a₂ = a := by
    intro hf
    rw [Archive.openSessions_of_none hf] at hlisted
    exact (Prod.mk.inj hlisted).2.symm
  dsimp only at h
  -- that there are none is only printed
  split at h
  · obtain ⟨_, printed₃, a₃, hp, h⟩ := answer_bind_ok h
    rw [answer_print] at hp
    cases hp
    exact ⟨a₂, hst, hsame, swept_of_mapM h⟩
  · exact ⟨a₂, hst, hsame, swept_of_mapM h⟩

/-! ## 4. Abandoned sessions -/

section Abandoned

variable {a₀ : Archive} {l : List Abandoned}

/-- **What the sweep leaves behind abandoned sessions.**  Each aspect of a memory that was there
before them is as the last swept of those that changed it found it, and as it was if none did. -/
theorem sweep_leaves (h : Successive owner a₀ l a)
    (hs : answer a printed ((Command.reconcile owner none).run c script) = (.ok (), printed', a'))
    {mid : MemoryId} {m₀ : Memory} (hm₀ : a₀.store.memory? mid = some m₀) :
    ∃ m, a'.store.memory? mid = some m ∧ ∀ f, m.aspect f =
      (a.store.lastFound (openSessionsOf (a.store.forOwner a.backend owner)) mid f).getD
        (m₀.aspect f) := by
  obtain ⟨a₁, hst, -, hsw⟩ := swept_of_run hs
  obtain ⟨m, hm, hkept⟩ := h.settled.kept mid m₀ hm₀
  have hopen : ∀ sid ∈ openSessionsOf (a.store.forOwner a.backend owner),
      ∀ e ∈ a₁.store.entriesOf sid, e.owner = owner → e.action.isTerminal = false := by
    intro sid hsid e he ho
    rw [hst.store] at he
    obtain ⟨he, hes⟩ := Store.mem_entriesOf.mp he
    exact (mem_openSessionsOf.mp hsid).2 e (Store.mem_forOwner.mpr ⟨he, ho⟩) hes
  obtain ⟨m', hm', ha⟩ := hsw.aspect (nodup_distinct _) hopen (hst.store ▸ hm)
  refine ⟨m', hm', fun f => ?_⟩
  rw [ha f, hst.store]
  cases hl : a.store.lastFound (openSessionsOf (a.store.forOwner a.backend owner)) mid f with
  | some v => rfl
  | none =>
    refine hkept f fun r hr => ?_
    -- a session is listed unless it has written nothing at all
    by_cases hnil : a.store.entriesOf r.id = []
    · exact Store.found_of_nil hnil mid f
    · refine Store.found_of_lastFound hl r.id (mem_openSessionsOf.mpr ⟨?_, ?_⟩)
      · obtain ⟨e, he⟩ := List.exists_mem_of_ne_nil _ hnil
        obtain ⟨het, hes⟩ := Store.mem_entriesOf.mp he
        exact ⟨e, Store.mem_forOwner.mpr ⟨het, (h.settled.open_ r hr e he).1⟩, hes⟩
      · intro e he hes
        exact (h.settled.open_ r hr e
          (Store.mem_entriesOf.mpr ⟨(Store.mem_forOwner.mp he).1, hes⟩)).2

/-- **Sessions that changed different things are all undone**, in whatever order they are swept. -/
theorem sweep_restores_of_apart (h : Successive owner a₀ l a)
    (hs : answer a printed ((Command.reconcile owner none).run c script) = (.ok (), printed', a'))
    (hnone : openSessionsOf (a₀.store.forOwner a₀.backend owner) = [])
    (hapart : ∀ r ∈ l, ∀ r' ∈ l, ∀ mid f, a.store.found r.id mid f ≠ none →
      a.store.found r'.id mid f ≠ none → r.id = r'.id) :
    a'.store.Reverted a₀.store := by
  intro mid m₀ hm₀
  obtain ⟨m, hm, ha⟩ := sweep_leaves h hs hm₀
  refine ⟨m, hm, fun f => ?_⟩
  rw [ha f]
  cases hv : a.store.lastFound (openSessionsOf (a.store.forOwner a.backend owner)) mid f with
  | none => rfl
  | some v =>
    obtain ⟨sid, hsid, hfound⟩ := Store.exists_of_lastFound hv
    obtain ⟨r, hr, rfl⟩ := h.exists_of_listed hnone hsid
    obtain ⟨l₁, l₂, rfl⟩ := List.append_of_mem hr
    refine h.settled.first l₁ r l₂ rfl mid m₀ f v hm₀ (fun x hx => ?_) hfound
    by_contra hne
    -- no older session can have changed it too, for the ids differ
    have hid := hapart x (List.mem_append_left _ hx) r hr mid f hne (by simp [hfound])
    have hd := h.settled.apart
    rw [List.map_append] at hd
    exact (List.nodup_append.mp hd).2.2 _ (List.mem_map_of_mem hx) _
      (List.mem_map_of_mem List.mem_cons_self) hid

/-- In a store that keeps its entries in the order in which they came, the last swept is the
newest. -/
theorem lastFound_newest (h : Successive owner a₀ l a) (hmem : a₀.backend = .inMemory)
    (hnone : openSessionsOf (a₀.store.forOwner a₀.backend owner) = []) (mid : MemoryId)
    (f : Aspect) :
    a.store.lastFound (openSessionsOf (a.store.forOwner a.backend owner)) mid f =
      a.store.lastFound (l.map Abandoned.id) mid f := by
  rw [h.openSessions hmem, hnone, List.nil_append, Store.lastFound_listed]

/-- **When the sweep undoes all abandoned sessions.**  What a session found is what stood in the
store when it began.  The sweep takes everything back exactly if, for each aspect of a memory, the
last swept of the sessions that changed it found it as it was before the first of them; in memory
the last swept is the NEWEST of them. -/
theorem sweep_restores_iff (h : Successive owner a₀ l a)
    (hs : answer a printed ((Command.reconcile owner none).run c script) =
      (.ok (), printed', a')) :
    (∀ r ∈ l, ∀ mid m₀, a₀.store.memory? mid = some m₀ → ∃ m, r.before.memory? mid = some m ∧
      ∀ f v, a.store.found r.id mid f = some v → m.aspect f = v) ∧
    (a₀.backend = .inMemory → openSessionsOf (a₀.store.forOwner a₀.backend owner) = [] →
      ∀ mid f, a.store.lastFound (openSessionsOf (a.store.forOwner a.backend owner)) mid f =
        a.store.lastFound (l.map Abandoned.id) mid f) ∧
    (a'.store.Reverted a₀.store ↔ ∀ mid m₀ f v, a₀.store.memory? mid = some m₀ →
      a.store.lastFound (openSessionsOf (a.store.forOwner a.backend owner)) mid f = some v →
      v = m₀.aspect f) := by
  refine ⟨fun r hr mid m₀ hm₀ => ?_, fun hmem hnone => lastFound_newest h hmem hnone, ?_, ?_⟩
  · obtain ⟨m, hm⟩ := h.settled.there r hr mid m₀ hm₀
    exact ⟨m, hm, fun f v hv => h.settled.found r hr mid m hm f v hv⟩
  · intro hback mid m₀ f v hm₀ hv
    obtain ⟨m, hm, ha⟩ := sweep_leaves h hs hm₀
    obtain ⟨m', hm', hsame⟩ := hback mid m₀ hm₀
    rw [hm] at hm'
    cases hm'
    have haf := ha f
    rw [hv, hsame f] at haf
    exact haf.symm
  · intro hlast mid m₀ hm₀
    obtain ⟨m, hm, ha⟩ := sweep_leaves h hs hm₀
    refine ⟨m, hm, fun f => ?_⟩
    rw [ha f]
    cases hv : a.store.lastFound (openSessionsOf (a.store.forOwner a.backend owner)) mid f with
    | none => rfl
    | some v => exact hlast mid m₀ f v hm₀ hv

/-- A memory that was not protected is protected by one session and let go by the next.  The
sweep undoes the first and then the second, and leaves the memory protected. -/
theorem sweep_leaves_protected :
    ∃ l a printed a', l.length = 2 ∧ Successive ⟨"o"⟩ .oneNote l a ∧
      answer a "" ((Command.reconcile ⟨"o"⟩ none).run .standard "") = (.ok (), printed, a') ∧
      ¬ a'.store.Reverted Archive.oneNote.store ∧
      ¬ ∀ mid m₀ f v, Archive.oneNote.store.memory? mid = some m₀ →
        a.store.lastFound (openSessionsOf (a.store.forOwner a.backend ⟨"o"⟩)) mid f = some v →
        v = m₀.aspect f := by
  have h : Archive.oneNote.yields (Session.beginAs .standard ⟨"o"⟩ ⟨"a"⟩) (fun s a =>
      let r := (Session.Call.perform (.protect ⟨"m"⟩)).run s a
      r.2.yields (Session.beginAs .standard ⟨"o"⟩ ⟨"b"⟩) fun s' a' =>
        let r' := (Session.Call.perform (.unprotect ⟨"m"⟩)).run s' a'
        decide ((∀ e ∈ r.2.store.forSession r.1.params.session, e.action.isTerminal = false) ∧
          (∀ e ∈ r'.2.store.forSession r'.1.params.session, e.action.isTerminal = false) ∧
          r.1.params.session ≠ r'.1.params.session) &&
        yields r'.2 "" ((Command.reconcile ⟨"o"⟩ none).run .standard "") fun a =>
          (a.store.memory? ⟨"m"⟩).any (·.constitutional)) = true := by
    decide +kernel
  obtain ⟨s₁, a₁, hb₁, h⟩ := Archive.exists_of_yields h
  obtain ⟨s₂, a₂, hb₂, h⟩ := Archive.exists_of_yields h
  obtain ⟨hopen, h⟩ := Bool.and_eq_true_iff.mp h
  obtain ⟨hopen₁, hopen₂, hne⟩ := of_decide_eq_true hopen
  obtain ⟨_, printed, a', hrun, hprot⟩ := exists_of_yields h
  have hfirst := Successive.session .start (.named ⟨"a"⟩ hb₁)
    (.call (.perform (.protect ⟨"m"⟩)) .start) hopen₁ nofun
  have hboth := Successive.session hfirst (.named ⟨"b"⟩ hb₂)
    (.call (.perform (.unprotect ⟨"m"⟩)) .start) hopen₂ fun r hr => by
      rw [List.mem_singleton.mp hr]
      exact hne
  have hnot : ¬ a'.store.Reverted Archive.oneNote.store := by
    intro hback
    obtain ⟨m, hm, hc⟩ := (Option.any_eq_true _ _).mp hprot
    obtain ⟨m', hm', hsame⟩ := hback ⟨"m"⟩ _ rfl
    rw [hm] at hm'
    cases hm'
    have hp := hsame .protection
    simp [Memory.aspect, hc, Memory.fresh] at hp
  refine ⟨_, _, printed, a', rfl, hboth, hrun, hnot, fun hlast => hnot ?_⟩
  exact (sweep_restores_iff hboth hrun).2.2.mpr hlast

end Abandoned

end CommandLine
end Curation
