/-
# Owners side by side

Any number of owners begin sessions, under ids that they choose or draw, make calls on them in
whatever order, complete them or drop them.  `Interleaved` is what such a service may have come to,
with the ids that sessions were begun under.

Two sessions may have one id, for an id counts as used only once an entry was written under it.
Nothing keeps them apart then.  An id that was begun once only is its session's alone
(`Interleaved.sole`).
-/
import Curation.Proofs.Service.Steps
import Curation.Proofs.Session.Recoverable

namespace Curation

/-- The trail is as it was, and no memory was lost. -/
structure Archive.Unlogged (a a' : Archive) : Prop where
  trail : a'.store.trail = a.store.trail
  there : ∀ mid, (a.store.memory? mid).isSome → (a'.store.memory? mid).isSome

/-- **What comes of sessions of any owners that are begun, called and dropped in any order**, from
an archive on.  The index lists the ids that they were begun under.  Anything may happen in between
that neither writes to the trail nor loses a memory. -/
inductive Interleaved (a₀ : Archive) : List SessionId → Service → Prop
  | start : Interleaved a₀ [] ⟨a₀, []⟩
  | begin {c : Config} {owner : OwnerId} {sids : List SessionId} {a a' : Archive}
      {ss : List Session} {s : Session} (h : Interleaved a₀ sids ⟨a, ss⟩)
      (hb : Session.Begins c owner a s a') :
      Interleaved a₀ (s.params.session :: sids) ⟨a', ss ++ [s]⟩
  | call {sids : List SessionId} {a : Archive} {before after : List Session} {s : Session}
      (call : Session.Call) (h : Interleaved a₀ sids ⟨a, before ++ s :: after⟩) :
      Interleaved a₀ sids ⟨(call.run s a).2, before ++ (call.run s a).1 :: after⟩
  | drop {sids : List SessionId} {a : Archive} {before after : List Session} {s : Session}
      (h : Interleaved a₀ sids ⟨a, before ++ s :: after⟩) :
      Interleaved a₀ sids ⟨a, before ++ after⟩
  | aside {sids : List SessionId} {a a' : Archive} {ss : List Session}
      (h : Interleaved a₀ sids ⟨a, ss⟩) (hu : Archive.Unlogged a a') :
      Interleaved a₀ sids ⟨a', ss⟩

/-! ## 1. What holds in every state -/

/-- The ids of some sessions. -/
def idsOf (ss : List Session) : List SessionId := ss.map (·.params.session)

/-- **What holds of a service** whose sessions were begun under certain ids. -/
structure Traced (sids : List SessionId) (ss : List Session) (σ : Store) : Prop where
  undoable : ∀ e ∈ σ.trail, e.action.isTerminal = false → e.Undoable σ
  /-- The sessions that are alive were begun. -/
  alive : ∀ sid, (idsOf ss).count sid ≤ sids.count sid
  /-- Of those that share their id with no other the trail is known. -/
  told : ∀ s ∈ ss, sids.count s.params.session ≤ 1 → Chronicle s (σ.entriesOf s.params.session)
  sole : ∀ sid, sids.count sid ≤ 1 → ∃ owner, σ.Sole owner sid

/-- A session that keeps its trail alone. -/
theorem Chronicle.sole {s : Session} {σ : Store}
    (h : Chronicle s (σ.entriesOf s.params.session)) :
    σ.Sole s.params.owner s.params.session :=
  ⟨h.owner, h.places ▸ List.nodup_range'⟩

namespace Traced

variable {sids : List SessionId} {ss before after : List Session} {s s' : Session}
  {a a' : Archive} {σ σ' : Store}

theorem start (h : σ.trail = []) : Traced [] [] σ := by
  have hnone : ∀ sid, σ.entriesOf sid = [] := fun sid => by rw [Store.entriesOf, h]; rfl
  refine ⟨fun e he => ?_, fun _ => Nat.le_refl _, fun s hs => ?_,
    fun sid _ => ⟨⟨""⟩, fun e he => ?_, ?_⟩⟩
  · rw [h] at he
    cases he
  · cases hs
  · rw [hnone] at he
    cases he
  · rw [hnone]
    exact List.nodup_nil

/-- Nothing was written. -/
theorem unlogged (h : Traced sids ss σ) (ht : σ'.trail = σ.trail)
    (hσ : ∀ mid, (σ.memory? mid).isSome → (σ'.memory? mid).isSome) : Traced sids ss σ' := by
  have hes : ∀ sid, σ'.entriesOf sid = σ.entriesOf sid := fun sid => by
    rw [Store.entriesOf, ht]
    rfl
  refine ⟨fun e he hf => (h.undoable e (ht ▸ he) hf).mono hσ, h.alive, fun s hs hone => ?_,
    fun sid hone => ?_⟩
  · rw [hes]
    exact h.told s hs hone
  · obtain ⟨owner, ho, hp⟩ := h.sole sid hone
    exact ⟨owner, hes sid ▸ ho, hes sid ▸ hp⟩

/-- **A session begins**, under an id that nothing was written under. -/
theorem begin_ {c : Config} {owner : OwnerId} (h : Traced sids ss a.store)
    (hb : Session.Begun c owner a s) :
    Traced (s.params.session :: sids) (ss ++ [s]) a.store := by
  refine ⟨h.undoable, fun sid => ?_, forall_mem_concat (fun x hx hone => ?_) fun _ => ?_,
    fun sid hone => h.sole sid ?_⟩
  · have hle := h.alive sid
    simp only [idsOf, List.map_append, List.count_append, List.map_cons, List.map_nil,
      List.count_cons, List.count_nil, Nat.zero_add] at hle ⊢
    omega
  · refine h.told x hx ?_
    rw [List.count_cons] at hone
    omega
  · rw [hb.entriesOf]
    exact .start hb.nextSeq hb.stats hb.status
  · rw [List.count_cons] at hone
    omega

/-- A session is dropped. -/
theorem drop (h : Traced sids (before ++ s :: after) σ) : Traced sids (before ++ after) σ := by
  have hsub : (before ++ after).Sublist (before ++ s :: after) :=
    List.Sublist.append_left (List.sublist_cons_self s after) before
  exact ⟨h.undoable, fun sid => ((hsub.map _).count_le sid).trans (h.alive sid),
    fun x hx => h.told x (hsub.subset hx), h.sole⟩

/-- Two sessions that are alive have not one id, if it was begun once only. -/
theorem apart (h : Traced sids (before ++ s :: after) σ) {x : Session}
    (hx : x ∈ before ++ after) (hone : sids.count x.params.session ≤ 1) :
    x.params.session ≠ s.params.session := by
  intro he
  have hle := (h.alive x.params.session).trans hone
  have hin : 0 < (idsOf (before ++ after)).count x.params.session :=
    List.count_pos_iff.mpr (List.mem_map_of_mem hx)
  simp only [idsOf, List.map_append, List.count_append, List.map_cons, he,
    List.count_cons_self] at hle hin
  omega

/-- **An action of one of the sessions.** -/
theorem performed {act : Action} {r : Except CurationError ActionOutcome}
    (h : Traced sids (before ++ s :: after) a.store)
    (hp : Session.Performed s a act (r, s', a')) :
    Traced sids (before ++ s' :: after) a'.store := by
  obtain ⟨new, htrail, hnew⟩ := Session.performed_trail hp
  have hps : s'.params = s.params := by cases hp <;> rfl
  have hothers : ∀ sid, sid ≠ s.params.session →
      a'.store.entriesOf sid = a.store.entriesOf sid := fun sid hne =>
    Store.entriesOf_of_trail_of_ne htrail (fun e he => (hnew e he).1) hne.symm
  have hown : sids.count s.params.session ≤ 1 →
      Chronicle s' (a'.store.entriesOf s'.params.session) := by
    intro hone
    rw [hps]
    exact (Session.chronicle_performed (h.told s (by simp) hone) hp).2
  refine ⟨fun e he hf => ?_, fun sid => ?_, fun x hx hone => ?_, fun sid hone => ?_⟩
  · rw [htrail] at he
    rcases List.mem_append.mp he with he | he
    · exact (h.undoable e he hf).mono (Session.performed_there hp)
    · exact (hnew e he).2.2 hf
  · have hsame : idsOf (before ++ s' :: after) = idsOf (before ++ s :: after) := by
      simp [idsOf, hps]
    rw [hsame]
    exact h.alive sid
  · rcases List.mem_append.mp hx with hb | ha
    · have hx' : x ∈ before ++ after := List.mem_append_left _ hb
      rw [hothers _ (h.apart hx' hone)]
      exact h.told x (List.mem_append_left _ hb) hone
    · rcases List.mem_cons.mp ha with rfl | ha
      · exact hown (hps ▸ hone)
      · have hx' : x ∈ before ++ after := List.mem_append_right _ ha
        rw [hothers _ (h.apart hx' hone)]
        exact h.told x (List.mem_append_right _ (List.mem_cons_of_mem _ ha)) hone
  · by_cases he : sid = s.params.session
    · subst he
      have hsole := (hown hone).sole
      rw [hps] at hsole
      exact ⟨_, hsole⟩
    · obtain ⟨owner, ho, hpl⟩ := h.sole sid hone
      exact ⟨owner, hothers sid he ▸ ho, hothers sid he ▸ hpl⟩

end Traced

namespace Interleaved

variable {a₀ : Archive} {sids : List SessionId} {w : Service}

/-- **Every state.** -/
theorem traced (h₀ : a₀.store.trail = []) (h : Interleaved a₀ sids w) :
    Traced sids w.sessions w.archive.store := by
  induction h with
  | start => exact .start h₀
  | begin _ hb ih =>
    obtain ⟨hb, hst⟩ := hb.begun
    dsimp only
    rw [hst.store]
    exact ih.begin_ hb
  | @call _ a before after s call _ ih =>
    dsimp only at ih ⊢
    obtain ⟨a₁, a₂, hq₁, hq₂, ⟨hs, rfl⟩ | ⟨act, r, hp, -⟩⟩ := Session.call_cases call s a
    · rw [hs, hq₂.store, hq₁.store]
      exact ih
    · rw [hq₂.store]
      rw [← hq₁.store] at ih
      exact ih.performed hp
  | drop _ ih => exact ih.drop
  | aside _ hu ih => exact ih.unlogged hu.trail hu.there

/-- **An id that was begun once only** is its owner's alone, if the owner is listed with it. -/
theorem sole (h₀ : a₀.store.trail = []) (h : Interleaved a₀ sids w) {sid : SessionId}
    (hone : sids.count sid ≤ 1) {b : Backend} {owner : OwnerId}
    (hlisted : sid ∈ openSessionsOf (w.archive.store.forOwner b owner)) :
    w.archive.store.Sole owner sid := by
  obtain ⟨owner', hs⟩ := (h.traced h₀).sole sid hone
  obtain ⟨e, he, hes⟩ := (mem_openSessionsOf.mp hlisted).1
  obtain ⟨het, heo⟩ := Store.mem_forOwner.mp he
  obtain rfl : owner' = owner :=
    (hs.owner e (Store.mem_entriesOf.mpr ⟨het, hes⟩)).symm.trans heo
  exact hs

end Interleaved
end Curation
