/-
# When a session can be recovered

Recovery undoes what stands under an id, the last place first.  Each forward entry can be undone
by itself.  So what may be in the way is only that some entries under the id are of another owner,
that the session is closed, or that two entries have the same place.

Which sessions are open is looked up among the entries of the owner alone.  So one that is listed
can be recovered exactly if what stands under its id is the owner's and no place is taken twice, and
if what the owner holds can be measured (`recovered_iff`).
-/
import Curation.Proofs.Ident
import Curation.Proofs.Session.Changes
import Curation.Proofs.Session.Completion

namespace Curation

/-! ## 1. Places -/

namespace AuditEntry

variable {es : List AuditEntry}

theorem descending_of_unwindAfter : ∀ {es : List AuditEntry} {last : Option Nat}
    {ops : List WriteOp}, unwindAfter last es = .ok ops →
    (∀ n, last = some n → ∀ e ∈ es, e.seq < n) ∧ es.Pairwise fun x y => y.seq < x.seq
  | [], _, _, _ => ⟨fun _ _ => nofun, .nil⟩
  | e :: es, last, ops, h => by
    obtain ⟨_, hfirst, h⟩ := bind_ok h
    obtain ⟨inv, _, h⟩ := bind_ok h
    obtain ⟨rest, hrest, _⟩ := bind_ok h
    obtain ⟨hlt, hpair⟩ := descending_of_unwindAfter hrest
    have hlt : ∀ x ∈ es, x.seq < e.seq := hlt _ rfl
    refine ⟨fun n hn => ?_, List.pairwise_cons.mpr ⟨hlt, hpair⟩⟩
    subst hn
    simp only [inOrder] at hfirst
    split at hfirst
    · cases hfirst
    · next hle =>
      have he : e.seq < n := Nat.lt_of_not_le hle
      exact List.forall_mem_cons.mpr ⟨he, fun x hx => (hlt x hx).trans he⟩

/-- **A trail that is undone** has its places one below the other. -/
theorem descending_of_unwind {ops : List WriteOp} (h : unwind es = .ok ops) :
    es.Pairwise fun x y => y.seq < x.seq :=
  (descending_of_unwindAfter h).2

/-- **A trail whose places descend is undone** if its entries can be. -/
theorem unwind_of_descending : ∀ {es : List AuditEntry}, (es.Pairwise fun x y => y.seq < x.seq) →
    (∀ e ∈ es, ∃ inv, e.inverse = .ok inv) → ∃ ops, unwind es = .ok ops
  | [], _, _ => ⟨[], rfl⟩
  | e :: es, h, hinv => by
    obtain ⟨hlt, hpair⟩ := List.pairwise_cons.mp h
    obtain ⟨inv, he⟩ := hinv e List.mem_cons_self
    obtain ⟨ops, hops⟩ := unwind_of_descending hpair fun x hx => hinv x (List.mem_cons_of_mem _ hx)
    exact ⟨inv ++ ops, unwind_cons he hops hlt⟩

theorem nodup_of_descending (h : es.Pairwise fun x y => y.seq < x.seq) :
    (es.map (·.seq)).Nodup :=
  List.pairwise_map.mpr (h.imp fun {_ _} hlt => hlt.ne')

end AuditEntry

namespace Store

variable {σ : Store} {sid : SessionId}

theorem forSession_pairwise (σ : Store) (sid : SessionId) :
    (σ.forSession sid).Pairwise fun x y => y.seq ≤ x.seq := by
  have h : (σ.forSession sid).Pairwise fun x y => decide (y.seq ≤ x.seq) = true :=
    sortBy_pairwise (fun x y => by simpa using Nat.le_total y.seq x.seq)
      (fun x y z hxy hyz => by
        simp only [decide_eq_true_eq] at hxy hyz ⊢
        exact hyz.trans hxy) _
  exact h.imp fun {_ _} hle => by simpa using hle

/-- Where no place is taken twice, the places descend. -/
theorem forSession_descending (h : ((σ.entriesOf sid).map (·.seq)).Nodup) :
    (σ.forSession sid).Pairwise fun x y => y.seq < x.seq := by
  have hd : ((σ.forSession sid).map (·.seq)).Nodup :=
    (((σ.forSession_perm sid).map _).nodup_iff).mpr h
  exact ((forSession_pairwise σ sid).and (List.pairwise_map.mp hd)).imp
    fun {_ _} hle => lt_of_le_of_ne hle.1 hle.2.symm

/-- The place of a recovery comes after all others. -/
theorem lt_placeAfter {e : AuditEntry} (he : e ∈ σ.forSession sid) :
    e.seq < placeAfter (σ.forSession sid) := by
  have h := forSession_pairwise σ sid
  generalize σ.forSession sid = es at h he
  cases h with
  | nil => cases he
  | cons hle _ =>
    refine Nat.lt_succ_of_le ?_
    rcases List.mem_cons.mp he with rfl | he
    · exact Nat.le_refl _
    · exact hle e he

end Store

/-! ## 2. Sessions that can be recovered -/

/-- **An id that an owner has to itself**, each place under it taken once. -/
structure Store.Sole (owner : OwnerId) (sid : SessionId) (σ : Store) : Prop where
  owner : ∀ e ∈ σ.entriesOf sid, e.owner = owner
  places : ((σ.entriesOf sid).map (·.seq)).Nodup

instance (owner : OwnerId) (sid : SessionId) (σ : Store) : Decidable (σ.Sole owner sid) :=
  decidable_of_iff ((∀ e ∈ σ.entriesOf sid, e.owner = owner) ∧
    ((σ.entriesOf sid).map (·.seq)).Nodup)
    ⟨fun ⟨ho, hp⟩ => ⟨ho, hp⟩, fun h => ⟨h.owner, h.places⟩⟩

/-- **A session that can be recovered.** -/
structure Store.Recoverable (owner : OwnerId) (sid : SessionId) (σ : Store) : Prop where
  sole : σ.Sole owner sid
  written : σ.entriesOf sid ≠ []
  forward : ∀ e ∈ σ.entriesOf sid, e.action.isTerminal = false
  undoable : ∀ e ∈ σ.entriesOf sid, e.Undoable σ

namespace Store.Recoverable

variable {owner : OwnerId} {sid : SessionId} {σ σ' : Store}

theorem mono (h : σ.Recoverable owner sid) (hes : σ'.entriesOf sid = σ.entriesOf sid)
    (hσ : ∀ mid, (σ.memory? mid).isSome → (σ'.memory? mid).isSome) :
    σ'.Recoverable owner sid := by
  obtain ⟨⟨ho, hp⟩, hn, hf, hu⟩ := h
  rw [← hes] at ho hp hn hf hu
  exact ⟨⟨ho, hp⟩, hn, hf, fun e he => (hu e he).mono hσ⟩

theorem unwound (h : σ.Recoverable owner sid) :
    ∃ ops, AuditEntry.unwind (σ.forSession sid) = .ok ops := by
  refine AuditEntry.unwind_of_descending (Store.forSession_descending h.sole.places) fun e he => ?_
  obtain ⟨inv, hinv, -⟩ := (h.undoable e ((Store.forSession_perm _ _).mem_iff.mp he)).inverse
  exact ⟨inv, hinv⟩

end Store.Recoverable

namespace Recovery

open Archive

variable {c : Config} {owner : OwnerId} {sid : SessionId} {a a' : Archive}

/-- **It is recovered** by an attempt with nothing in the way. -/
theorem recovered_of_recoverable (h : a.store.Recoverable owner sid) (hr : Ready owner a)
    (hm : a.store.MassFits c.rules owner) :
    ∃ a', a.answer (reconcile c owner sid) = (.ok (.rolledBack (a.store.forSession sid).length
        (AuditEntry.stats (a.store.forSession sid))), a') ∧
      a.Grew 2 ⟨Ident.generated a.drawn⟩ ⟨Ident.generated (a.drawn + 1)⟩ a' := by
  obtain ⟨ops, hu⟩ := h.unwound
  have hin : ∀ e ∈ a.store.forSession sid, e ∈ a.store.entriesOf sid :=
    fun e he => (Store.forSession_perm _ _).mem_iff.mp he
  exact reconcile_of_ready hr hm (fun hnil => h.written (Store.forSession_eq_nil.mp hnil))
    (fun e he => h.sole.owner e (hin e he)) (fun e he => h.forward e (hin e he)) hu
    (AuditEntry.known_of_unwind (fun e he => h.undoable e (hin e he)) hu)
    fun e he hs => (Store.lt_placeAfter (Store.mem_forSession.mpr ⟨he, hs⟩)).ne

/-- An open session that was recovered had its id to itself. -/
theorem sole_of_recovered {v : Recovered} (hc : a.answer (reconcile c owner sid) = (.ok v, a'))
    (hopen : ∀ e ∈ a.store.entriesOf sid, e.owner = owner → e.action.isTerminal = false) :
    a.store.Sole owner sid := by
  obtain ⟨_, _, _, _, _, _, _, _, -, ho, -, hu, -⟩ := rolledBack_of_ok hc hopen
  have hperm := a.store.forSession_perm sid
  refine ⟨fun e he => ho e (hperm.mem_iff.mpr he), ?_⟩
  exact ((hperm.map _).nodup_iff).mp (AuditEntry.nodup_of_descending
    (AuditEntry.descending_of_unwind hu))

/-- **A session that is listed** as open. -/
theorem open_of_listed {b : Backend}
    (h : sid ∈ openSessionsOf (a.store.forOwner b owner)) :
    ∀ e ∈ a.store.entriesOf sid, e.owner = owner → e.action.isTerminal = false := by
  intro e he ho
  obtain ⟨het, hes⟩ := Store.mem_entriesOf.mp he
  exact (mem_openSessionsOf.mp h).2 e (Store.mem_forOwner.mpr ⟨het, ho⟩) hes

theorem recoverable_of_listed {b : Backend}
    (hu : ∀ e ∈ a.store.trail, e.action.isTerminal = false → e.Undoable a.store)
    (h : sid ∈ openSessionsOf (a.store.forOwner b owner)) (hs : a.store.Sole owner sid) :
    a.store.Recoverable owner sid := by
  have hforward : ∀ e ∈ a.store.entriesOf sid, e.action.isTerminal = false :=
    fun e he => open_of_listed h e he (hs.owner e he)
  refine ⟨hs, fun hnil => ?_, hforward,
    fun e he => hu e (Store.mem_entriesOf.mp he).1 (hforward e he)⟩
  obtain ⟨e, he, hes⟩ := (mem_openSessionsOf.mp h).1
  have hin := Store.mem_entriesOf.mpr ⟨(Store.mem_forOwner.mp he).1, hes⟩
  rw [hnil] at hin
  cases hin

/-- **When a session is taken back** by an attempt with nothing in the way: if it is listed as open
and has its id to itself, and what its owner holds can be measured. -/
theorem recovered_iff (c : Config)
    (hu : ∀ e ∈ a.store.trail, e.action.isTerminal = false → e.Undoable a.store)
    (hr : Ready owner a) (sid : SessionId) :
    (∃ n stats a', a.answer (reconcile c owner sid) = (.ok (.rolledBack n stats), a')) ↔
      sid ∈ openSessionsOf (a.store.forOwner a.backend owner) ∧ a.store.Sole owner sid ∧
        a.store.MassFits c.rules owner := by
  constructor
  · rintro ⟨n, stats, a', hc⟩
    have hends := reconciled c owner sid a
    rw [hc] at hends
    cases hends with
    | rolledBack hn ho hf hm hunwind hw =>
      have hopen : ∀ e ∈ a.store.entriesOf sid, e.action.isTerminal = false :=
        fun e he => hf e ((Store.forSession_perm _ _).mem_iff.mpr he)
      refine ⟨mem_openSessionsOf.mpr ⟨?_, fun e he hs => ?_⟩,
        sole_of_recovered hc fun e he _ => hopen e he, Store.massFits_iff.mpr ⟨_, hm⟩⟩
      · obtain ⟨e, he⟩ := List.exists_mem_of_ne_nil _ hn
        obtain ⟨het, hes⟩ := Store.mem_forSession.mp he
        exact ⟨e, Store.mem_forOwner.mpr ⟨het, ho e he⟩, hes⟩
      · exact hopen e (Store.mem_entriesOf.mpr ⟨(Store.mem_forOwner.mp he).1, hs⟩)
  · rintro ⟨hlisted, hs, hm⟩
    obtain ⟨a', ha', -⟩ :=
      recovered_of_recoverable (recoverable_of_listed hu hlisted hs) hr hm
    exact ⟨_, _, a', ha'⟩

/-- An open session that was recovered had an owner whose mass could be measured. -/
theorem fits_of_recovered {v : Recovered} (hc : a.answer (reconcile c owner sid) = (.ok v, a'))
    (hopen : ∀ e ∈ a.store.entriesOf sid, e.owner = owner → e.action.isTerminal = false) :
    a.store.MassFits c.rules owner := by
  obtain ⟨_, post, _, _, _, _, _, _, -, -, hm, -⟩ := rolledBack_of_ok hc hopen
  exact Store.massFits_iff.mpr ⟨post, hm⟩

end Recovery

/-! ## 3. Archives in which many can be recovered -/

namespace Archive.Clear

variable {owner : OwnerId} {n : Nat} {a a' : Archive}

theorem ready (h : a.Clear (n + 2) owner) : Recovery.Ready owner a where
  faults := h.faults
  journal := (h.fresh 0 (by omega)).1
  entry := (h.fresh 1 (by omega)).2
  named := h.named

/-- **A recovery leaves the archive clear**: the ids that it takes are not drawn again. -/
theorem after (h : a.Clear (n + 2) owner) (hn : n + 2 ≤ 2 ^ 120)
    (hg : a.Grew 2 ⟨Ident.generated a.drawn⟩ ⟨Ident.generated (a.drawn + 1)⟩ a') :
    a'.Clear n owner := by
  refine ⟨hg.faults, fun k hk => ?_, fun hb => h.named (hg.backend ▸ hb)⟩
  obtain ⟨hmem, hentry⟩ := h.fresh (k + 2) (by omega)
  have hlater : a'.drawn + k = a.drawn + (k + 2) := by
    rw [hg.drawn]
    omega
  rw [hlater]
  constructor
  · rw [← Option.not_isSome_iff_eq_none, ← Store.mem_ids_iff, hg.ids, List.mem_append,
      List.mem_singleton, Store.mem_ids_iff, hmem]
    rintro (hs | he)
    · cases hs
    · exact Ident.generated_ne (by omega) (by omega) (congrArg MemoryId.text he).symm
  · intro e he heq
    have hin : e.id ∈ a'.store.trail.map (·.id) := List.mem_map_of_mem he
    rw [hg.entries, List.mem_append, List.mem_singleton] at hin
    rcases hin with hin | hid
    · obtain ⟨x, hx, hid⟩ := List.mem_map.mp hin
      exact hentry x hx (hid.trans heq)
    · exact Ident.generated_ne (by omega) (by omega)
        (congrArg EntryId.text (hid.symm.trans heq))

end Archive.Clear

end Curation
