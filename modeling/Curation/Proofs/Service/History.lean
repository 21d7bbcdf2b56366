/-
# History is only added to

Beside the sessions and requests of a service somebody may call on its store directly, with any
memory, any entry and any batch.  A `History` is a sequence of all of these, refused or not.

Whatever happens, the trail before is the beginning of the trail after, and each memory is there
after, with its id, its owner, its kind and its time of creation.  Both need no assumption.  That
the time of a tombstone is set exactly on memories that are tombstoned is kept if whoever inserts
memories directly heeds it, for a service inserts live memories only.
-/
import Curation.Proofs.Service.Arising
import Curation.Proofs.Store.Interface

namespace Curation

open Archive

namespace StoreRequest

variable {P : WriteOp → Prop} {r : StoreRequest}

/-- **A call on the store** applies its ops or nothing. -/
theorem writes_serve (hP : ∀ op ∈ r.ops, P op) : Across (Writes P) r.serve := by
  have hc := composes_writes P
  cases r with
  | insertMemory m =>
    refine hc.bind (hc.insertMemory fun a σ h => ?_) fun _ => hc.pure _
    exact writes_apply default (hP (.insertMemory m) List.mem_cons_self) h
  | getMemory id => exact hc.bind (hc.getMemory id) fun _ => hc.pure _
  | listMemories owner filter =>
    exact hc.bind (hc.gatedRead (f := fun a => a.store.list owner filter) _ fun _ _ => rfl)
      fun _ => hc.pure _
  | append e =>
    refine hc.bind (hc.append fun a σ h => ?_) fun _ => hc.pure _
    exact writes_apply default (hP (.appendAudit e) List.mem_cons_self) h
  | forSession session =>
    exact hc.bind (hc.gatedRead (f := fun a => a.store.forSession session) _ fun _ _ => rfl)
      fun _ => hc.pure _
  | ownerSettings owner =>
    exact hc.bind (hc.gatedRead (f := fun a => a.store.settingsOf owner) _ fun _ _ => rfl)
      fun _ => hc.pure _
  | setThreshold owner threshold =>
    exact hc.bind (hc.setThreshold fun a σ h => writes_configure h) fun _ => hc.pure _
  | applyBatch ops =>
    refine hc.bind (fun a => ?_) fun _ => hc.pure _
    rcases h : a.answer (Archive.applyBatch ops) with ⟨r, a'⟩
    have hcases := Archive.applyBatch_cases h
    cases r with
    | ok v => exact hcases.writes hP
    | error e => exact hc.quiet hcases.quiet

end StoreRequest

/-! ## Histories -/

/-- **What can happen to a service and its store**: a step of the service, under any configuration
and for any owner, or a call on the store.  The memories that the calls insert are admitted. -/
inductive Service.Happens (admitted : Memory → Prop) : Service → Service → Prop
  | step {c : Config} {owner : OwnerId} {w w' : Service} (h : Step c owner w w') :
      Happens admitted w w'
  | call {a : Archive} {ss : List Session} (r : StoreRequest)
      (h : ∀ m, .insertMemory m ∈ r.ops → admitted m) :
      Happens admitted ⟨a, ss⟩ ⟨(a.answer r.serve).2, ss⟩

/-- A sequence of such things. -/
def Service.History (admitted : Memory → Prop) : Service → Service → Prop :=
  Relation.ReflTransGen (Happens admitted)

namespace Service

variable {admitted : Memory → Prop} {w w' : Service}

/-- **What happens is an evolution of the store**, in which memories are inserted that were admitted
or that carry the time of a tombstone exactly if they are tombstoned. -/
theorem Happens.writes (h : Happens admitted w w') :
    Writes (fun op => ∀ m, op = .insertMemory m → admitted m ∨ m.Stamped) w.archive w'.archive := by
  cases h with
  | step h =>
    obtain ⟨_, _, -, hw⟩ := h.arises
    exact hw.mono fun op hop m hm => .inr (WriteOp.Arises.fresh (hm ▸ hop))
  | call r h =>
    exact StoreRequest.writes_serve (fun op hop m hm => .inl (h m (hm ▸ hop))) _

theorem History.writes (h : History admitted w w') :
    Writes (fun op => ∀ m, op = .insertMemory m → admitted m ∨ m.Stamped) w.archive w'.archive := by
  have hc := composes_writes fun op => ∀ m, op = .insertMemory m → admitted m ∨ m.Stamped
  induction h with
  | refl => exact hc.quiet ⟨rfl, rfl⟩
  | tail _ hstep ih => exact hc.trans ih hstep.writes

/-- **History is only added to.**  The trail before is the beginning of the trail after.  Each
memory stays, with its id, its owner, its kind and its time of creation.  The time of a tombstone
stays set exactly on memories that are tombstoned, if it is so on all that are inserted.  And a
memory that is tombstoned at any moment on the way, between any two ops, keeps the time at which it
was, however often it is tombstoned again, as long as its tombstone is not cleared. -/
theorem history_only_grows (h : History admitted w w') :
    let b := w.archive.backend
    let σ := w.archive.store
    let σ' := w'.archive.store
    σ.trail <+: σ'.trail ∧
    (∀ id m, σ.memory? id = some m → ∃ m', σ'.memory? id = some m' ∧ m'.id = m.id ∧
      m'.owner = m.owner ∧ m'.kind = m.kind ∧ m'.createdAt = m.createdAt) ∧
    ((∀ m, admitted m → m.Stamped) → (∀ m ∈ σ.memories, m.Stamped) →
      ∀ m ∈ σ'.memories, m.Stamped) ∧
    (∃ ops, Store.Evolves b ops σ σ') ∧
    ∀ before after σ₁, Store.Evolves b before σ σ₁ → Store.Evolves b after σ₁ σ' →
      ∀ id m, σ₁.memory? id = some m → m.tombstoned = true → .setTombstone id false ∉ after →
        ∃ m', σ'.memory? id = some m' ∧ m'.tombstoned = true ∧
          m'.tombstonedAt = m.tombstonedAt := by
  obtain ⟨ops, hev, hops⟩ := h.writes.evolves
  refine ⟨?_, fun id m hm => ?_, fun hadmitted hσ => ?_, ⟨ops, hev⟩,
    fun _ _ _ _ hafter _ _ hm ht hn => hafter.tombstone hm ht hn⟩
  · rw [hev.trail]
    exact List.prefix_append _ _
  · obtain ⟨m', hm', ho⟩ := hev.origin hm
    simp only [Memory.origin, Prod.mk.injEq] at ho
    exact ⟨m', hm', ho⟩
  · exact hev.forall_memories (fun t op _ m hm => hm.revise _ t op)
      (fun m hm => (hops _ hm m rfl).elim (hadmitted m) id) hσ

/-- A memory is tombstoned twice, and another one is inserted.  The second time does not count. -/
theorem history_only_grows_tombstoned_twice :
    ∃ w w' : Service, ∃ m m', History Memory.Stamped ⟨.oneNote, []⟩ w ∧
      History Memory.Stamped w w' ∧ w.archive.store.memory? ⟨"m"⟩ = some m ∧
      m.tombstoned = true ∧ w'.archive.store.memory? ⟨"m"⟩ = some m' ∧
      m'.tombstonedAt = m.tombstonedAt ∧ ∀ x ∈ w'.archive.store.memories, x.Stamped := by
  let again : StoreRequest := .applyBatch [.setTombstone ⟨"m"⟩ true]
  let other : StoreRequest := .insertMemory (.fresh ⟨"n"⟩ ⟨"o"⟩ "other" .core ⟨0, 0⟩)
  let a₁ := (Archive.oneNote.answer other.serve).2
  let a₂ := (a₁.answer again.serve).2
  let a₃ := (a₂.answer again.serve).2
  have hother : ∀ m, .insertMemory m ∈ other.ops → m.Stamped := by
    simp [other, StoreRequest.ops, Memory.stamped_fresh]
  have hfirst : History Memory.Stamped ⟨.oneNote, []⟩ ⟨a₂, []⟩ :=
    .tail (.tail .refl (.call other hother)) (.call again (by simp [again, StoreRequest.ops]))
  have hsecond : History Memory.Stamped ⟨a₂, []⟩ ⟨a₃, []⟩ :=
    .tail .refl (.call again (by simp [again, StoreRequest.ops]))
  have hm : (a₂.store.memory? ⟨"m"⟩).any (·.tombstoned) = true := by decide +kernel
  obtain ⟨m, hm, ht⟩ := (Option.any_eq_true _ _).mp hm
  have hop : a₂.store.apply a₂.backend a₂.clock.next (.setTombstone ⟨"m"⟩ true) = .ok a₃.store := by
    decide +kernel
  obtain ⟨-, -, -, -, hkept⟩ := history_only_grows hsecond
  obtain ⟨-, -, hstamped, -⟩ := history_only_grows (hfirst.trans hsecond)
  obtain ⟨m', hm', -, hat⟩ := hkept [] _ a₂.store (.refl _) (.op _ hop (.refl _)) ⟨"m"⟩ m hm ht
    (by simp)
  exact ⟨_, _, m, m', hfirst, hsecond, hm, ht, hm', hat, hstamped (fun _ h => h) (by decide)⟩

end Service
end Curation
