/-
# What belongs to an owner

A batch names memories by their ids alone, and nothing checks whose they are when it is applied.
So whether it keeps to what its owner has depends on its ops.  `MadeFor` says it of one op, and
`Written.others` what follows: a batch all of whose ops were made for one owner leaves everything
of the other owners as it was, their memories, their entries and their settings.

An op that names a memory was made for the owner of that memory.  Memories never change their
owner, so it stays so as the batch is applied.
-/
import Curation.Proofs.Store.Undoing

namespace Curation

/-- The memory of an id is an owner's. -/
def Store.Owns (σ : Store) (owner : OwnerId) (id : MemoryId) : Prop :=
  ∃ m, σ.memory? id = some m ∧ m.owner = owner

theorem Store.Owns.isSome {σ : Store} {owner : OwnerId} {id : MemoryId} (h : σ.Owns owner id) :
    (σ.memory? id).isSome := by
  obtain ⟨m, hm, -⟩ := h
  rw [hm]
  rfl

/-- **What a store holds of the owners other than one.** -/
def Store.others (owner : OwnerId) (σ : Store) : Store where
  memories := σ.memories.filter (·.owner != owner)
  trail := σ.trail.filter (·.owner != owner)
  settings := σ.settings.filter (·.owner != owner)

/-- An op that was made for an owner: it adds what is the owner's, or names a memory that is. -/
def WriteOp.MadeFor (owner : OwnerId) (σ : Store) : WriteOp → Prop
  | .insertMemory m => m.owner = owner
  | .appendAudit e => e.owner = owner
  | .stampRefined o _ => o = owner
  | .setTombstone id _ | .setContent id _ | .setConstitutional id _ => σ.Owns owner id

namespace WriteOp.MadeFor

variable {owner : OwnerId} {σ σ' : Store} {op : WriteOp}

theorem owns {id : MemoryId} (h : op.MadeFor owner σ) (ht : op.target? = some id) :
    σ.Owns owner id := by
  cases op with
  | setTombstone _ _ | setContent _ _ | setConstitutional _ _ =>
    cases ht
    exact h
  | insertMemory _ | appendAudit _ | stampRefined _ _ => cases ht

theorem inserted {m : Memory} (h : op.MadeFor owner σ) (hi : op.inserted? = some m) :
    m.owner = owner := by
  cases op with
  | insertMemory _ =>
    cases hi
    exact h
  | setTombstone _ _ | setContent _ _ | setConstitutional _ _ | appendAudit _
  | stampRefined _ _ => cases hi

theorem appended {e : AuditEntry} (h : op.MadeFor owner σ) (ha : op.appended? = some e) :
    e.owner = owner := by
  cases op with
  | appendAudit _ =>
    cases ha
    exact h
  | setTombstone _ _ | setContent _ _ | setConstitutional _ _ | insertMemory _
  | stampRefined _ _ => cases ha

/-- Where owners keep what they have, ops stay made for them. -/
theorem mono (h : op.MadeFor owner σ) (hσ : ∀ id, σ.Owns owner id → σ'.Owns owner id) :
    op.MadeFor owner σ' := by
  cases op with
  | setTombstone _ _ | setContent _ _ | setConstitutional _ _ => exact hσ _ h
  | insertMemory _ | appendAudit _ | stampRefined _ _ => exact h

end WriteOp.MadeFor

namespace Store

variable {b : Backend} {t : Instant} {owner : OwnerId} {σ σ' : Store} {op : WriteOp}
  {ops : List WriteOp}

/-! ## 1. Owners keep their memories -/

theorem owner_revise (m : Memory) (op : WriteOp) : (m.revise b t op).owner = m.owner :=
  congrArg (·.2.1) (Memory.origin_revise b t m op)

theorem owner_revised (ops : List WriteOp) (m : Memory) :
    (m.revised b t ops).owner = m.owner :=
  congrArg (·.2.1) (Memory.origin_revised b t ops m)

/-- **Memories never change their owner.** -/
theorem Written.owns (h : Written b t ops σ σ') {id : MemoryId} (ho : σ.Owns owner id) :
    σ'.Owns owner id := by
  obtain ⟨m, hm, ho⟩ := ho
  exact ⟨_, h.memory? hm, (owner_revised ops m).trans ho⟩

theorem Applied.owns (h : Applied b t op σ σ') {id : MemoryId} (ho : σ.Owns owner id) :
    σ'.Owns owner id := by
  obtain ⟨m, hm, ho⟩ := ho
  exact ⟨_, h.memory? hm, (owner_revise m op).trans ho⟩

/-- What a batch inserts for an owner is the owner's. -/
theorem Written.owns_inserted (h : Written b t ops σ σ')
    (hops : ∀ op ∈ ops, op.MadeFor owner σ) {m : Memory} (hm : .insertMemory m ∈ ops) :
    σ'.Owns owner m.id := by
  obtain ⟨hnone, hsome⟩ := h.inserted hm
  obtain ⟨m', hm'⟩ := Option.isSome_iff_exists.mp hsome
  obtain ⟨m₀, ops', hm₀, rfl⟩ := h.mem_of_new hnone hm'
  exact ⟨_, hm', (owner_revised ops' m₀).trans (hops _ hm₀)⟩

/-! ## 2. Others keep what they have -/

/-- What is changed only where a test fails, without a change of the test. -/
theorem filter_map_of_fixed {α : Type} {p : α → Bool} {f : α → α} {xs : List α}
    (hp : ∀ x ∈ xs, p (f x) = p x) (hf : ∀ x ∈ xs, p x = true → f x = x) :
    (xs.map f).filter p = xs.filter p := by
  have hpf : xs.filter (p ∘ f) = xs.filter p := List.filter_congr hp
  have hid : (xs.filter p).map f = (xs.filter p).map id := by
    refine List.map_congr_left fun x hx => ?_
    obtain ⟨hx, hpx⟩ := List.mem_filter.mp hx
    exact hf x hx hpx
  rw [List.filter_map, hpf, hid, List.map_id]

/-- What is an owner's is left out. -/
theorem filter_option {α : Type} {owner : OwnerId} {f : α → OwnerId} {o : Option α}
    (h : ∀ x, o = some x → f x = owner) : o.toList.filter (f · != owner) = [] := by
  refine List.filter_eq_nil_iff.mpr fun x hx => ?_
  simpa using h x (Option.mem_toList.mp hx)

theorem Applied.others_memories (h : Applied b t op σ σ') (hk : σ.Keyed)
    (ho : op.MadeFor owner σ) :
    σ'.memories.filter (·.owner != owner) = σ.memories.filter (·.owner != owner) := by
  rw [h.memories, List.filter_append, filter_option fun m hm => ho.inserted hm, List.append_nil]
  refine filter_map_of_fixed (fun m _ => by rw [owner_revise]) fun m hm hother => ?_
  refine Memory.revise_of_ne b t fun ht => ?_
  -- an op that names the memory was made for its owner
  obtain ⟨m', hm', ho'⟩ := ho.owns ht
  rw [hk.memory? hm] at hm'
  cases hm'
  simp [ho'] at hother

theorem Applied.others_trail (h : Applied b t op σ σ') (ho : op.MadeFor owner σ) :
    σ'.trail.filter (·.owner != owner) = σ.trail.filter (·.owner != owner) := by
  have hnew : ∀ e, op.appended?.map (AuditEntry.kept b) = some e → e.owner = owner := by
    intro e he
    obtain ⟨e', he', rfl⟩ := Option.map_eq_some_iff.mp he
    show e'.owner = owner
    exact ho.appended he'
  rw [h.trail, List.filter_append, filter_option hnew, List.append_nil]

/-- Settings are made and changed one owner at a time. -/
theorem others_configure {f : OwnerSettings → OwnerSettings} (hf : ∀ s, (f s).owner = s.owner)
    (h : σ.configure b owner f = .ok σ') : σ'.others owner = σ.others owner := by
  have hsettings : σ'.settings.filter (·.owner != owner) =
      σ.settings.filter (·.owner != owner) := by
    unfold configure at h
    split at h
    · cases h
    · split at h <;> cases h
      · refine filter_map_of_fixed (fun s _ => ?_) fun s _ hother => ?_
        · split
          · rw [hf]
          · rfl
        · rw [if_neg]
          simpa using hother
      · rw [List.filter_append, List.filter_singleton]
        simp [hf, OwnerSettings.unset]
  obtain ⟨hm, ht⟩ := configure_ok h
  unfold others
  rw [hsettings, hm, ht]

theorem settings_of_apply (h : σ.apply b t op = .ok σ') (hs : ∀ o time, op ≠ .stampRefined o time) :
    σ'.settings = σ.settings := by
  cases op with
  | setTombstone _ _ | setContent _ _ | setConstitutional _ _ =>
    obtain ⟨-, rfl⟩ := change_ok h
    rfl
  | appendAudit e => rw [append_ok h]
  | insertMemory m =>
    simp only [apply, insert] at h
    split at h <;> cases h
    rfl
  | stampRefined o time => exact absurd rfl (hs o time)

/-- **One op** that was made for an owner. -/
theorem others_apply (h : σ.apply b t op = .ok σ') (hk : σ.Keyed) (ho : op.MadeFor owner σ) :
    σ'.others owner = σ.others owner := by
  have ha := apply_ok h
  by_cases hs : ∃ o time, op = .stampRefined o time
  · obtain ⟨o, time, rfl⟩ := hs
    cases ho
    exact others_configure (f := fun s => { s with lastRefinedAt := some time }) (fun _ => rfl) h
  · have hsettings := settings_of_apply h fun o time he => hs ⟨o, time, he⟩
    unfold others
    rw [ha.others_memories hk ho, ha.others_trail ho, hsettings]

/-- **A batch that was made for an owner** leaves what the others have as it was. -/
theorem Written.others (h : Written b t ops σ σ') (hk : σ.Keyed)
    (hops : ∀ op ∈ ops, op.MadeFor owner σ) : σ'.others owner = σ.others owner := by
  induction h with
  | nil => rfl
  | @cons op ops σ σ₁ σ' h₁ _ ih =>
    have ha := apply_ok h₁
    have hk₁ : σ₁.Keyed := (Written.cons h₁ (.nil σ₁)).keyed hk
    have hops₁ : ∀ op ∈ ops, op.MadeFor owner σ₁ := fun op hop =>
      (hops op (List.mem_cons_of_mem _ hop)).mono fun _ => ha.owns
    exact (ih hk₁ hops₁).trans (others_apply h₁ hk (hops op List.mem_cons_self))

end Store
end Curation
