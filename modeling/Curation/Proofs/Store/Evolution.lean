/-
# What can ever happen to a store

Between two states of a store ops are applied, each at a time of its own, and settings are set.
`Evolves` says so and keeps the ops as a LOG.  A batch is an evolution, and so is anything that is
made of batches, single insertions and settings, whoever asked for them.

Three things hold of every evolution.  The trail is extended by the entries of the log.  A memory
that is there stays there, with its id, its owner, its kind and its time of creation.  And a memory
that is tombstoned keeps the time at which it was until an op of the log clears the tombstone:
tombstoning it again does not count.
-/
import Curation.Proofs.Store.Undoing

namespace Curation

/-- The time of a tombstone is set exactly on memories that are tombstoned. -/
def Memory.Stamped (m : Memory) : Prop := m.tombstonedAt.isSome = m.tombstoned

instance (m : Memory) : Decidable m.Stamped := inferInstanceAs (Decidable (_ = _))

namespace Memory

variable (b : Backend) (t : Instant)

theorem stamped_fresh (id : MemoryId) (owner : OwnerId) (content : String) (kind : MemoryKind) :
    (fresh id owner content kind t).Stamped := rfl

/-- **What an op makes of a memory**: what it was, or what one of the three changes makes of it. -/
theorem revise_cases {P : Memory → Prop} (m : Memory) (op : WriteOp) (hsame : P m)
    (htombstone : ∀ v, op = .setTombstone m.id v → P (m.setTombstone b t v))
    (hcontent : ∀ c, op = .setContent m.id c → P { m with content := c })
    (hprotect : ∀ v, op = .setConstitutional m.id v → P { m with constitutional := v }) :
    P (m.revise b t op) := by
  by_cases hop : op.target? = some m.id
  · cases op with
    | setTombstone id v =>
      cases hop
      simpa [revise] using htombstone v rfl
    | setContent id c =>
      cases hop
      simpa [revise] using hcontent c rfl
    | setConstitutional id v =>
      cases hop
      simpa [revise] using hprotect v rfl
    | insertMemory _ | appendAudit _ | stampRefined _ _ => cases hop
  · rw [revise_of_ne b t hop]
    exact hsame

theorem Stamped.revise {m : Memory} (h : m.Stamped) (op : WriteOp) :
    (m.revise b t op).Stamped := by
  refine revise_cases b t m op h (fun v _ => ?_) (fun _ _ => h) (fun _ _ => h)
  unfold setTombstone
  (repeat' split) <;> simp_all [Stamped]

/-- **A tombstone keeps its time**, unless it is cleared. -/
theorem revise_of_tombstoned {m : Memory} {op : WriteOp} (h : m.tombstoned = true)
    (hop : op ≠ .setTombstone m.id false) :
    (m.revise b t op).tombstoned = true ∧
      (m.revise b t op).tombstonedAt = m.tombstonedAt := by
  refine revise_cases (P := fun m' => m'.tombstoned = true ∧ m'.tombstonedAt = m.tombstonedAt)
    b t m op ⟨h, rfl⟩ (fun v hv => ?_) (fun _ _ => ⟨h, rfl⟩) (fun _ _ => ⟨h, rfl⟩)
  cases v with
  | true => simp [setTombstone, h]
  | false => exact absurd hv hop

end Memory

namespace Store

variable {b : Backend} {ops ops' : List WriteOp} {σ σ₁ σ' : Store}

/-! ## 1. Evolutions -/

/-- **What can happen to a store**, with the ops that were applied. -/
inductive Evolves (b : Backend) : List WriteOp → Store → Store → Prop
  | refl (σ : Store) : Evolves b [] σ σ
  | op {op : WriteOp} {ops : List WriteOp} {σ σ₁ σ' : Store} (t : Instant)
      (h : σ.apply b t op = .ok σ₁) (h' : Evolves b ops σ₁ σ') : Evolves b (op :: ops) σ σ'
  | settings {owner : OwnerId} {f : OwnerSettings → OwnerSettings} {ops : List WriteOp}
      {σ σ₁ σ' : Store} (h : σ.configure b owner f = .ok σ₁) (h' : Evolves b ops σ₁ σ') :
      Evolves b ops σ σ'

theorem Evolves.trans (h : Evolves b ops σ σ₁) (h' : Evolves b ops' σ₁ σ') :
    Evolves b (ops ++ ops') σ σ' := by
  induction h with
  | refl => exact h'
  | op t h₁ _ ih => exact .op t h₁ (ih h')
  | settings h₁ _ ih => exact .settings h₁ (ih h')

theorem Written.evolves {t : Instant} (h : Written b t ops σ σ') : Evolves b ops σ σ' := by
  induction h with
  | nil σ => exact .refl σ
  | cons h₁ _ ih => exact .op t h₁ ih

/-! ## 2. What stays -/

theorem memory?_congr (h : σ'.memories = σ.memories) (id : MemoryId) :
    σ'.memory? id = σ.memory? id := by
  unfold memory?
  rw [h]

/-- **The trail is only added to**, by the entries of the log. -/
theorem Evolves.trail (h : Evolves b ops σ σ') :
    σ'.trail = σ.trail ++ (ops.filterMap WriteOp.appended?).map (AuditEntry.kept b) := by
  induction h with
  | refl => simp
  | @op op ops σ σ₁ σ' t h₁ _ ih =>
    rw [ih, (apply_ok h₁).trail, List.append_assoc]
    cases ha : op.appended? with
    | none => simp [ha]
    | some e => simp [ha]
  | settings h₁ _ ih => rw [ih, (configure_ok h₁).2]

/-- **What is so of a memory stays so** if no op of the log that is applied to it ends it. -/
theorem Evolves.kept {P : Memory → Prop} {id : MemoryId} (h : Evolves b ops σ σ')
    (hrevise : ∀ t, ∀ op ∈ ops, ∀ m : Memory, m.id = id → P m → P (m.revise b t op)) {m : Memory}
    (hm : σ.memory? id = some m) (hP : P m) : ∃ m', σ'.memory? id = some m' ∧ P m' := by
  induction h generalizing m with
  | refl => exact ⟨m, hm, hP⟩
  | @op op ops σ σ₁ σ' t h₁ _ ih =>
    refine ih (fun t op' hop => hrevise t op' (List.mem_cons_of_mem _ hop))
      ((apply_ok h₁).memory? hm) ?_
    exact hrevise t op List.mem_cons_self m (memory?_id hm) hP
  | settings h₁ _ ih => exact ih hrevise ((memory?_congr (configure_ok h₁).1 id).trans hm) hP

/-- **Memories stay**, and keep what can never be changed of them. -/
theorem Evolves.origin (h : Evolves b ops σ σ') {id : MemoryId} {m : Memory}
    (hm : σ.memory? id = some m) : ∃ m', σ'.memory? id = some m' ∧ m'.origin = m.origin :=
  h.kept (P := fun m' => m'.origin = m.origin)
    (fun t op _ m' _ ho => (Memory.origin_revise b t m' op).trans ho) hm rfl

/-- **A tombstone keeps its time** as long as no op of the log clears it. -/
theorem Evolves.tombstone (h : Evolves b ops σ σ') {id : MemoryId} {m : Memory}
    (hm : σ.memory? id = some m) (ht : m.tombstoned = true)
    (hops : .setTombstone id false ∉ ops) :
    ∃ m', σ'.memory? id = some m' ∧ m'.tombstoned = true ∧ m'.tombstonedAt = m.tombstonedAt := by
  refine h.kept (P := fun m' => m'.tombstoned = true ∧ m'.tombstonedAt = m.tombstonedAt)
    (fun t op hop m' hid hm' => ?_) hm ⟨ht, rfl⟩
  obtain ⟨ht', hat⟩ := Memory.revise_of_tombstoned b t hm'.1 fun heq => by
    rw [hid] at heq
    exact hops (heq ▸ hop)
  exact ⟨ht', hat.trans hm'.2⟩

/-- **What holds of all memories** holds of all memories afterwards, if it does of those that the
log inserts and no op of the log ends it. -/
theorem Evolves.forall_memories {P : Memory → Prop} (h : Evolves b ops σ σ')
    (hrevise : ∀ t, ∀ op ∈ ops, ∀ m : Memory, P m → P (m.revise b t op))
    (hinsert : ∀ m, .insertMemory m ∈ ops → P m) (hσ : ∀ m ∈ σ.memories, P m) :
    ∀ m ∈ σ'.memories, P m := by
  induction h with
  | refl => exact hσ
  | @op op ops σ σ₁ σ' t h₁ _ ih =>
    refine ih (fun t op' hop => hrevise t op' (List.mem_cons_of_mem _ hop))
      (fun m hm => hinsert m (List.mem_cons_of_mem _ hm)) fun m hm => ?_
    rw [(apply_ok h₁).memories] at hm
    rcases List.mem_append.mp hm with hm | hm
    · obtain ⟨m₀, hm₀, rfl⟩ := List.mem_map.mp hm
      exact hrevise t op List.mem_cons_self m₀ (hσ m₀ hm₀)
    · cases op with
      | insertMemory m₁ =>
        rw [List.mem_singleton.mp hm]
        exact hinsert m₁ List.mem_cons_self
      | setTombstone _ _ | setContent _ _ | setConstitutional _ _ | appendAudit _
      | stampRefined _ _ => cases hm
  | settings h₁ _ ih => exact ih hrevise hinsert ((configure_ok h₁).1 ▸ hσ)

end Store
end Curation
