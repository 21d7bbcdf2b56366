/-
# What a batch does

A batch that was written did three things, and each can be read off its ops: it REVISED the
memories that were there (each op at most the one memory that it names), it added the memories
that it inserts, and it appended its entries to the trail.  Settings are the only other thing
that a batch writes.

The effect on one memory is the left fold `Memory.revised` of its ops, so what a batch leaves in
a memory does not depend on the other memories at all.
-/
import Mathlib.Data.List.Nodup
import Curation.Store.Write

namespace Curation

/-! ## 1. Single ops -/

/-- The memory that an op names, if it changes one that is there. -/
def WriteOp.target? : WriteOp → Option MemoryId
  | .setTombstone id _ | .setContent id _ | .setConstitutional id _ => some id
  | .insertMemory _ | .appendAudit _ | .stampRefined _ _ => none

/-- The memory that an op adds. -/
def WriteOp.inserted? : WriteOp → Option Memory
  | .insertMemory m => some m
  | _ => none

/-- The entry that an op appends. -/
def WriteOp.appended? : WriteOp → Option AuditEntry
  | .appendAudit e => some e
  | _ => none

/-- A payload as a backend keeps it. -/
def Json.kept (backend : Backend) (j : Json) : Json :=
  match backend with
  | .inMemory => j
  | .database => j.normal

/-- An entry as a backend keeps it. -/
def AuditEntry.kept (backend : Backend) (e : AuditEntry) : AuditEntry :=
  { e with payload := e.payload.kept backend }

namespace Memory

variable (b : Backend) (t : Instant)

/-- What an op makes of a memory; nothing new if it names another one. -/
def revise (m : Memory) : WriteOp → Memory
  | .setTombstone id value => if m.id == id then m.setTombstone b t value else m
  | .setContent id content => if m.id == id then { m with content := content } else m
  | .setConstitutional id value => if m.id == id then { m with constitutional := value } else m
  | .insertMemory _ | .appendAudit _ | .stampRefined _ _ => m

/-- What the ops of a batch make of a memory, one after the other. -/
def revised (ops : List WriteOp) (m : Memory) : Memory := ops.foldl (revise b t) m

@[simp] theorem setTombstone_id (m : Memory) (value : Bool) :
    (m.setTombstone b t value).id = m.id := by
  unfold setTombstone
  split
  · split <;> rfl
  · rfl

@[simp] theorem revise_id (m : Memory) (op : WriteOp) : (m.revise b t op).id = m.id := by
  cases op <;> simp only [revise] <;> split <;> simp

@[simp] theorem revised_id : ∀ (ops : List WriteOp) (m : Memory), (revised b t ops m).id = m.id
  | [], _ => rfl
  | op :: ops, m => (revised_id ops _).trans (revise_id b t m op)

theorem revised_append (ops ops' : List WriteOp) (m : Memory) :
    revised b t (ops ++ ops') m = revised b t ops' (revised b t ops m) :=
  List.foldl_append

/-- An op that names another memory, or none, leaves a memory alone. -/
theorem revise_of_ne {m : Memory} {op : WriteOp} (h : op.target? ≠ some m.id) :
    m.revise b t op = m := by
  cases op with
  | setTombstone id value =>
    have : ¬ m.id = id := fun he => h (by rw [WriteOp.target?, he])
    simp [revise, this]
  | setContent id content =>
    have : ¬ m.id = id := fun he => h (by rw [WriteOp.target?, he])
    simp [revise, this]
  | setConstitutional id value =>
    have : ¬ m.id = id := fun he => h (by rw [WriteOp.target?, he])
    simp [revise, this]
  | insertMemory _ | appendAudit _ | stampRefined _ _ => rfl

theorem revised_of_ne {m : Memory} : ∀ {ops : List WriteOp},
    (∀ op ∈ ops, op.target? ≠ some m.id) → revised b t ops m = m
  | [], _ => rfl
  | op :: ops, h => by
    show revised b t ops (m.revise b t op) = m
    rw [revise_of_ne b t (h op List.mem_cons_self)]
    exact revised_of_ne fun op' ho => h op' (List.mem_cons_of_mem _ ho)

end Memory

namespace Store

variable {b : Backend} {t : Instant} {s s' : Store} {op : WriteOp}

/-! ## 2. One op on the store -/

theorem change_ok {id : MemoryId} {f : Memory → Memory} (h : s.change id f = .ok s') :
    (s.memory? id).isSome ∧
      s' = { s with memories := s.memories.map fun m => if m.id == id then f m else m } := by
  unfold change at h
  split at h
  · next hs =>
    cases h
    exact ⟨hs, rfl⟩
  · cases h

/-- What an op that was applied did: `s` is the store before it and `s'` the one after. -/
structure Applied (b : Backend) (t : Instant) (op : WriteOp) (s s' : Store) : Prop where
  /-- The memories that were there, revised, and the one that it adds. -/
  memories : s'.memories = s.memories.map (·.revise b t op) ++ op.inserted?.toList
  /-- The entry that it appends comes last. -/
  trail : s'.trail = s.trail ++ (op.appended?.map (AuditEntry.kept b)).toList
  /-- The memory that it names was there. -/
  target : ∀ id, op.target? = some id → (s.memory? id).isSome
  /-- The memory that it adds was not. -/
  inserted : ∀ m, op.inserted? = some m → s.memory? m.id = none

theorem applied_of_change {id : MemoryId} {f : Memory → Memory} (h : s.change id f = .ok s')
    (ht : op.target? = some id) (hi : op.inserted? = none) (ha : op.appended? = none)
    (hf : ∀ m : Memory, m.revise b t op = if m.id == id then f m else m) :
    Applied b t op s s' := by
  obtain ⟨hs, rfl⟩ := change_ok h
  refine ⟨?_, by simp [ha], fun i hi' => ?_, fun m hm => ?_⟩
  · simp [hi, hf]
  · rw [ht] at hi'
    cases hi'
    exact hs
  · rw [hi] at hm
    cases hm

theorem applied_of_insert {m : Memory} (h : s.insert m = .ok s') :
    Applied b t (.insertMemory m) s s' := by
  unfold insert at h
  split at h
  · cases h
  · next hn =>
    cases h
    refine ⟨by simp [Memory.revise, WriteOp.inserted?], by simp [WriteOp.appended?], ?_, ?_⟩
    · intro id hid
      cases hid
    · intro m' hm
      cases hm
      simpa using hn

theorem append_ok {e : AuditEntry} (h : s.append b e = .ok s') :
    s' = { s with trail := s.trail ++ [e.kept b] } := by
  cases b with
  | inMemory =>
    cases h
    rfl
  | database =>
    simp only [append] at h
    split at h
    · cases h
    · cases h
      rfl

theorem configure_ok {owner : OwnerId} {f : OwnerSettings → OwnerSettings}
    (h : s.configure b owner f = .ok s') :
    s'.memories = s.memories ∧ s'.trail = s.trail := by
  unfold configure at h
  split at h
  · cases h
  · split at h
    · cases h
      exact ⟨rfl, rfl⟩
    · cases h
      exact ⟨rfl, rfl⟩

/-- An op that names no memory and adds none. -/
theorem applied_of_memories (hm : s'.memories = s.memories)
    (ht : s'.trail = s.trail ++ (op.appended?.map (AuditEntry.kept b)).toList)
    (hn : op.target? = none) (hi : op.inserted? = none) (hr : ∀ m : Memory, m.revise b t op = m) :
    Applied b t op s s' := by
  refine ⟨by simp [hm, hi, hr], ht, fun id hid => ?_, fun m hm => ?_⟩
  · rw [hn] at hid
    cases hid
  · rw [hi] at hm
    cases hm

/-- **One op at a time.** -/
theorem apply_ok (h : s.apply b t op = .ok s') : Applied b t op s s' := by
  cases op with
  | setTombstone id value => exact applied_of_change h rfl rfl rfl fun _ => rfl
  | setContent id content => exact applied_of_change h rfl rfl rfl fun _ => rfl
  | setConstitutional id value => exact applied_of_change h rfl rfl rfl fun _ => rfl
  | insertMemory m => exact applied_of_insert h
  | appendAudit e =>
    obtain rfl := append_ok h
    exact applied_of_memories rfl rfl rfl rfl fun _ => rfl
  | stampRefined owner time =>
    obtain ⟨hm, ht⟩ := configure_ok h
    exact applied_of_memories hm (ht.trans (List.append_nil _).symm) rfl rfl fun _ => rfl

/-! ## 3. Batches -/

/-- The ops of a batch were applied one after the other. -/
inductive Written (b : Backend) (t : Instant) : List WriteOp → Store → Store → Prop
  | nil (s : Store) : Written b t [] s s
  | cons {op : WriteOp} {ops : List WriteOp} {s s₁ s' : Store} :
      s.apply b t op = .ok s₁ → Written b t ops s₁ s' → Written b t (op :: ops) s s'

theorem written_of_applyFrom {fault : Option Nat} : ∀ {ops : List WriteOp} {i : Nat} {s : Store},
    applyFrom b t fault i ops s = .ok s' → Written b t ops s s'
  | [], _, _, h => by
    cases h
    exact .nil _
  | op :: ops, i, s, h => by
    simp only [applyFrom] at h
    split at h
    · cases h
    · split at h
      · cases h
      · next h₁ => exact .cons h₁ (written_of_applyFrom h)

/-- A batch that was not refused was written, whether a fault was armed for it or not. -/
theorem written_of_applyBatch {fault : Option Nat} {ops : List WriteOp}
    (h : s.applyBatch b t fault ops = .ok s') : Written b t ops s s' :=
  written_of_applyFrom h

/-- Without a fault the first op is applied, and the others to what it leaves. -/
theorem applyFrom_cons (i : Nat) (op : WriteOp) (ops : List WriteOp) (s : Store) :
    applyFrom b t none i (op :: ops) s =
      ((s.apply b t op).mapError (.opFailed i) >>= applyFrom b t none (i + 1) ops) := by
  cases h : s.apply b t op <;> simp only [applyFrom, h] <;> rfl

theorem Written.applyFrom {ops : List WriteOp} (h : Written b t ops s s') (i : Nat) :
    Store.applyFrom b t none i ops s = .ok s' := by
  induction h generalizing i with
  | nil => rfl
  | cons h₁ _ ih =>
    rw [applyFrom_cons, h₁]
    exact ih (i + 1)

/-- Without a fault a batch whose ops can all be applied is not refused. -/
theorem Written.applyBatch {ops : List WriteOp} (h : Written b t ops s s') :
    s.applyBatch b t none ops = .ok s' :=
  h.applyFrom 0

theorem Written.append {ops ops' : List WriteOp} {s₁ : Store} (h : Written b t ops s s₁)
    (h' : Written b t ops' s₁ s') : Written b t (ops ++ ops') s s' := by
  induction h with
  | nil => exact h'
  | cons h₁ _ ih => exact .cons h₁ (ih h')

/-- A batch in two parts. -/
theorem Written.split : ∀ {ops ops' : List WriteOp} {s : Store}, Written b t (ops ++ ops') s s' →
    ∃ s₁, Written b t ops s s₁ ∧ Written b t ops' s₁ s'
  | [], _, s, h => ⟨s, .nil s, h⟩
  | op :: ops, _, s, h => by
    cases h with
    | cons h₁ h =>
      obtain ⟨s₁, hops, hops'⟩ := Written.split h
      exact ⟨s₁, .cons h₁ hops, hops'⟩

/-! ### Memories -/

theorem memory?_id {id : MemoryId} {m : Memory} (h : s.memory? id = some m) : m.id = id := by
  have := List.find?_some h
  simpa using this

theorem Applied.memory? (h : Applied b t op s s') {id : MemoryId} {m : Memory}
    (hm : s.memory? id = some m) : s'.memory? id = some (m.revise b t op) := by
  have hf : ((fun m : Memory => m.id == id) ∘ fun m : Memory => m.revise b t op)
      = fun m => m.id == id := by
    funext m
    simp
  simp only [Store.memory?, h.memories, List.find?_append, List.find?_map, hf]
  rw [show s.memories.find? (fun m => m.id == id) = some m from hm]
  rfl

theorem Applied.memory?_new (h : Applied b t op s s') {id : MemoryId} (hm : s.memory? id = none) :
    s'.memory? id = op.inserted?.toList.find? (·.id == id) := by
  have hf : ((fun m : Memory => m.id == id) ∘ fun m : Memory => m.revise b t op)
      = fun m => m.id == id := by
    funext m
    simp
  simp only [Store.memory?, h.memories, List.find?_append, List.find?_map, hf]
  rw [show s.memories.find? (fun m => m.id == id) = none from hm]
  rfl

/-- **A memory that was there is there, revised.** -/
theorem Written.memory? {ops : List WriteOp} (h : Written b t ops s s') {id : MemoryId}
    {m : Memory} (hm : s.memory? id = some m) : s'.memory? id = some (m.revised b t ops) := by
  induction h generalizing m with
  | nil => exact hm
  | cons h₁ _ ih => exact ih ((apply_ok h₁).memory? hm)

/-- A memory that is there and was not is one that the batch inserted, revised by the ops after
that. -/
theorem Written.mem_of_new {ops : List WriteOp} (h : Written b t ops s s') {id : MemoryId}
    {m : Memory} (hn : s.memory? id = none) (hm : s'.memory? id = some m) :
    ∃ m₀ ops', .insertMemory m₀ ∈ ops ∧ m = m₀.revised b t ops' := by
  induction h with
  | nil => rw [hn] at hm; cases hm
  | @cons op ops s s₁ s' h₁ hw ih =>
    have hnew := (apply_ok h₁).memory?_new hn
    rcases hs : s₁.memory? id with _ | m₁
    · obtain ⟨m₀, ops', hm₀, hr⟩ := ih hs hm
      exact ⟨m₀, ops', List.mem_cons_of_mem _ hm₀, hr⟩
    · rw [hs] at hnew
      have hr : m = m₁.revised b t ops := Option.some.inj (hm.symm.trans (hw.memory? hs))
      cases op with
      | insertMemory m₂ =>
        obtain rfl : m₁ = m₂ := List.mem_singleton.mp (List.mem_of_find?_eq_some hnew.symm)
        exact ⟨m₁, ops, List.mem_cons_self, hr⟩
      | setTombstone _ _ | setContent _ _ | setConstitutional _ _ | appendAudit _
      | stampRefined _ _ => cases hnew

/-- Ops that only change memories add none. -/
theorem Written.memory?_of_targets {ops : List WriteOp} (h : Written b t ops s s')
    (ht : ∀ op ∈ ops, op.target?.isSome) {id : MemoryId} (hn : s.memory? id = none) :
    s'.memory? id = none := by
  rcases hm : s'.memory? id with _ | m
  · rfl
  · obtain ⟨m₀, _, hi, -⟩ := h.mem_of_new hn hm
    exact absurd (ht _ hi) nofun

/-- What a batch inserts was not there before it and is there after it. -/
theorem Written.inserted {ops : List WriteOp} (h : Written b t ops s s') {m : Memory}
    (hm : .insertMemory m ∈ ops) : s.memory? m.id = none ∧ (s'.memory? m.id).isSome := by
  induction h with
  | nil => cases hm
  | @cons op ops s s₁ s' h₁ hw ih =>
    have ha := apply_ok h₁
    rcases List.mem_cons.mp hm with rfl | hm
    · have hn := ha.inserted m rfl
      have hs : s₁.memory? m.id = some m := by
        rw [ha.memory?_new hn]
        simp [WriteOp.inserted?]
      exact ⟨hn, by rw [hw.memory? hs]; rfl⟩
    · obtain ⟨hn, hs⟩ := ih hm
      refine ⟨?_, hs⟩
      rcases h₀ : s.memory? m.id with _ | m₀
      · rfl
      · rw [ha.memory? h₀] at hn
        cases hn

/-- The ids of the memories, in the order in which they came. -/
def ids (s : Store) : List MemoryId := s.memories.map (·.id)

/-- **One memory to an id.**  Ids name memories: the memories of a store are a map. -/
def Keyed (s : Store) : Prop := s.ids.Nodup

instance (s : Store) : Decidable s.Keyed := inferInstanceAs (Decidable s.ids.Nodup)

theorem mem_ids_iff {id : MemoryId} : id ∈ s.ids ↔ (s.memory? id).isSome := by
  simp [ids, Store.memory?, List.find?_isSome]

/-- In a store that is keyed each memory is found under its id. -/
theorem Keyed.memory? (hk : s.Keyed) {m : Memory} (hm : m ∈ s.memories) :
    s.memory? m.id = some m := by
  have hs : (s.memory? m.id).isSome := mem_ids_iff.mp (List.mem_map_of_mem hm)
  obtain ⟨m', hm'⟩ := Option.isSome_iff_exists.mp hs
  have he : m' = m :=
    List.inj_on_of_nodup_map hk (List.mem_of_find?_eq_some hm') hm (memory?_id hm')
  rw [hm', he]

theorem Applied.ids (h : Applied b t op s s') :
    s'.ids = s.ids ++ (op.inserted?.map (·.id)).toList := by
  simp only [Store.ids, h.memories, List.map_append, List.map_map]
  congr 1
  · exact List.map_congr_left fun m _ => by simp
  · cases op.inserted? <;> rfl

/-- **Ids only grow.**  Those that were there keep their places. -/
theorem Written.ids {ops : List WriteOp} (h : Written b t ops s s') :
    s'.ids = s.ids ++ (ops.filterMap WriteOp.inserted?).map (·.id) := by
  induction h with
  | nil => simp
  | @cons op ops s s₁ s' h₁ _ ih =>
    rw [ih, (apply_ok h₁).ids, List.append_assoc]
    cases hi : op.inserted? with
    | none => simp [hi]
    | some m => simp [hi]

theorem Written.keyed {ops : List WriteOp} (h : Written b t ops s s') (hk : s.Keyed) :
    s'.Keyed := by
  induction h with
  | nil => exact hk
  | @cons op ops s s₁ s' h₁ _ ih =>
    refine ih ?_
    have ha := apply_ok h₁
    unfold Keyed
    rw [ha.ids]
    cases hi : op.inserted? with
    | none => simpa [Keyed] using hk
    | some m =>
      have hn : m.id ∉ s.ids := by
        rw [mem_ids_iff, ha.inserted m hi]
        simp
      exact List.nodup_append.mpr ⟨hk, by simp, fun i hi' j hj he => by
        simp only [Option.map_some, Option.toList_some, List.mem_singleton] at hj
        exact hn (hj ▸ he ▸ hi')⟩

/-! ### The trail -/

/-- **The trail grows** by the entries of the batch, in their order. -/
theorem Written.trail {ops : List WriteOp} (h : Written b t ops s s') :
    s'.trail = s.trail ++ (ops.filterMap WriteOp.appended?).map (AuditEntry.kept b) := by
  induction h with
  | nil => simp
  | @cons op ops s s₁ s' h₁ _ ih =>
    rw [ih, (apply_ok h₁).trail, List.append_assoc]
    cases ha : op.appended? with
    | none => simp [ha]
    | some e => simp [ha]

/-! ## 4. Batches that can be written -/

theorem apply_of_known {id : MemoryId} (ht : op.target? = some id) (hs : (s.memory? id).isSome) :
    ∃ s', s.apply b t op = .ok s' := by
  cases op with
  | setTombstone _ _ | setContent _ _ | setConstitutional _ _ =>
    cases ht
    simp [apply, change, hs]
  | insertMemory _ | appendAudit _ | stampRefined _ _ => cases ht

/-- Ops that name memories that are there can be applied. -/
theorem written_of_known : ∀ {ops : List WriteOp} {s : Store},
    (∀ op ∈ ops, ∃ id, op.target? = some id ∧ (s.memory? id).isSome) →
    ∃ s', Written b t ops s s'
  | [], s, _ => ⟨s, .nil s⟩
  | op :: ops, s, h => by
    obtain ⟨id, ht, hs⟩ := h op List.mem_cons_self
    obtain ⟨s₁, h₁⟩ := apply_of_known (b := b) (t := t) ht hs
    have hknown : ∀ op ∈ ops, ∃ id, op.target? = some id ∧ (s₁.memory? id).isSome := by
      intro op' hop
      obtain ⟨i, hi, hm⟩ := h op' (List.mem_cons_of_mem _ hop)
      obtain ⟨m, hm⟩ := Option.isSome_iff_exists.mp hm
      exact ⟨i, hi, by rw [(apply_ok h₁).memory? hm]; rfl⟩
    obtain ⟨s', h'⟩ := written_of_known hknown
    exact ⟨s', .cons h₁ h'⟩

/-- An entry, a memory and a stamp can be written if the entry and the memory are new and the
owner can have settings. -/
theorem written_closing (e : AuditEntry) (m : Memory) (owner : OwnerId) (time : Instant)
    (he : b = .database → ∀ x ∈ s.trail, x.id ≠ e.id ∧ ¬(x.session = e.session ∧ x.seq = e.seq))
    (hm : s.memory? m.id = none) (ho : b = .database → owner.text ≠ "") :
    ∃ s', Written b t [.appendAudit e, .insertMemory m, .stampRefined owner time] s s' := by
  have h₁ : s.apply b t (.appendAudit e) = .ok { s with trail := s.trail ++ [e.kept b] } := by
    cases b with
    | inMemory => rfl
    | database =>
      have hany : (s.trail.any fun x => x.id == e.id || (x.session == e.session && x.seq == e.seq))
          = false := by
        refine List.any_eq_false.mpr fun x hx => ?_
        obtain ⟨hid, hplace⟩ := he rfl x hx
        simpa [hid] using hplace
      simp only [apply, append, hany]
      rfl
  have h₂ : Store.apply b t { s with trail := s.trail ++ [e.kept b] } (.insertMemory m) =
      .ok { s with memories := s.memories ++ [m], trail := s.trail ++ [e.kept b] } := by
    have hm' : (Store.mk s.memories (s.trail ++ [e.kept b]) s.settings).memory? m.id = none := hm
    simp [apply, insert, hm']
  have h₃ : ∀ s₂ : Store, ∃ s', s₂.apply b t (.stampRefined owner time) = .ok s' := by
    intro s₂
    have hn : ¬(b = .database ∧ owner.text = "") := fun ⟨hb, hn⟩ => ho hb hn
    simp only [apply, configure, if_neg hn]
    split
    · exact ⟨_, rfl⟩
    · exact ⟨_, rfl⟩
  obtain ⟨s', h₃⟩ := h₃ { s with memories := s.memories ++ [m], trail := s.trail ++ [e.kept b] }
  exact ⟨s', .cons h₁ (.cons h₂ (.cons h₃ (.nil s')))⟩

end Store
end Curation
