/-
# Ops that lead back

A list of ops UNDOES what happened between two stores if it leads from the later one back to the
earlier one.  This module says what that means and proves the one fact from which every rollback
follows: undoing composes (`Undoes.trans`).  If `inv` undoes the last change and `ops` undo all
those before it, then `inv ++ ops` undo the whole.

The difficulty is that ops of different changes may name the same memory.  What a list of ops
leaves in one aspect of a memory is its LAST write to it (`lastWrite`), and in a list that undoes
a history the last write belongs to the first change, whose value is the original one.  An
aspect that no op writes was never changed.  So one equation, `Leads.aspect`, covers both.

The time of a tombstone is not among the aspects: it is lost when a memory is deleted and comes
back, and it need not be kept for a memory that is live.  A memory that was deleted before is
not touched at all (`Leads.dead`).
-/
import Curation.Proofs.Store.Batch

namespace Curation

/-! ## 1. Aspects -/

/-- What may be changed of a memory. -/
inductive Aspect where
  | content
  | tombstone
  | protection
  deriving DecidableEq

/-- What an aspect may be. -/
inductive Aspect.Value where
  | text (content : String)
  | flag (value : Bool)
  deriving DecidableEq

/-- An aspect of a memory. -/
def Memory.aspect (m : Memory) : Aspect → Aspect.Value
  | .content => .text m.content
  | .tombstone => .flag m.tombstoned
  | .protection => .flag m.constitutional

/-- What can never be changed of a memory. -/
def Memory.origin (m : Memory) : MemoryId × OwnerId × MemoryKind × Instant :=
  (m.id, m.owner, m.kind, m.createdAt)

/-- A live memory carries no time of a tombstone. -/
def Memory.Tidy (m : Memory) : Prop := m.tombstoned = false → m.tombstonedAt = none

/-- **A memory is as it was**: its record, and the time of its tombstone too if it was tidy. -/
structure Memory.Restored (m m₀ : Memory) : Prop where
  record : m = { m₀ with tombstonedAt := m.tombstonedAt }
  tidy : m₀.Tidy → m = m₀

/-- What an op writes to an aspect of the memory of an id. -/
def WriteOp.writes? (id : MemoryId) (f : Aspect) : WriteOp → Option Aspect.Value
  | .setContent i c => if i = id ∧ f = .content then some (.text c) else none
  | .setTombstone i v => if i = id ∧ f = .tombstone then some (.flag v) else none
  | .setConstitutional i v => if i = id ∧ f = .protection then some (.flag v) else none
  | .insertMemory _ | .appendAudit _ | .stampRefined _ _ => none

/-- The last write of some ops to an aspect of a memory. -/
def lastWrite (id : MemoryId) (f : Aspect) (ops : List WriteOp) : Option Aspect.Value :=
  (ops.filterMap (WriteOp.writes? id f)).getLast?

@[simp] theorem lastWrite_nil (id : MemoryId) (f : Aspect) : lastWrite id f [] = none := rfl

theorem lastWrite_append (id : MemoryId) (f : Aspect) (ops ops' : List WriteOp) :
    lastWrite id f (ops ++ ops') = (lastWrite id f ops').or (lastWrite id f ops) := by
  simp [lastWrite, List.getLast?_append]

theorem lastWrite_cons (id : MemoryId) (f : Aspect) (op : WriteOp) (ops : List WriteOp) :
    lastWrite id f (op :: ops) = (lastWrite id f ops).or (op.writes? id f) := by
  rw [← List.singleton_append, lastWrite_append]
  cases h : op.writes? id f <;> simp [lastWrite, h]

/-- Ops that do not name a memory write nothing to it. -/
theorem lastWrite_of_ne {id : MemoryId} {f : Aspect} : ∀ {ops : List WriteOp},
    (∀ op ∈ ops, op.target? ≠ some id) → lastWrite id f ops = none
  | [], _ => rfl
  | op :: ops, h => by
    have hop : op.writes? id f = none := by
      have := h op List.mem_cons_self
      cases op <;> simp_all [WriteOp.target?, WriteOp.writes?]
    rw [lastWrite_cons, hop, lastWrite_of_ne fun op' ho => h op' (List.mem_cons_of_mem _ ho)]
    rfl

/-- Setting the tombstones of some memories. -/
theorem lastWrite_setTombstones (id : MemoryId) (f : Aspect) (value : Bool) :
    ∀ ids : List MemoryId, lastWrite id f (ids.map (.setTombstone · value)) =
      if id ∈ ids ∧ f = .tombstone then some (.flag value) else none
  | [] => by simp
  | i :: ids => by
    rw [List.map_cons, lastWrite_cons, lastWrite_setTombstones id f value ids]
    by_cases hf : f = .tombstone
    · by_cases hi : i = id <;> by_cases hm : id ∈ ids <;>
        simp [WriteOp.writes?, hf, hi, hm, Ne.symm]
    · simp [WriteOp.writes?, hf]

namespace Memory

variable (b : Backend) (t : Instant)

theorem aspect_setTombstone (m : Memory) (value : Bool) (f : Aspect) :
    (m.setTombstone b t value).aspect f =
      if f = .tombstone then .flag value else m.aspect f := by
  unfold setTombstone
  split
  · next h => split <;> cases f <;> simp [aspect, h]
  · cases f <;> simp [aspect]

theorem aspect_revise (m : Memory) (op : WriteOp) (f : Aspect) :
    (m.revise b t op).aspect f = (op.writes? m.id f).getD (m.aspect f) := by
  cases op with
  | setTombstone id value =>
    by_cases h : m.id = id
    · by_cases hf : f = .tombstone <;> simp [revise, WriteOp.writes?, h, hf, aspect_setTombstone]
    · simp [revise, WriteOp.writes?, h, Ne.symm h]
  | setContent id content =>
    by_cases h : m.id = id
    · cases f <;> simp [revise, WriteOp.writes?, h, aspect]
    · simp [revise, WriteOp.writes?, h, Ne.symm h]
  | setConstitutional id value =>
    by_cases h : m.id = id
    · cases f <;> simp [revise, WriteOp.writes?, h, aspect]
    · simp [revise, WriteOp.writes?, h, Ne.symm h]
  | insertMemory _ | appendAudit _ | stampRefined _ _ => rfl

/-- **The last write counts.** -/
theorem aspect_revised (f : Aspect) : ∀ (ops : List WriteOp) (m : Memory),
    (m.revised b t ops).aspect f = (lastWrite m.id f ops).getD (m.aspect f)
  | [], _ => rfl
  | op :: ops, m => by
    have ih := aspect_revised f ops (m.revise b t op)
    rw [revise_id, aspect_revise] at ih
    rw [lastWrite_cons]
    refine ih.trans ?_
    cases lastWrite m.id f ops <;> rfl

theorem origin_revise (m : Memory) (op : WriteOp) : (m.revise b t op).origin = m.origin := by
  cases op <;> simp only [revise, setTombstone] <;> (repeat' split) <;> rfl

theorem origin_revised : ∀ (ops : List WriteOp) (m : Memory),
    (m.revised b t ops).origin = m.origin
  | [], _ => rfl
  | op :: ops, m => (origin_revised ops _).trans (origin_revise b t m op)

theorem Tidy.revise {m : Memory} (h : m.Tidy) (op : WriteOp) : (m.revise b t op).Tidy := by
  cases op with
  | setTombstone id value =>
    simp only [Memory.revise, setTombstone]
    (repeat' split) <;> simp_all [Tidy]
  | setContent id content =>
    simp only [Memory.revise]
    split <;> exact h
  | setConstitutional id value =>
    simp only [Memory.revise]
    split <;> exact h
  | insertMemory _ | appendAudit _ | stampRefined _ _ => exact h

theorem Tidy.revised : ∀ (ops : List WriteOp) {m : Memory}, m.Tidy → (m.revised b t ops).Tidy
  | [], _, h => h
  | op :: ops, _, h => Tidy.revised ops (h.revise b t op)

/-- A memory is its origin, its aspects and the time of its tombstone. -/
theorem eq_of_origin_of_aspect {m m' : Memory} (ho : m.origin = m'.origin)
    (ha : ∀ f, m.aspect f = m'.aspect f) (ht : m.tombstonedAt = m'.tombstonedAt) : m = m' := by
  have hc := ha .content
  have hd := ha .tombstone
  have hp := ha .protection
  cases m
  cases m'
  simp only [origin, aspect, Prod.mk.injEq, Aspect.Value.text.injEq, Aspect.Value.flag.injEq] at *
  grind

end Memory

/-! ## 2. Leading one memory back -/

/-- `ops` lead from the memory `m` back to the memory `m₀` that it was. -/
structure Leads (ops : List WriteOp) (m m₀ : Memory) : Prop where
  origin : m.origin = m₀.origin
  /-- What is written last is what was there first; what is never written was never changed. -/
  aspect : ∀ f, (lastWrite m₀.id f ops).getD (m.aspect f) = m₀.aspect f
  /-- A memory that was deleted has not been touched, and will not be. -/
  dead : m₀.tombstoned = true → m = m₀ ∧ ∀ op ∈ ops, op.target? ≠ some m₀.id
  tidy : m₀.Tidy → m.Tidy

namespace Leads

variable {ops inv : List WriteOp} {m m' m₀ : Memory}

theorem refl (m : Memory) : Leads [] m m :=
  ⟨rfl, fun _ => rfl, fun _ => ⟨rfl, nofun⟩, id⟩

theorem id_eq (h : Leads ops m m₀) : m.id = m₀.id := congrArg Prod.fst h.origin

/-- A memory that the ops do not name and that has not been changed. -/
theorem of_ne (h : ∀ op ∈ ops, op.target? ≠ some m.id) : Leads ops m m :=
  ⟨rfl, fun f => by rw [lastWrite_of_ne h]; rfl, fun _ => ⟨rfl, h⟩, id⟩

/-- A live memory is led back by ops whose last writes, after those of the change, are what was
there. -/
theorem of_live {b : Backend} {t : Instant} (hl : m.tombstoned = false)
    (h : ∀ f, (lastWrite m.id f inv).getD ((lastWrite m.id f ops).getD (m.aspect f)) = m.aspect f) :
    Leads inv (m.revised b t ops) m := by
  refine ⟨Memory.origin_revised b t ops m, fun f => ?_, fun hd => ?_, Memory.Tidy.revised b t ops⟩
  · rw [Memory.aspect_revised]
    exact h f
  · rw [hl] at hd
    cases hd

/-- **Undoing composes.**  Where the earlier ops write, they win, and they write what was there
first; where they do not, the aspect is as the later ops leave it. -/
theorem trans (h : Leads ops m m₀) (h' : Leads inv m' m) : Leads (inv ++ ops) m' m₀ := by
  refine ⟨h'.origin.trans h.origin, fun f => ?_, fun hd => ?_, fun ht => h'.tidy (h.tidy ht)⟩
  · have ha := h.aspect f
    have ha' := h'.aspect f
    rw [h.id_eq] at ha'
    rw [lastWrite_append]
    cases hw : lastWrite m₀.id f ops with
    | some v =>
      rw [hw] at ha
      exact ha
    | none =>
      rw [hw] at ha
      exact ha'.trans ha
  · obtain ⟨rfl, hops⟩ := h.dead hd
    obtain ⟨rfl, hinv⟩ := h'.dead hd
    refine ⟨rfl, fun op hop => ?_⟩
    rcases List.mem_append.mp hop with hi | ho
    · exact hinv op hi
    · exact hops op ho

/-- **Applying the ops** gives the memory that was. -/
theorem restored (h : Leads ops m m₀) (b : Backend) (t : Instant) :
    (m.revised b t ops).Restored m₀ := by
  have ho : (m.revised b t ops).origin = m₀.origin :=
    (Memory.origin_revised b t ops m).trans h.origin
  have ha : ∀ f, (m.revised b t ops).aspect f = m₀.aspect f := fun f => by
    rw [Memory.aspect_revised, h.id_eq]
    exact h.aspect f
  refine ⟨Memory.eq_of_origin_of_aspect ho ha rfl, fun ht => ?_⟩
  cases hd : m₀.tombstoned with
  | true =>
    obtain ⟨rfl, hops⟩ := h.dead hd
    exact Memory.revised_of_ne b t hops
  | false =>
    have hl : (m.revised b t ops).tombstoned = false := by
      have := ha .tombstone
      simpa [Memory.aspect, hd] using this
    refine Memory.eq_of_origin_of_aspect ho ha ?_
    rw [ht hd, Memory.Tidy.revised b t ops (h.tidy ht) hl]

end Leads

/-! ## 3. Leading a store back -/

/-- **`ops` undo what happened between `s₀` and `s`.** -/
structure Undoes (ops : List WriteOp) (s s₀ : Store) : Prop where
  /-- Each memory that was there is led back. -/
  there : ∀ id m₀, s₀.memory? id = some m₀ → ∃ m, s.memory? id = some m ∧ Leads ops m m₀
  /-- Each memory that has come since is deleted. -/
  made : ∀ id m, s₀.memory? id = none → s.memory? id = some m →
    lastWrite id .tombstone ops = some (.flag true)
  /-- The ops name memories that are there, and do nothing else. -/
  known : ∀ op ∈ ops, ∃ id, op.target? = some id ∧ (s.memory? id).isSome

namespace Undoes

variable {ops inv : List WriteOp} {s s' s₀ : Store}

theorem refl (s : Store) : Undoes [] s s :=
  ⟨fun _ m h => ⟨m, h, .refl m⟩, fun _ _ hn hm => (nomatch hn.symm.trans hm), nofun⟩

/-- **Undoing composes.** -/
theorem trans (h : Undoes ops s s₀) (h' : Undoes inv s' s) : Undoes (inv ++ ops) s' s₀ := by
  refine ⟨fun id m₀ hm₀ => ?_, fun id m hn hm => ?_, fun op hop => ?_⟩
  · obtain ⟨m, hm, hl⟩ := h.there id m₀ hm₀
    obtain ⟨m', hm', hl'⟩ := h'.there id m hm
    exact ⟨m', hm', hl.trans hl'⟩
  · rw [lastWrite_append]
    rcases hs : s.memory? id with _ | m₁
    · -- the memory came with the last change, so no earlier op can name it
      have hops : lastWrite id .tombstone ops = none := by
        refine lastWrite_of_ne fun op hop ht => ?_
        obtain ⟨i, hi, hk⟩ := h.known op hop
        rw [hi] at ht
        cases ht
        rw [hs] at hk
        cases hk
      rw [hops, h'.made id m hs hm]
      rfl
    · rw [h.made id m₁ hn hs]
      rfl
  · rcases List.mem_append.mp hop with hi | ho
    · exact h'.known op hi
    · obtain ⟨id, hid, hk⟩ := h.known op ho
      obtain ⟨m, hm⟩ := Option.isSome_iff_exists.mp hk
      obtain ⟨m', hm', -⟩ := h'.there id m hm
      exact ⟨id, hid, by rw [hm']; rfl⟩

/-- What a batch did is undone by ops that lead back each memory that was there, delete each
memory that it inserted, and name no other. -/
theorem of_written {b : Backend} {t : Instant} (h : Store.Written b t ops s s')
    (hl : ∀ id m, s.memory? id = some m → Leads inv (m.revised b t ops) m)
    (hm : ∀ m, .insertMemory m ∈ ops → lastWrite m.id .tombstone inv = some (.flag true))
    (hk : ∀ op ∈ inv, ∃ id, op.target? = some id ∧
      ((s.memory? id).isSome ∨ ∃ m, .insertMemory m ∈ ops ∧ m.id = id)) :
    Undoes inv s' s := by
  refine ⟨fun id m hs => ⟨_, h.memory? hs, hl id m hs⟩, fun id m hn hs => ?_, fun op hop => ?_⟩
  · obtain ⟨m₀, ops', hm₀, rfl⟩ := h.mem_of_new hn hs
    rw [← Store.memory?_id hs, Memory.revised_id]
    exact hm m₀ hm₀
  · obtain ⟨id, hid, hs | ⟨m, hm', rfl⟩⟩ := hk op hop
    · obtain ⟨m, hm'⟩ := Option.isSome_iff_exists.mp hs
      exact ⟨id, hid, by rw [h.memory? hm']; rfl⟩
    · exact ⟨m.id, hid, (h.inserted hm').2⟩

/-! ### Applying the ops -/

section Written

variable {b : Backend} {t : Instant} {tail : List WriteOp}

theorem revised_tail (htail : ∀ op ∈ tail, op.target? = none) (m : Memory) :
    m.revised b t (ops ++ tail) = m.revised b t ops := by
  rw [Memory.revised_append]
  exact Memory.revised_of_ne b t fun op hop => by rw [htail op hop]; exact nofun

/-- **The memories that were there are as they were**, whatever else the batch does besides
naming memories. -/
theorem restores (h : Undoes ops s s₀) (hw : Store.Written b t (ops ++ tail) s s')
    (htail : ∀ op ∈ tail, op.target? = none) {id : MemoryId} {m₀ : Memory}
    (hm₀ : s₀.memory? id = some m₀) :
    ∃ m, s'.memory? id = some m ∧ m.Restored m₀ := by
  obtain ⟨m, hm, hl⟩ := h.there id m₀ hm₀
  have hr := hl.restored b t
  rw [← revised_tail (b := b) (t := t) htail] at hr
  exact ⟨_, hw.memory? hm, hr⟩

/-- **The memories that have come since are deleted.** -/
theorem deletes (h : Undoes ops s s₀) (hw : Store.Written b t (ops ++ tail) s s')
    (htail : ∀ op ∈ tail, op.target? = none) {id : MemoryId} {m : Memory}
    (hn : s₀.memory? id = none) (hm : s.memory? id = some m) :
    ∃ m', s'.memory? id = some m' ∧ m'.tombstoned = true := by
  refine ⟨_, hw.memory? hm, ?_⟩
  rw [revised_tail htail]
  have ha := Memory.aspect_revised b t .tombstone ops m
  rw [Store.memory?_id hm, h.made id m hn hm] at ha
  simpa [Memory.aspect] using ha

end Written

end Undoes
end Curation
