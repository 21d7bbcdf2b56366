/-
# Stores that look alike

Two stores look alike if nobody who calls on them can tell them apart, but for three things: at
which time a memory was tombstoned, in which order the payload of an entry gives its members and
whether null ones are among them, and in which order memories of one time are listed.

`Store.Alike` says so of what the calls read.  `Store.Abreast` is what is kept from call to call:
the memories and the entries side by side, each like the other, and no live memory of the first with
the time of a tombstone.
-/
import Mathlib.Data.List.Forall2
import Curation.Proofs.Json.Alike
import Curation.Proofs.Store.Batch

namespace Curation

/-! ## 1. Lists side by side -/

section Lists

variable {α β γ : Type} {R : α → β → Prop}

theorem find?_map_of_forall₂ {p : α → Bool} {q : β → Bool} {f : α → γ} {g : β → γ}
    (hp : ∀ a b, R a b → p a = q b) (hf : ∀ a b, R a b → f a = g b) {xs : List α} {ys : List β}
    (h : List.Forall₂ R xs ys) : (xs.find? p).map f = (ys.find? q).map g := by
  induction h with
  | nil => rfl
  | @cons a b xs ys hab _ ih =>
    rw [List.find?_cons, List.find?_cons, hp a b hab]
    cases q b with
    | true => exact congrArg some (hf a b hab)
    | false => exact ih

theorem map_eq_of_forall₂ {f : α → γ} {g : β → γ} (hf : ∀ a b, R a b → f a = g b) {xs : List α}
    {ys : List β} (h : List.Forall₂ R xs ys) : xs.map f = ys.map g := by
  have hmap : List.Forall₂ Eq (xs.map f) (ys.map g) := List.rel_map hf h
  rwa [List.forall₂_eq_eq_eq] at hmap

theorem any_eq_of_forall₂ {p : α → Bool} {q : β → Bool} (hp : ∀ a b, R a b → p a = q b)
    {xs : List α} {ys : List β} (h : List.Forall₂ R xs ys) : xs.any p = ys.any q := by
  simpa using congrArg (List.any · id) (map_eq_of_forall₂ hp h)

theorem filter_forall₂ {p : α → Bool} {q : β → Bool} (hp : ∀ a b, R a b → p a = q b) {xs : List α}
    {ys : List β} (h : List.Forall₂ R xs ys) : List.Forall₂ R (xs.filter p) (ys.filter q) :=
  List.rel_filter (fun _ _ hab => Bool.eq_iff_iff.mp (hp _ _ hab)) h

variable {le : α → α → Bool} {le' : β → β → Bool}

theorem insertBy_forall₂ (hle : ∀ a b c d, R a b → R c d → le a c = le' b d) {x : α} {y : β}
    (hxy : R x y) {xs : List α} {ys : List β} (h : List.Forall₂ R xs ys) :
    List.Forall₂ R (insertBy le x xs) (insertBy le' y ys) := by
  induction h with
  | nil => exact .cons hxy .nil
  | @cons a b xs ys hab hrest ih =>
    rw [insertBy, insertBy, hle x y a b hxy hab]
    split
    · exact .cons hxy (.cons hab hrest)
    · exact .cons hab ih

/-- Lists that are side by side stay so when they are sorted by what their items share. -/
theorem sortBy_forall₂ (hle : ∀ a b c d, R a b → R c d → le a c = le' b d) {xs : List α}
    {ys : List β} (h : List.Forall₂ R xs ys) :
    List.Forall₂ R (sortBy le xs) (sortBy le' ys) := by
  induction h with
  | nil => exact .nil
  | cons hab _ ih => exact insertBy_forall₂ hle hab ih

end Lists

/-! ## 2. Records that look alike -/

/-- A memory without the time of its tombstone, and whether there is one. -/
def Memory.outline (m : Memory) : Memory × Bool :=
  ({ m with tombstonedAt := none }, m.tombstonedAt.isSome)

/-- **The same memory**, but for the time of its tombstone. -/
def Memory.Alike (m n : Memory) : Prop := m.outline = n.outline

/-- **The same listing**: the same memories, each with the older ones in front of it. -/
structure Memory.ListedAlike (xs ys : List Memory) : Prop where
  memories : (xs.map Memory.outline).Perm (ys.map Memory.outline)
  inOrder : xs.Pairwise fun m n => m.createdAt.le n.createdAt = true
  inOrder' : ys.Pairwise fun m n => m.createdAt.le n.createdAt = true

/-- **The same entry**, but for the order of the members of its payload and those that are null. -/
structure AuditEntry.Matches (e f : AuditEntry) : Prop where
  rest : { e with payload := .null } = { f with payload := .null }
  payload : e.payload.Alike f.payload

theorem AuditEntry.matches_kept (e : AuditEntry) : e.Matches (e.kept .database) :=
  ⟨rfl, Json.alike_normal e.payload⟩

/-- **Stores that look alike** to whoever reads them.  The second one may list memories of one time
in any order. -/
structure Store.Alike (σ δ : Store) : Prop where
  memory : ∀ id, (σ.memory? id).map Memory.outline = (δ.memory? id).map Memory.outline
  listing : ∀ owner filter {ns : List Memory}, ns.Perm (δ.list owner filter) →
    ns.Pairwise (fun m n => m.createdAt.le n.createdAt = true) →
    Memory.ListedAlike (σ.list owner filter) ns
  session : ∀ session,
    List.Forall₂ AuditEntry.Matches (σ.forSession session) (δ.forSession session)
  settings : ∀ owner, σ.settingsOf owner = δ.settingsOf owner

/-! ## 3. Listings are in order -/

theorem Instant.le_antisymm {a b : Instant} (h : a.le b = true) (h' : b.le a = true) : a = b := by
  obtain ⟨seconds, nanos⟩ := a
  obtain ⟨seconds', nanos'⟩ := b
  simp only [le, Bool.or_eq_true, Bool.and_eq_true, decide_eq_true_eq] at h h'
  simp only [mk.injEq]
  omega

namespace Store

theorem older_createdAt {m n : Memory} (h : older m n = true) :
    m.createdAt.le n.createdAt = true := by
  unfold older at h
  split at h
  · next he => rw [he]; exact Instant.le_refl _
  · exact h

theorem older_total (m n : Memory) : older m n = true ∨ older n m = true := by
  unfold older
  by_cases he : m.createdAt = n.createdAt
  · rw [if_pos he, if_pos he.symm]
    simpa using String.le_total m.id.text n.id.text
  · rw [if_neg he, if_neg (Ne.symm he)]
    exact Instant.le_total _ _

theorem older_trans (m n k : Memory) (h : older m n = true) (h' : older n k = true) :
    older m k = true := by
  have hle := Instant.le_trans (older_createdAt h) (older_createdAt h')
  unfold older at h h' ⊢
  by_cases he : m.createdAt = n.createdAt
  · rw [if_pos he] at h
    rw [he]
    split at h'
    · next he' =>
      rw [if_pos he']
      simp only [decide_eq_true_eq] at h h' ⊢
      exact String.le_trans h h'
    · next he' => rw [if_neg he']; exact h'
  · rw [if_neg he] at h
    split at h'
    · next he' => rw [← he', if_neg he]; exact h
    · next he' =>
      split
      · next hmk =>
        rw [← hmk] at h'
        exact absurd (Instant.le_antisymm h h') he
      · exact hle

theorem list_inOrder (σ : Store) (owner : OwnerId) (filter : MemoryFilter) :
    (σ.list owner filter).Pairwise fun m n => m.createdAt.le n.createdAt = true :=
  (sortBy_pairwise older_total older_trans _).imp older_createdAt

end Store

/-! ## 4. Stores abreast -/

/-- Two memories side by side: the same, and without the time of a tombstone if they are live. -/
structure Memory.Alongside (m n : Memory) : Prop where
  alike : m.Alike n
  live : m.tombstoned = false → m.tombstonedAt = none

/-- **Stores abreast**: what was done to the one was done to the other, each in its own way. -/
structure Store.Abreast (σ δ : Store) : Prop where
  memories : List.Forall₂ Memory.Alongside σ.memories δ.memories
  trail : List.Forall₂ AuditEntry.Matches σ.trail δ.trail
  settings : σ.settings = δ.settings

namespace Store.Abreast

variable {σ δ : Store}

theorem empty : Store.Abreast .empty .empty := ⟨.nil, .nil, rfl⟩

theorem memory? (h : σ.Abreast δ) (id : MemoryId) :
    (σ.memory? id).map Memory.outline = (δ.memory? id).map Memory.outline :=
  find?_map_of_forall₂ (fun m n hmn => by rw [show m.id = n.id from congrArg (·.1.id) hmn.alike])
    (fun _ _ hmn => hmn.alike) h.memories

theorem isSome_memory? (h : σ.Abreast δ) (id : MemoryId) :
    (δ.memory? id).isSome = (σ.memory? id).isSome := by
  simpa using (congrArg Option.isSome (h.memory? id)).symm

theorem listing (h : σ.Abreast δ) (owner : OwnerId) (filter : MemoryFilter) {ns : List Memory}
    (hns : ns.Perm (δ.list owner filter))
    (hin : ns.Pairwise fun m n => m.createdAt.le n.createdAt = true) :
    Memory.ListedAlike (σ.list owner filter) ns := by
  have hlists : List.Forall₂ Memory.Alongside (σ.list owner filter) (δ.list owner filter) := by
    refine sortBy_forall₂ (fun m n m' n' hmn hmn' => ?_) (filter_forall₂ (fun m n hmn => ?_)
      h.memories)
    · have hat : m.createdAt = n.createdAt := congrArg (·.1.createdAt) hmn.alike
      have hat' : m'.createdAt = n'.createdAt := congrArg (·.1.createdAt) hmn'.alike
      have hid : m.id = n.id := congrArg (·.1.id) hmn.alike
      have hid' : m'.id = n'.id := congrArg (·.1.id) hmn'.alike
      simp only [Store.older, hat, hat', hid, hid']
    · have howner : m.owner = n.owner := congrArg (·.1.owner) hmn.alike
      have hkind : m.kind = n.kind := congrArg (·.1.kind) hmn.alike
      have hdead : m.tombstoned = n.tombstoned := congrArg (·.1.tombstoned) hmn.alike
      simp only [MemoryFilter.shows, howner, hkind, hdead]
  refine ⟨?_, σ.list_inOrder owner filter, hin⟩
  rw [map_eq_of_forall₂ (fun _ _ hmn => Memory.Alongside.alike hmn) hlists]
  exact (hns.map _).symm

theorem session (h : σ.Abreast δ) (session : SessionId) :
    List.Forall₂ AuditEntry.Matches (σ.forSession session) (δ.forSession session) := by
  refine sortBy_forall₂ (fun e f e' f' hef hef' => ?_) (filter_forall₂ (fun e f hef => ?_) h.trail)
  · have hseq : e.seq = f.seq := congrArg (·.seq) hef.rest
    have hseq' : e'.seq = f'.seq := congrArg (·.seq) hef'.rest
    rw [hseq, hseq']
  · rw [show e.session = f.session from congrArg (·.session) hef.rest]

/-- **Stores abreast look alike.** -/
theorem alike (h : σ.Abreast δ) : σ.Alike δ where
  memory := h.memory?
  listing := h.listing
  session := h.session
  settings owner := by unfold Store.settingsOf; rw [h.settings]

end Store.Abreast
end Curation
