/-
# The mass of a store

The mass that the breaker sees is the total of a listing.  That is the sum, over all memories, of
what each weighs for the owner: its tokens if it is a live core memory of the owner, and nothing
otherwise (`total_list`).

In that form it does not depend on any order, and an op changes it by what it changes in the one
memory that it names (`weighs_change`) or adds.
-/
import Curation.Proofs.Store.Restoring

namespace Curation

/-! ## 1. What a memory weighs -/

/-- What a memory weighs for an owner: its tokens, if it is one of the owner's live core
memories. -/
def Memory.weight (meter : TokenMeter) (owner : OwnerId) (m : Memory) : Nat :=
  if m.owner = owner ∧ m.kind = .core ∧ m.tombstoned = false then
    (meter.count m.content).toNat
  else 0

/-- What the memories of a store weigh for an owner. -/
def Store.weighs (meter : TokenMeter) (owner : OwnerId) (σ : Store) : Nat :=
  (σ.memories.map (Memory.weight meter owner)).sum

variable (meter : TokenMeter) (owner : OwnerId) {b : Backend} {t : Instant} {σ σ' : Store}
  {op : WriteOp} {ops : List WriteOp}

/-- **The live core memories of an owner** weigh what the whole store does. -/
theorem Store.total_list (σ : Store) :
    meter.total (σ.list owner (.live .core)) = σ.weighs meter owner := by
  unfold TokenMeter.total Store.list Store.weighs
  rw [(((sortBy_perm _ _).filter _).map _).sum_nat]
  induction σ.memories with
  | nil => rfl
  | cons m ms ih =>
    rw [List.map_cons, List.sum_cons, ← ih]
    by_cases hm : m.owner = owner ∧ m.kind = .core ∧ m.tombstoned = false
    · obtain ⟨ho, hk, hl⟩ := hm
      have hlive : m.isLive = true := by rw [Memory.isLive, hl]; rfl
      have hs : (m.owner == owner && (MemoryFilter.live .core).shows m) = true := by
        simp [MemoryFilter.shows, MemoryFilter.live, ho, hk, hl]
      rw [List.filter_cons, if_pos hs, List.filter_cons, if_pos hlive, List.map_cons,
        List.sum_cons, Memory.weight, if_pos ⟨ho, hk, hl⟩]
    · have hs : ¬(m.owner == owner && (MemoryFilter.live .core).shows m) = true := by
        simp only [MemoryFilter.shows, MemoryFilter.live, Bool.and_eq_true, beq_iff_eq,
          Bool.or_eq_true, Bool.not_eq_true']
        rintro ⟨ho, hl | hl, hk⟩
        · cases hl
        · exact hm ⟨ho, hk.symm, hl⟩
      rw [List.filter_cons, if_neg hs, Memory.weight, if_neg hm, Nat.zero_add]

theorem Memory.weight_of_dead {m : Memory} (h : m.tombstoned = true) :
    m.weight meter owner = 0 := by
  rw [Memory.weight, if_neg]
  rintro ⟨-, -, hl⟩
  rw [h] at hl
  cases hl

theorem Memory.tombstoned_revise (b : Backend) (t : Instant) (m : Memory) :
    (m.revise b t (.setTombstone m.id true)).tombstoned = true := by
  have hf := Memory.aspect_revise b t m (.setTombstone m.id true) .tombstone
  simpa [Memory.aspect, WriteOp.writes?] using hf

/-! ## 2. What ops change -/

namespace Store

/-- **An op that names a memory** changes what that one weighs. -/
theorem weighs_change (h : σ.apply b t op = .ok σ') (hk : σ.Keyed) {m : Memory}
    (hm : σ.memory? m.id = some m) (ht : op.target? = some m.id) :
    σ'.weighs meter owner + m.weight meter owner =
      σ.weighs meter owner + (m.revise b t op).weight meter owner := by
  have ha := apply_ok h
  have hi : op.inserted? = none := by
    cases op <;> first | rfl | cases ht
  obtain ⟨before, after, hms⟩ := List.append_of_mem (List.mem_of_find?_eq_some hm)
  have hd := hk
  unfold Keyed ids at hd
  rw [hms, List.map_append, List.map_cons, List.nodup_middle, ← List.map_append] at hd
  -- no other memory has its id, so none is changed
  have hother : ∀ m' ∈ before ++ after, m'.revise b t op = m' := by
    intro m' hm'
    refine Memory.revise_of_ne b t fun he => (List.nodup_cons.mp hd).1 ?_
    rw [ht] at he
    rw [Option.some.inj he]
    exact List.mem_map_of_mem hm'
  have hsame : (before ++ after).map (Memory.revise b t · op) = before ++ after := by
    rw [List.map_congr_left hother, List.map_id']
  rw [List.map_append] at hsame
  obtain ⟨hbefore, hafter⟩ := List.append_inj hsame (List.length_map _)
  unfold weighs
  rw [ha.memories, hi, hms]
  simp only [List.map_append, List.map_cons, List.sum_append, List.sum_cons, hbefore, hafter,
    Option.toList_none, List.map_nil, List.sum_nil]
  omega

theorem weighs_single (hw : Written b t [op] σ σ') (hk : σ.Keyed) {m : Memory}
    (hm : σ.memory? m.id = some m) (ht : op.target? = some m.id) :
    σ'.weighs meter owner + m.weight meter owner =
      σ.weighs meter owner + (m.revise b t op).weight meter owner := by
  cases hw with
  | cons h hnil =>
    cases hnil
    exact weighs_change meter owner h hk hm ht

/-- An op that names no memory and adds none. -/
theorem weighs_same (h : σ.apply b t op = .ok σ') (ht : op.target? = none)
    (hi : op.inserted? = none) : σ'.weighs meter owner = σ.weighs meter owner := by
  have hms : σ'.memories = σ.memories := by
    rw [(apply_ok h).memories, hi, Option.toList_none, List.append_nil]
    refine List.map_id'' (fun m => Memory.revise_of_ne b t ?_) _
    rw [ht]
    nofun
  rw [weighs, weighs, hms]

theorem weighs_insert {m : Memory} (h : σ.apply b t (.insertMemory m) = .ok σ') :
    σ'.weighs meter owner = σ.weighs meter owner + m.weight meter owner := by
  have hms : σ'.memories = σ.memories ++ [m] := by
    rw [(apply_ok h).memories]
    congr 1
    exact List.map_id'' (fun _ => rfl) _
  rw [weighs, weighs, hms, List.map_append, List.sum_append]
  rfl

/-- An entry weighs nothing. -/
theorem weighs_appended {e : AuditEntry} (hw : Written b t (ops ++ [.appendAudit e]) σ σ') :
    ∃ σ₁, Written b t ops σ σ₁ ∧ σ'.weighs meter owner = σ₁.weighs meter owner := by
  obtain ⟨σ₁, h₁, h₂⟩ := hw.split
  refine ⟨σ₁, h₁, ?_⟩
  cases h₂ with
  | cons h hnil =>
    cases hnil
    exact weighs_same meter owner h rfl rfl

/-- **Deleting some memories** takes away what they weigh. -/
theorem weighs_deleted : ∀ {sources : List Memory} {σ : Store},
    Written b t ((sources.map (·.id)).map (.setTombstone · true)) σ σ' → σ.Keyed →
    (sources.map (·.id)).Nodup → (∀ m ∈ sources, σ.memory? m.id = some m) →
    σ'.weighs meter owner + (sources.map (Memory.weight meter owner)).sum = σ.weighs meter owner
  | [], _, hw, _, _, _ => by
    cases hw
    rfl
  | m :: sources, σ, hw, hk, hd, hms => by
    obtain ⟨hm, hms⟩ := List.forall_mem_cons.mp hms
    obtain ⟨hnot, hd⟩ := List.nodup_cons.mp hd
    cases hw with
    | @cons _ _ _ σ₁ _ h₁ hw =>
      have hchange : σ₁.weighs meter owner + m.weight meter owner =
          σ.weighs meter owner +
            (m.revise b t (.setTombstone m.id true)).weight meter owner :=
        weighs_change meter owner h₁ hk hm rfl
      rw [Memory.weight_of_dead meter owner (Memory.tombstoned_revise b t m)] at hchange
      -- the others are found as they were
      have hms₁ : ∀ m' ∈ sources, σ₁.memory? m'.id = some m' := by
        intro m' hm'
        have hne : m.id ≠ m'.id := fun he => hnot (List.mem_map.mpr ⟨m', hm', he.symm⟩)
        have hsame : m'.revise b t (.setTombstone m.id true) = m' :=
          Memory.revise_of_ne b t fun he => hne (Option.some.inj he)
        rw [(apply_ok h₁).memory? (hms m' hm'), hsame]
      have hk₁ : σ₁.Keyed := (Written.cons h₁ (.nil σ₁)).keyed hk
      have ih := weighs_deleted hw hk₁ hd hms₁
      rw [List.map_cons, List.sum_cons]
      omega

end Store

end Curation
