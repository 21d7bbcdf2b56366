/-
# When the mass overflows

The tokens of one text saturate, but their sum is a word of 64 bits or it is nothing: there is no
mass of memories whose total does not fit.  A configuration that is accepted may have any positive
ratio of characters to a token, so that two memories of one character each can already be too much
(`Config.mass_exact_iff_two`).

What decides is the longest text that is admitted.  There is a mass of so many memories, whatever
their texts, exactly if there is one of as many of the longest; and the usage after a memory was
added is the sum, or it is broken off, exactly if that is past the last word
(`Config.mass_exact_iff`).
-/
import Mathlib.Algebra.Group.Action.Defs
import Mathlib.Algebra.Order.BigOperators.Group.List
import Curation.Proofs.Store.Mass
import Curation.Proofs.Transcript.Budget
import Curation.Proofs.Transcript.Ingest

namespace Curation

open scoped List

/-! ## 1. Totals -/

section Totals

variable {c : Config} {memories : List Memory}

/-- **The most tokens** that an admitted text can have. -/
def Config.mostTokens (c : Config) : Nat := (c.meter.countChars c.session.maxContentChars).toNat

theorem Config.count_le_mostTokens {text : String} (h : c.rules.Admits text) :
    (c.meter.count text).toNat ≤ c.mostTokens :=
  TokenMeter.countChars_mono h.fits

theorem Config.total_le (h : ∀ m ∈ memories, c.rules.Admits m.content) :
    c.meter.total memories ≤ (memories.filter Memory.isLive).length * c.mostTokens := by
  have hmost : ∀ n ∈ (memories.filter Memory.isLive).map fun m => (c.meter.count m.content).toNat,
      n ≤ c.mostTokens := by
    intro n hn
    obtain ⟨m, hm, rfl⟩ := List.mem_map.mp hn
    exact Config.count_le_mostTokens (h m (List.mem_of_mem_filter hm))
  have hsum := List.sum_le_card_nsmul _ _ hmost
  rwa [List.length_map, smul_eq_mul] at hsum

theorem TokenMeter.total_replicate (meter : TokenMeter) {m : Memory} (hlive : m.isLive = true)
    (n : Nat) : meter.total (List.replicate n m) = n * (meter.count m.content).toNat := by
  rw [total, List.filter_replicate_of_pos hlive, List.map_replicate, List.sum_replicate_nat]

/-- **The mass is exact** exactly if the total fits a word. -/
theorem TokenMeter.exact_mass_iff (meter : TokenMeter) :
    (∃ mass, meter.mass memories = some mass ∧ mass.toNat = meter.total memories) ↔
      meter.total memories < 2 ^ 64 := by
  rw [← meter.exists_mass_iff]
  exact exists_congr fun mass => and_iff_left_of_imp meter.mass_eq_some_iff.mp

end Totals

/-! ## 2. Usage -/

/-- A memory that is added is in sight of its owner, among those that were. -/
theorem Store.list_adding_perm (s : Store) {owner : OwnerId} {filter : MemoryFilter} {m : Memory}
    (hshown : (m.owner == owner && filter.shows m) = true) :
    (s.adding [m]).list owner filter ~ m :: s.list owner filter := by
  have hone : [m].filter (fun m => m.owner == owner && filter.shows m) = [m] :=
    List.filter_cons_of_pos hshown
  unfold list
  rw [adding, List.filter_append, hone]
  generalize s.memories.filter _ = shown
  calc sortBy older (shown ++ [m])
    _ ~ shown ++ [m] := sortBy_perm _ _
    _ ~ m :: shown := List.perm_append_singleton _ _
    _ ~ m :: sortBy older shown := (sortBy_perm _ _).symm.cons m

/-- **What an owner holds after a memory was made** is what was held before and that memory. -/
theorem MemoryRules.total_of_create {rules : MemoryRules} {a a' b : Archive} {owner : OwnerId}
    {content : String} {kind : MemoryKind} {m : Memory} {u : UInt64}
    (hcreate : a.answer (rules.create owner content kind) = (.ok m, a'))
    (hbefore : a.answer (rules.usage owner kind) = (.ok u, b)) :
    rules.meter.total (a'.store.list owner (.live kind)) =
      u.toNat + (rules.meter.count content).toNat := by
  obtain ⟨rfl, -, hstore⟩ := MemoryRules.create_ok hcreate
  let m := Memory.fresh ⟨Ident.generated a.drawn⟩ owner content kind a.clock.next
  have hshown : (m.owner == owner && (MemoryFilter.live kind).shows m) = true := by
    simp [m, MemoryFilter.shows, MemoryFilter.live, Memory.fresh]
  have hlive : m.isLive = true := rfl
  have hmass := rules.meter.mass_eq_some_iff.mp (Archive.usage_ok hbefore).2
  rw [hstore, rules.meter.total_perm (a.store.list_adding_perm hshown), TokenMeter.total_cons,
    if_pos hlive, hmass, Nat.add_comm]
  rfl

/-- A measurement whose fault is not due says what the mass is, if there is one. -/
theorem Archive.usage_of_passes {a : Archive} (h : a.faults.passes? .listMemories ≠ some 0)
    (rules : MemoryRules) (owner : OwnerId) (kind : MemoryKind) :
    ∃ b, a.answer (rules.usage owner kind) =
      ((rules.meter.mass (a.store.list owner (.live kind))).elim (.error .sumOverflow) .ok, b) := by
  obtain ⟨f, -, hlist⟩ := Archive.listMemories_of_passes h owner (.live kind)
  refine ⟨{ a with faults := f }, ?_⟩
  unfold MemoryRules.usage
  rw [Archive.answer_bind, hlist]
  dsimp only
  rcases rules.meter.mass (a.store.list owner (.live kind)) with _ | mass <;> rfl

/-! ## 3. Overflow -/

/-- **When the mass is exact.**  Under an accepted configuration, up to `n` live memories have a
mass, and it is the sum of their tokens, whatever admitted texts they have, exactly if `n` times the
most tokens of a text fits a word.  After a new memory the usage of its owner is the sum of the two,
if there is one, and it is broken off exactly if the sum does not fit. -/
theorem Config.mass_exact_iff {c : Config} (hc : c.validate = .ok ()) :
    (∀ n, (∀ memories : List Memory, (memories.filter Memory.isLive).length ≤ n →
        (∀ m ∈ memories, c.rules.validate m.content = .ok ()) →
          ∃ mass, c.meter.mass memories = some mass ∧ mass.toNat = c.meter.total memories) ↔
      n * c.mostTokens < 2 ^ 64) ∧
    (∀ {a a' b : Archive} {owner : OwnerId} {content : String} {kind : MemoryKind} {m : Memory}
      {u : UInt64}, a.answer (c.rules.create owner content kind) = (.ok m, a') →
        a.answer (c.rules.usage owner kind) = (.ok u, b) →
          (∀ u' b', a'.answer (c.rules.usage owner kind) = (.ok u', b') →
            u'.toNat = u.toNat + (c.meter.count content).toNat) ∧
          (a'.faults.passes? .listMemories ≠ some 0 →
            ((∃ b', a'.answer (c.rules.usage owner kind) = (.error .sumOverflow, b')) ↔
              2 ^ 64 ≤ u.toNat + (c.meter.count content).toNat))) := by
  refine ⟨fun n => ⟨fun h => ?_, fun hfits memories hlength hvalid => ?_⟩, ?_⟩
  · -- as many of the longest text
    obtain ⟨hpos, -⟩ := Config.limits_pos hc
    let text := String.ofList (List.replicate c.session.maxContentChars 'x')
    have hadmits : c.rules.Admits text := MemoryRules.admits_replicate hpos le_rfl
    let longest : Memory := .fresh ⟨""⟩ ⟨""⟩ text .core ⟨0, 0⟩
    have hlive : longest.isLive = true := rfl
    have htokens : (c.meter.count longest.content).toNat = c.mostTokens := by
      show (c.meter.countChars text.length).toNat = _
      rw [String.length_ofList, List.length_replicate, Config.mostTokens]
    have hexact := h (List.replicate n longest)
      (by rw [List.filter_replicate_of_pos hlive, List.length_replicate])
      fun m hm => by
        rw [List.eq_of_mem_replicate hm]
        exact MemoryRules.validate_eq_ok_iff.mpr hadmits
    rwa [TokenMeter.exact_mass_iff, TokenMeter.total_replicate _ hlive, htokens] at hexact
  · have htotal := Config.total_le fun m hm => MemoryRules.admits_of_validate (hvalid m hm)
    refine c.meter.exact_mass_iff.mpr ?_
    exact (htotal.trans (Nat.mul_le_mul_right _ hlength)).trans_lt hfits
  · intro a a' b owner content kind m u hcreate hbefore
    have htotal : c.rules.meter.total (a'.store.list owner (.live kind)) =
      u.toNat + (c.meter.count content).toNat := MemoryRules.total_of_create hcreate hbefore
    refine ⟨fun u' b' hafter => ?_, fun hpasses => ?_⟩
    · exact (c.rules.meter.mass_eq_some_iff.mp (Archive.usage_ok hafter).2).trans htotal
    · obtain ⟨b', hafter⟩ := Archive.usage_of_passes hpasses c.rules owner kind
      rw [hafter, ← htotal, ← c.rules.meter.mass_eq_none_iff]
      cases c.rules.meter.mass (a'.store.list owner (.live kind)) <;> simp

/-- Ten to the nineteen tokens a character: one memory has an exact mass, two need not, and the
usage after a second memory of one character is broken off. -/
theorem Config.mass_exact_iff_two :
    let c : Config := { Config.standard with
      tokens := { Config.standard.tokens with charsPerToken := .ofRatio false 1 (10 ^ 19) } }
    let a : Archive := .around .inMemory
      ⟨[.fresh ⟨"m"⟩ ⟨"o"⟩ "x" .core ⟨0, 0⟩], [], []⟩ (.steady ⟨1, 0⟩) 0
    c.validate = .ok () ∧
    (∀ memories : List Memory, (memories.filter Memory.isLive).length ≤ 1 →
      (∀ m ∈ memories, c.rules.validate m.content = .ok ()) →
        ∃ mass, c.meter.mass memories = some mass ∧ mass.toNat = c.meter.total memories) ∧
    ¬ (∀ memories : List Memory, (memories.filter Memory.isLive).length ≤ 2 →
      (∀ m ∈ memories, c.rules.validate m.content = .ok ()) →
        ∃ mass, c.meter.mass memories = some mass ∧ mass.toNat = c.meter.total memories) ∧
    ∃ m a' b', a.answer (c.rules.create ⟨"o"⟩ "y" .core) = (.ok m, a') ∧
      a.answer (c.rules.usage ⟨"o"⟩ .core) = (.ok 10000000000000000000, a) ∧
      a'.answer (c.rules.usage ⟨"o"⟩ .core) = (.error .sumOverflow, b') := by
  intro c a
  have hc : c.validate = .ok () := by decide +kernel
  obtain ⟨hexact, hafter⟩ := Config.mass_exact_iff hc
  let m : Memory := .fresh ⟨Ident.generated a.drawn⟩ ⟨"o"⟩ "y" .core a.clock.next
  let a' : Archive :=
    { a with drawn := a.drawn + 1, clock := a.clock.advance, store := a.store.adding [m] }
  have hadmits : c.rules.Admits "y" := by decide
  have hfree : a.store.memory? ⟨Ident.generated a.drawn⟩ = none := by decide +kernel
  have hcreate : a.answer (c.rules.create ⟨"o"⟩ "y" .core) = (.ok m, a') :=
    @MemoryRules.create_of_open c.rules ⟨"o"⟩ a "y" .core hadmits rfl hfree
  have hu : c.rules.meter.mass (a.store.list ⟨"o"⟩ (.live .core)) =
      some 10000000000000000000 := by decide +kernel
  have hbefore := Archive.usage_of_open (a := a) rfl c.rules ⟨"o"⟩ .core
  rw [hu] at hbefore
  have hover : 2 ^ 64 ≤ (10000000000000000000 : UInt64).toNat + (c.meter.count "y").toNat := by
    decide +kernel
  obtain ⟨b', hbroken⟩ := ((hafter hcreate hbefore).2 nofun).mpr hover
  refine ⟨hc, (hexact 1).mpr (by decide +kernel), fun h => ?_, m, a', b', hcreate, hbefore,
    hbroken⟩
  exact absurd ((hexact 2).mp h) (by decide +kernel)

/-- The standard limits leave room for more memories than will ever be kept. -/
example : 10 ^ 15 * Config.standard.mostTokens < 2 ^ 64 := by decide +kernel

end Curation
