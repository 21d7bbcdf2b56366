/-
# Search finds the best matches

A search ranks twice.  The store lists memories by age and, at one time, by id; the search then
sorts what matches by the number of words found and by youth.  The second order does not look at ids
at all, but it is stable: memories that it does not tell apart keep the order of the listing, and
that is the order of their ids (`sortBy_stable`).

Ids are distinct, so the two orders together are strict, and a list in a strict order is given by
its members alone.  Hence the answer does not depend on how the store keeps its memories, nor on the
order and the repetitions of the words of the query (`search_best`).
-/
import Mathlib.Data.Finset.Card
import Curation.Proofs.Calls
import Curation.Proofs.Store.Alike

namespace Curation

/-! ## 1. Words that are found -/

theorem occursIn_iff {part : List Char} : ∀ {text : List Char},
    occursIn part text = true ↔ part <:+: text
  | [] => by rw [occursIn, List.isEmpty_iff, List.infix_nil]
  | c :: cs => by
    rw [occursIn, Bool.or_eq_true, List.isPrefixOf_iff_prefix, occursIn_iff, List.infix_cons_iff]

/-- What a query looks for: its words in lower case. -/
def sought (query : String) : Finset (List Char) := ((words query).map lowerCase).toFinset

/-- Which of some words a memory contains, whatever its case. -/
def Memory.holds (m : Memory) (terms : Finset (List Char)) : Finset (List Char) :=
  terms.filter (· <:+: lowerCase m.content.toList)

theorem mem_queryTerms {query : String} {term : List Char} :
    term ∈ queryTerms query ↔ term ∈ sought query := by
  rw [queryTerms, mem_distinct, sought, List.mem_toFinset]

theorem queryTerms_isEmpty {query : String} :
    (queryTerms query).isEmpty = true ↔ sought query = ∅ := by
  rw [List.isEmpty_iff, List.eq_nil_iff_forall_not_mem, Finset.eq_empty_iff_forall_notMem]
  exact forall_congr' fun _ => not_congr mem_queryTerms

/-- **The score of a memory** is the number of distinct words that it contains. -/
theorem matchCount_queryTerms (query : String) (m : Memory) :
    matchCount (queryTerms query) m.content = (m.holds (sought query)).card := by
  have hset : ((queryTerms query).filter (occursIn · (lowerCase m.content.toList))).toFinset =
      m.holds (sought query) := by
    ext term
    rw [List.mem_toFinset, List.mem_filter, Memory.holds, Finset.mem_filter, mem_queryTerms,
      occursIn_iff]
  have hdistinct : ((queryTerms query).filter (occursIn · (lowerCase m.content.toList))).Nodup :=
    (nodup_distinct _).filter _
  rw [← hset, List.toFinset_card_of_nodup hdistinct, matchCount, List.countP_eq_length_filter]

/-! ## 2. What ranks before what -/

/-- **The order of the answer**: the memory with more of the words comes first, then the newer one,
and of two that are as old as each other the one whose id is smaller. -/
def Memory.Outranks (terms : Finset (List Char)) (m n : Memory) : Prop :=
  (n.holds terms).card < (m.holds terms).card ∨
    (m.holds terms).card = (n.holds terms).card ∧
      (m.createdAt.le n.createdAt = false ∨
        m.createdAt = n.createdAt ∧ m.id.text < n.id.text)

theorem Memory.Outranks.ne {terms : Finset (List Char)} {m n : Memory} (h : m.Outranks terms n) :
    m ≠ n := by
  rintro rfl
  obtain h | ⟨-, h | ⟨-, h⟩⟩ := h
  · exact lt_irrefl _ h
  · rw [Instant.le_refl] at h
    cases h
  · exact String.lt_irrefl _ h

theorem Memory.Outranks.asymm {terms : Finset (List Char)} {m n : Memory}
    (h : m.Outranks terms n) : ¬ n.Outranks terms m := by
  intro h'
  obtain h | ⟨hsame, h⟩ := h <;> obtain h' | ⟨hsame', h'⟩ := h'
  · exact lt_asymm h h'
  · exact h.ne hsame'
  · exact h'.ne hsame
  · obtain h | ⟨hat, hid⟩ := h <;> obtain h' | ⟨hat', hid'⟩ := h'
    · have hage := Instant.le_total m.createdAt n.createdAt
      rw [h, h'] at hage
      exact hage.elim nofun nofun
    · rw [hat', Instant.le_refl] at h
      cases h
    · rw [hat, Instant.le_refl] at h'
      cases h'
    · exact String.lt_asymm hid hid'

theorem ranksBefore_total (p q : Nat × Memory) :
    ranksBefore p q = true ∨ ranksBefore q p = true := by
  have hage := Instant.le_total q.2.createdAt p.2.createdAt
  simp only [ranksBefore, Bool.or_eq_true, Bool.and_eq_true, decide_eq_true_eq]
  rcases lt_trichotomy p.1 q.1 with h | h | h
  · exact .inr (.inl h)
  · exact hage.imp (fun hle => .inr ⟨h, hle⟩) (fun hle => .inr ⟨h.symm, hle⟩)
  · exact .inl (.inl h)

theorem ranksBefore_trans (p q r : Nat × Memory) (h : ranksBefore p q = true)
    (h' : ranksBefore q r = true) : ranksBefore p r = true := by
  simp only [ranksBefore, Bool.or_eq_true, Bool.and_eq_true, decide_eq_true_eq] at *
  obtain h | ⟨h, hage⟩ := h <;> obtain h' | ⟨h', hage'⟩ := h'
  · exact .inl (h'.trans h)
  · exact .inl (h'.symm.trans_lt h)
  · exact .inl (h'.trans_eq h.symm)
  · exact .inr ⟨h.trans h', Instant.le_trans hage' hage⟩

/-- Memories of different ids, the one listed before the other. -/
def Memory.Precedes (m n : Memory) : Prop :=
  Store.older m n = true ∧ m.id ≠ n.id

/-- **A stable sort by rank of what was listed by age** gives the order of the answer. -/
theorem Memory.outranks_of_ranksBefore {terms : Finset (List Char)} {m n : Memory}
    (hrank : ranksBefore ((m.holds terms).card, m) ((n.holds terms).card, n) = true)
    (htie : ranksBefore ((n.holds terms).card, n) ((m.holds terms).card, m) = true →
      m.Precedes n) : m.Outranks terms n := by
  simp only [ranksBefore, Bool.or_eq_true, Bool.and_eq_true, decide_eq_true_eq] at hrank htie
  obtain hmore | ⟨hsame, hyoung⟩ := hrank
  · exact .inl hmore
  · refine .inr ⟨hsame, ?_⟩
    by_cases hle : m.createdAt.le n.createdAt = true
    · -- nothing tells them apart but their ids
      have hat : m.createdAt = n.createdAt := Instant.le_antisymm hle hyoung
      obtain ⟨holder, hid⟩ := htie (.inr ⟨hsame.symm, hle⟩)
      rw [Store.older, if_pos hat, decide_eq_true_iff] at holder
      refine .inr ⟨hat, String.not_le.mp fun hge => hid ?_⟩
      exact congrArg MemoryId.mk (String.le_antisymm holder hge)
    · exact .inl (Bool.eq_false_iff.mpr hle)

/-! ## 3. The ranking -/

/-- **The ranking** of some memories: those that contain one of the words, in order. -/
def ranking (terms : Finset (List Char)) (memories : List Memory) : List Memory :=
  (sortBy ranksBefore ((memories.map fun m => ((m.holds terms).card, m)).filter
    fun p => 0 < p.1)).map (·.2)

theorem bestMatches_queryTerms (query : String) (limit : Nat) (memories : List Memory) :
    bestMatches (queryTerms query) limit memories =
      (ranking (sought query) memories).take limit := by
  rw [bestMatches, ranking, List.map_take]
  simp only [matchCount_queryTerms]

section Ranking

variable {terms : Finset (List Char)} {memories : List Memory}

theorem mem_ranking {m : Memory} :
    m ∈ ranking terms memories ↔ m ∈ memories ∧ (m.holds terms).Nonempty := by
  simp only [ranking, List.mem_map, mem_sortBy, List.mem_filter, decide_eq_true_eq]
  constructor
  · rintro ⟨p, ⟨⟨m, hm, rfl⟩, hpos⟩, rfl⟩
    exact ⟨hm, Finset.card_pos.mp hpos⟩
  · rintro ⟨hm, hsome⟩
    exact ⟨_, ⟨⟨m, hm, rfl⟩, Finset.card_pos.mpr hsome⟩, rfl⟩

theorem ranking_pairwise (h : memories.Pairwise Memory.Precedes) :
    (ranking terms memories).Pairwise (Memory.Outranks terms) := by
  have hscored : (memories.map fun m => ((m.holds terms).card, m)).Pairwise
      fun p q => p.2.Precedes q.2 :=
    List.pairwise_map.mpr h
  have hsorted := sortBy_stable ranksBefore_total ranksBefore_trans
    (hscored.filter fun p => 0 < p.1)
  have hscore : ∀ p ∈ sortBy ranksBefore ((memories.map fun m => ((m.holds terms).card, m)).filter
      fun p => 0 < p.1), p = ((p.2.holds terms).card, p.2) := by
    intro p hp
    obtain ⟨m, -, rfl⟩ := List.mem_map.mp (List.mem_filter.mp (mem_sortBy.mp hp)).1
    rfl
  rw [ranking, List.pairwise_map]
  refine hsorted.imp_of_mem fun {p q} hp hq hpq => ?_
  rw [hscore p hp, hscore q hq] at hpq
  exact Memory.outranks_of_ranksBefore hpq.1 hpq.2

/-- **A ranking is given by the memories alone**, in whatever order they were listed. -/
theorem ranking_congr {memories' : List Memory} (h : memories.Pairwise Memory.Precedes)
    (h' : memories'.Pairwise Memory.Precedes) (hmem : ∀ m, m ∈ memories ↔ m ∈ memories') :
    ranking terms memories = ranking terms memories' := by
  have hranked : (ranking terms memories).Pairwise (Memory.Outranks terms) := ranking_pairwise h
  have hranked' : (ranking terms memories').Pairwise (Memory.Outranks terms) :=
    ranking_pairwise h'
  have hperm : (ranking terms memories).Perm (ranking terms memories') := by
    refine (List.perm_ext_iff_of_nodup (hranked.imp Memory.Outranks.ne)
      (hranked'.imp Memory.Outranks.ne)).mpr fun m => ?_
    rw [mem_ranking, mem_ranking, hmem]
  exact hperm.eq_of_pairwise (fun _ _ _ _ hmn hnm => absurd hnm hmn.asymm) hranked hranked'

end Ranking

/-- **A listing** shows each memory once, and the older one first. -/
theorem Store.list_precedes {s : Store} (hk : s.Keyed) (owner : OwnerId) (filter : MemoryFilter) :
    (s.list owner filter).Pairwise Memory.Precedes := by
  have hids : (s.list owner filter).Pairwise fun m n => m.id ≠ n.id :=
    ((sortBy_perm _ _).pairwise_iff fun h => Ne.symm h).mpr ((List.pairwise_map.mp hk).filter _)
  exact (sortBy_pairwise older_total older_trans _).and hids

theorem Store.mem_list_liveAll {s : Store} {owner : OwnerId} {m : Memory} :
    m ∈ s.list owner .liveAll ↔ m ∈ s.memories ∧ m.owner = owner ∧ m.tombstoned = false := by
  simp [Store.list, MemoryFilter.shows, MemoryFilter.liveAll]

/-! ## 4. Searching -/

namespace Archive

theorem search_of_open {a : Archive} (h : a.faults.passes? .listMemories = none) (owner : OwnerId)
    {query : String} (hwords : words query ≠ []) (limit : Nat) :
    a.answer (search owner query limit) =
      (.ok ((ranking (sought query) (a.store.list owner .liveAll)).take limit), a) := by
  have hterms : ¬ (queryTerms query).isEmpty = true := by
    rw [queryTerms_isEmpty, sought]
    simpa using hwords
  unfold search
  dsimp only
  rw [if_neg hterms, answer_bind, listMemories_of_open h]
  dsimp only
  rw [bestMatches_queryTerms]
  rfl

/-- **Search returns exactly the best matches.**  The owner's live memories that contain at least
one of the words stand in one ranking, and the answer is the beginning of it.  So the hits are
distinct, whatever was left out ranks behind all of them, and a query with the same words gets the
same answer, also from a store that keeps the same memories in another order. -/
theorem search_best {a : Archive} (hopen : a.faults.passes? .listMemories = none)
    (hkeyed : a.store.Keyed) (owner : OwnerId) {query : String} (hwords : words query ≠ [])
    (limit : Nat) :
    ∃ ranked : List Memory,
      (∀ m, m ∈ ranked ↔ m ∈ a.store.memories ∧ m.owner = owner ∧ m.tombstoned = false ∧
        (m.holds (sought query)).Nonempty) ∧
      ranked.Pairwise (Memory.Outranks (sought query)) ∧
      a.answer (search owner query limit) = (.ok (ranked.take limit), a) ∧
      (ranked.take limit).Nodup ∧
      (∀ m ∈ ranked, m ∉ ranked.take limit →
        ∀ hit ∈ ranked.take limit, hit.Outranks (sought query) m) ∧
      (∀ (other : String) (b : Archive), sought other = sought query →
        b.faults.passes? .listMemories = none → b.store.Keyed →
        (∀ m, m ∈ a.store.memories ↔ m ∈ b.store.memories) →
          b.answer (search owner other limit) = (.ok (ranked.take limit), b)) := by
  have hlisted := Store.list_precedes hkeyed owner .liveAll
  have hpairwise : (ranking (sought query) (a.store.list owner .liveAll)).Pairwise
      (Memory.Outranks (sought query)) :=
    ranking_pairwise hlisted
  refine ⟨ranking (sought query) (a.store.list owner .liveAll), fun m => ?_, hpairwise,
    search_of_open hopen owner hwords limit, ?_, ?_, ?_⟩
  · rw [mem_ranking, Store.mem_list_liveAll, and_assoc, and_assoc]
  · exact (hpairwise.imp Memory.Outranks.ne).sublist (List.take_sublist _ _)
  · intro m hm hout hit hhit
    rw [← List.take_append_drop limit (ranking _ _)] at hm hpairwise
    have hrest := (List.mem_append.mp hm).resolve_left hout
    exact (List.pairwise_append.mp hpairwise).2.2 hit hhit m hrest
  · intro other b hother hopen' hkeyed' hmem
    have hwords' : words other ≠ [] := by
      rintro hnone
      have hempty : sought query = ∅ := by rw [← hother, sought, hnone]; rfl
      rw [sought, List.toFinset_eq_empty_iff, List.map_eq_nil_iff] at hempty
      exact hwords hempty
    have hlisted' := Store.list_precedes hkeyed' owner .liveAll
    have hsame : ranking (sought query) (a.store.list owner .liveAll) =
        ranking (sought query) (b.store.list owner .liveAll) :=
      ranking_congr hlisted hlisted' fun m => by
        rw [Store.mem_list_liveAll, Store.mem_list_liveAll, hmem]
    rw [search_of_open hopen' owner hwords' limit, hother, hsame]

/-- Two memories with both words and of one age, in the order of their ids, and a newer one with
one of the words that is cut off.  The other query has the words in another order and case, and the
other store has the memories in another order. -/
theorem search_best_tied :
    let older : Memory := .fresh ⟨"b"⟩ ⟨"o"⟩ "green tea" .core ⟨0, 0⟩
    let first : Memory := .fresh ⟨"a"⟩ ⟨"o"⟩ "Tea: GREEN" .core ⟨0, 0⟩
    let fewer : Memory := .fresh ⟨"c"⟩ ⟨"o"⟩ "tea" .core ⟨9, 0⟩
    let a : Archive := .around .inMemory ⟨[older, fewer, first], [], []⟩ (.steady ⟨9, 0⟩) 0
    let b : Archive := .around .inMemory ⟨[first, older, fewer], [], []⟩ (.steady ⟨9, 0⟩) 0
    (a.faults.passes? .listMemories = none ∧ a.store.Keyed ∧ words "green  Tea" ≠ []) ∧
      fewer.holds (sought "green  Tea") = {"tea".toList} ∧
      a.answer (search ⟨"o"⟩ "green  Tea" 2) = (.ok [first, older], a) ∧
      b.answer (search ⟨"o"⟩ " TEA tea GREEN" 2) = (.ok [first, older], b) := by
  intro older first fewer a b
  have h : a.faults.passes? .listMemories = none ∧ a.store.Keyed ∧ words "green  Tea" ≠ [] :=
    ⟨rfl, by decide, by decide⟩
  obtain ⟨ranked, -, -, hanswer, -, -, hsame⟩ := search_best h.1 h.2.1 ⟨"o"⟩ h.2.2 2
  have hranking : (ranking (sought "green  Tea") (a.store.list ⟨"o"⟩ .liveAll)).take 2 =
      [first, older] := by
    decide +kernel
  have hbest : a.answer (search ⟨"o"⟩ "green  Tea" 2) = (.ok [first, older], a) := by
    rw [search_of_open h.1 ⟨"o"⟩ h.2.2 2, hranking]
  have htake : ranked.take 2 = [first, older] :=
    Except.ok.inj (Prod.mk.inj (hanswer.symm.trans hbest)).1
  have hmoved : [older, fewer, first].Perm [first, older, fewer] := by decide
  have hother := hsame " TEA tea GREEN" b (by decide +kernel) rfl (by decide)
    fun m => hmoved.mem_iff
  rw [htake] at hother
  exact ⟨h, by decide +kernel, hbest, hother⟩

end Archive
end Curation
