/-
# Chunks hold the whole conversation

A transcript falls into PARTS: runs of turns that stay whole, and single turns that are broken into
pieces because the budget does not hold them.  The chunks are the parts one after the other, so
reading them in order gives the conversation back, less the turns in which nothing is said
(`chunks_lose_nothing`).

Packing is greedy: where a run ends and another one follows, the next turn did not fit.  That is a
fact about neighbours, so the induction along the packing also says how the rest begins
(`Cuts.opened`).

What packing can do with a turn is said once (`Packs`); that it comes to its end, its sums being
words, is a second induction (`pack_of_sumsFit`).
-/
import Mathlib.Data.List.Chain
import Curation.Proofs.Tokens
import Curation.Transcript

namespace Curation

theorem TokenMeter.count_eq_zero_iff {meter : TokenMeter} {text : String} :
    meter.count text = 0 ↔ text = "" := by
  rw [count, countChars, ← String.length_eq_zero_iff]
  split
  · next h => simp [h]
  · next h =>
    simp only [h, iff_false]
    split
    · decide
    · assumption

namespace Chunking

/-! ## 1. Pieces -/

theorem flatten_piecesFrom (size : Nat) : ∀ (cs : List Char) (room : Nat) (run : List Char),
    (piecesFrom size room run cs).flatten = run.reverse ++ cs
  | [], room, run => by
    rw [piecesFrom]
    cases run <;> simp
  | c :: cs, 0, run => by simp [piecesFrom, flatten_piecesFrom size cs]
  | c :: cs, room + 1, run => by simp [piecesFrom, flatten_piecesFrom size cs]

/-- What was collected and the room that is left make up one piece. -/
theorem length_piecesFrom (size : Nat) : ∀ (cs : List Char) (room : Nat) (run : List Char),
    run.length + room = size + 1 →
      ∀ piece ∈ piecesFrom size room run cs, piece ≠ [] ∧ piece.length ≤ size + 1
  | [], room, run, hroom => by
    rw [piecesFrom]
    cases run with
    | nil => simp
    | cons c run =>
      have hlen : (c :: run).length ≤ size + 1 := by omega
      simpa using hlen
  | c :: cs, 0, run, hroom => by
    have hne : run.length ≠ 0 := by omega
    have ih := length_piecesFrom size cs size [c] (Nat.add_comm ..)
    rw [piecesFrom, List.forall_mem_cons]
    exact ⟨⟨by simpa using hne, by simp; omega⟩, ih⟩
  | c :: cs, room + 1, run, hroom => by
    rw [piecesFrom]
    exact length_piecesFrom size cs room (c :: run) (by simp; omega)

/-- **Pieces make up their text.** -/
theorem join_pieces (size : Nat) (text : String) : String.join (pieces size text) = text := by
  refine String.toList_inj.mp ?_
  rw [String.toList_join, pieces, List.flatMap_map]
  simp only [String.toList_ofList]
  rw [List.flatMap_id', flatten_piecesFrom]
  rfl

theorem mem_pieces {size : Nat} (hsize : 0 < size) {text piece : String}
    (h : piece ∈ pieces size text) : piece ≠ "" ∧ piece.length ≤ size := by
  obtain ⟨cs, hcs, rfl⟩ := List.mem_map.mp h
  obtain ⟨hne, hlen⟩ := length_piecesFrom (size - 1) text.toList size [] (by simp; omega) cs hcs
  constructor
  · rwa [ne_eq, ← String.toList_eq_nil_iff, String.toList_ofList]
  · rw [String.length_ofList]
    omega

theorem pieceSize_pos (k : Chunking) : 0 < k.pieceSize :=
  Nat.lt_of_lt_of_le Nat.one_pos (Nat.le_max_left ..)

/-! ## 2. Parts -/

/-- The turns in which something is said. -/
def spoken (turns : List Turn) : List Turn :=
  turns.filter fun t => t.content ≠ ""

/-- The tokens of some turns. -/
def total (k : Chunking) (turns : List Turn) : Nat :=
  (turns.map fun t => (k.meter.count t.content).toNat).sum

variable {k : Chunking}

@[simp] theorem total_append (run run' : List Turn) :
    k.total (run ++ run') = k.total run + k.total run' := by
  simp [total]

@[simp] theorem total_singleton (t : Turn) : k.total [t] = (k.meter.count t.content).toNat := by
  simp [total]

/-- A part of a transcript: some turns that stay whole, or one that is broken into pieces. -/
inductive Part where
  | whole (run : List Turn)
  | broken (role : String) (pieces : List String)

namespace Part

/-- The turns of the chunks that a part makes. -/
def runs : Part → List (List Turn)
  | whole run => [run]
  | broken role pieces => pieces.map fun text => [⟨role, text⟩]

/-- The turns that a part was made of, its pieces joined again. -/
def turns : Part → List Turn
  | whole run => run
  | broken role pieces => [⟨role, String.join pieces⟩]

/-- **A part is as it should be**: turns that stay whole are within the budget together, and a turn
that is broken is over it alone. -/
def Fits (k : Chunking) : Part → Prop
  | whole run => run ≠ [] ∧ k.total run ≤ k.budget.toNat
  | broken _ pieces =>
    k.budget < k.meter.count (String.join pieces) ∧ ∀ text ∈ pieces, text ≠ ""

/-- **No room for the next**: where whole turns follow whole turns, the first of those that follow
would not have fit with the others. -/
def Full (k : Chunking) : Part → Part → Prop
  | whole run, whole (t :: _) => k.budget.toNat < k.total run + k.total [t]
  | _, _ => True

end Part

/-! ## 3. Packing -/

/-- **What packing can do**: `Packs k run tokens ts packed` if it makes these chunks of the turns
`ts`, with some turns collected already. -/
inductive Packs (k : Chunking) :
    List Turn → UInt64 → List Turn → List (List Turn × UInt64) → Prop where
  | done {run : List Turn} {tokens : UInt64} : Packs k run tokens [] (close run tokens)
  /-- A turn in which nothing is said. -/
  | skip {run ts : List Turn} {t : Turn} {tokens : UInt64} {packed : List (List Turn × UInt64)}
      (ht : k.meter.count t.content = 0) (h : Packs k run tokens ts packed) :
      Packs k run tokens (t :: ts) packed
  /-- A turn over the budget. -/
  | split {run ts : List Turn} {t : Turn} {tokens : UInt64} {rest : List (List Turn × UInt64)}
      (ht : k.budget < k.meter.count t.content) (h : Packs k [] 0 ts rest) :
      Packs k run tokens (t :: ts) (close run tokens ++ k.split t ++ rest)
  /-- A turn that does not fit with those before it. -/
  | full {run ts : List Turn} {t : Turn} {tokens sum : UInt64}
      {rest : List (List Turn × UInt64)} (ht : k.meter.count t.content ≠ 0)
      (hunder : k.meter.count t.content ≤ k.budget)
      (hsum : addWords tokens (k.meter.count t.content) = some sum) (hover : k.budget < sum)
      (h : Packs k [t] (k.meter.count t.content) ts rest) :
      Packs k run tokens (t :: ts) (close run tokens ++ rest)
  /-- A turn that does. -/
  | keep {run ts : List Turn} {t : Turn} {tokens sum : UInt64}
      {packed : List (List Turn × UInt64)} (ht : k.meter.count t.content ≠ 0)
      (hsum : addWords tokens (k.meter.count t.content) = some sum) (hunder : sum ≤ k.budget)
      (h : Packs k (run ++ [t]) sum ts packed) : Packs k run tokens (t :: ts) packed

theorem packs_of_pack : ∀ {ts run : List Turn} {tokens : UInt64}
    {packed : List (List Turn × UInt64)}, k.pack run tokens ts = some packed →
      Packs k run tokens ts packed
  | [], _, _, _, h => by
    obtain rfl := Option.some.inj h
    exact .done
  | t :: ts, run, tokens, packed, h => by
    rw [pack] at h
    split at h
    · next hzero => exact .skip hzero (packs_of_pack h)
    · next hne =>
      split at h
      · next hover =>
        obtain ⟨rest, hrest, heq⟩ := Option.bind_eq_some_iff.mp h
        obtain rfl := Option.some.inj heq
        exact .split hover (packs_of_pack hrest)
      · next hunder =>
        obtain ⟨sum, hsum, h⟩ := Option.bind_eq_some_iff.mp h
        split at h
        · next hover =>
          obtain ⟨rest, hrest, heq⟩ := Option.bind_eq_some_iff.mp h
          obtain rfl := Option.some.inj heq
          exact .full hne (UInt64.not_lt.mp hunder) hsum hover (packs_of_pack hrest)
        · next hroom => exact .keep hne hsum (UInt64.not_lt.mp hroom) (packs_of_pack h)

/-! ## 4. One step of the packing -/

/-- **What packing makes of the turns that come**, with some turns collected already: chunks that
are the runs of some parts. -/
structure Cuts (k : Chunking) (run ts : List Turn) (packed : List (List Turn × UInt64))
    (parts : List Part) : Prop where
  runs : packed.map (·.1) = parts.flatMap Part.runs
  tokens : ∀ chunk ∈ packed, chunk.2.toNat = k.total chunk.1
  turns : parts.flatMap Part.turns = run ++ spoken ts
  fits : ∀ part ∈ parts, part.Fits k
  full : parts.IsChain (Part.Full k)
  /-- What was collected is where the first part begins. -/
  opened : run ≠ [] → ∃ more rest, parts = .whole (run ++ more) :: rest

/-- The part that the collected turns make, if there are any. -/
def closed (run : List Turn) : List Part :=
  if run.isEmpty then [] else [.whole run]

variable {run ts : List Turn} {t : Turn} {tokens : UInt64}
  {packed : List (List Turn × UInt64)} {parts : List Part}

/-- **Collected turns are closed** in front of parts that the last of them leaves no room for. -/
theorem Cuts.close (hcuts : Cuts k [] ts packed parts) (htokens : tokens.toNat = k.total run)
    (hbudget : k.total run ≤ k.budget.toNat)
    (hfull : ∀ part ∈ parts.head?, Part.Full k (.whole run) part) :
    Cuts k run ts (Chunking.close run tokens ++ packed) (closed run ++ parts) := by
  by_cases hrun : run = []
  · subst hrun
    exact hcuts
  · have hempty : run.isEmpty = false := by simpa using hrun
    simp only [Chunking.close, closed, hempty, Bool.false_eq_true, if_false, List.singleton_append]
    exact {
      runs := by simpa [Part.runs] using hcuts.runs
      tokens := List.forall_mem_cons.mpr ⟨htokens, hcuts.tokens⟩
      turns := by simpa [Part.turns] using hcuts.turns
      fits := List.forall_mem_cons.mpr ⟨⟨hrun, hbudget⟩, hcuts.fits⟩
      full := List.isChain_cons.mpr ⟨hfull, hcuts.full⟩
      opened := fun _ => ⟨[], parts, by simp⟩ }

theorem Cuts.nil : Cuts k [] [] [] [] where
  runs := rfl
  tokens := by simp
  turns := rfl
  fits := by simp
  full := .nil
  opened h := absurd rfl h

theorem Cuts.skip (ht : t.content = "") (hcuts : Cuts k run ts packed parts) :
    Cuts k run (t :: ts) packed parts :=
  { hcuts with turns := by simpa [spoken, ht] using hcuts.turns }

theorem Cuts.keep (ht : t.content ≠ "") (hcuts : Cuts k (run ++ [t]) ts packed parts) :
    Cuts k run (t :: ts) packed parts :=
  { hcuts with
    turns := by simpa [spoken, ht] using hcuts.turns
    opened := by
      intro _
      obtain ⟨more, rest, rfl⟩ := hcuts.opened (by simp)
      exact ⟨t :: more, rest, by simp⟩ }

/-- A turn that is collected begins a part. -/
theorem Cuts.begin (ht : t.content ≠ "") (hcuts : Cuts k [t] ts packed parts) :
    Cuts k [] (t :: ts) packed parts :=
  { Cuts.keep ht (List.nil_append [t] ▸ hcuts) with opened := fun h => absurd rfl h }

/-- A turn over the budget is a part of its own. -/
theorem Cuts.split (ht : k.budget < k.meter.count t.content) (hcuts : Cuts k [] ts packed parts) :
    Cuts k [] (t :: ts) (k.split t ++ packed)
      (.broken t.role (pieces k.pieceSize t.content) :: parts) := by
  have hne : t.content ≠ "" := by
    intro h
    rw [TokenMeter.count_eq_zero_iff.mpr h] at ht
    exact absurd ht (by simp)
  exact {
    runs := by
      simp [Chunking.split, Part.runs, hcuts.runs, Function.comp_def]
    tokens := by
      refine List.forall_mem_append.mpr ⟨?_, hcuts.tokens⟩
      simp [Chunking.split, total]
    turns := by
      simp [Part.turns, hcuts.turns, join_pieces, spoken, hne]
    fits := by
      refine List.forall_mem_cons.mpr ⟨⟨?_, ?_⟩, hcuts.fits⟩
      · rwa [join_pieces]
      · intro text htext
        exact (mem_pieces k.pieceSize_pos htext).1
    full := List.isChain_cons.mpr ⟨fun _ _ => trivial, hcuts.full⟩
    opened := fun h => absurd rfl h }

/-! ## 5. A whole transcript -/

/-- **Packing cuts**, by induction on what it did. -/
theorem cuts_of_packs (h : Packs k run tokens ts packed) (htokens : tokens.toNat = k.total run)
    (hbudget : k.total run ≤ k.budget.toNat) : ∃ parts, Cuts k run ts packed parts := by
  induction h with
  | done => exact ⟨_, by simpa using Cuts.close .nil htokens hbudget (by simp)⟩
  | skip ht _ ih =>
    obtain ⟨parts, hcuts⟩ := ih htokens hbudget
    exact ⟨parts, hcuts.skip (TokenMeter.count_eq_zero_iff.mp ht)⟩
  | split ht _ ih =>
    obtain ⟨parts, hcuts⟩ := ih rfl (Nat.zero_le _)
    rw [List.append_assoc]
    exact ⟨_, (hcuts.split ht).close htokens hbudget (by simp [Part.Full])⟩
  | @full run ts t tokens sum rest ht hunder hsum hover _ ih =>
    have hlone : (k.meter.count t.content).toNat = k.total [t] := (total_singleton t).symm
    rw [UInt64.lt_iff_toNat_lt, addWords_eq_some_iff.mp hsum, htokens, hlone] at hover
    obtain ⟨parts, hcuts⟩ := ih hlone (hlone ▸ UInt64.le_iff_toNat_le.mp hunder)
    have hsaid : t.content ≠ "" := mt TokenMeter.count_eq_zero_iff.mpr ht
    refine ⟨_, (hcuts.begin hsaid).close htokens hbudget ?_⟩
    obtain ⟨more, rest, rfl⟩ := hcuts.opened (by simp)
    rintro part ⟨⟩
    exact hover
  | @keep run ts t tokens sum packed ht hsum hunder _ ih =>
    have htotal : sum.toNat = k.total (run ++ [t]) := by
      rw [addWords_eq_some_iff.mp hsum, htokens, total_append, total_singleton]
    obtain ⟨parts, hcuts⟩ := ih htotal (htotal ▸ UInt64.le_iff_toNat_le.mp hunder)
    exact ⟨parts, hcuts.keep (mt TokenMeter.count_eq_zero_iff.mpr ht)⟩

/-- **The sums of the packing fit**: of neighbouring turns within the budget and the turn after
them, if that is within the budget too. -/
def SumsFit (k : Chunking) (turns : List Turn) : Prop :=
  ∀ run t, run ++ [t] <:+: turns → k.total run ≤ k.budget.toNat →
    k.total [t] ≤ k.budget.toNat → k.total run + k.total [t] < UInt64.size

theorem SumsFit.of_total {turns : List Turn} (h : k.total turns < UInt64.size) :
    k.SumsFit turns := by
  rintro run t ⟨before, after, rfl⟩ - -
  simp only [total_append] at h
  omega

/-- Half of a word is a budget with which nothing overflows. -/
theorem SumsFit.of_budget {turns : List Turn} (h : 2 * k.budget.toNat < UInt64.size) :
    k.SumsFit turns := by
  rintro run t - hrun ht
  omega

theorem SumsFit.suffix (run : List Turn) (h : k.SumsFit (run ++ ts)) : k.SumsFit ts :=
  fun run' t hrun => h run' t (hrun.trans (List.suffix_append run ts).isInfix)

/-- **Packing comes to its end.**  `heard` are the turns since the last chunk was closed, silent
ones among them, and `run` what was collected of them. -/
theorem pack_of_sumsFit : ∀ (ts heard run : List Turn) (tokens : UInt64),
    tokens.toNat = k.total heard → k.total heard ≤ k.budget.toNat → k.SumsFit (heard ++ ts) →
      ∃ packed, k.pack run tokens ts = some packed
  | [], _, _, _, _, _, _ => ⟨_, rfl⟩
  | t :: ts, heard, run, tokens, htokens, hbudget, hsums => by
    have hheard : heard ++ [t] ++ ts = heard ++ t :: ts := by simp
    have hmore : k.total (heard ++ [t]) = k.total heard + (k.meter.count t.content).toNat := by
      rw [total_append, total_singleton]
    rw [pack]
    split
    · next hzero =>
      rw [hzero, UInt64.toNat_zero, Nat.add_zero] at hmore
      exact pack_of_sumsFit ts (heard ++ [t]) run tokens (hmore ▸ htokens) (hmore ▸ hbudget)
        (hheard ▸ hsums)
    · split
      · obtain ⟨rest, hrest⟩ := pack_of_sumsFit ts [] [] 0 rfl (Nat.zero_le _)
          (SumsFit.suffix (heard ++ [t]) (hheard ▸ hsums))
        exact ⟨_, by rw [hrest]; rfl⟩
      · next hover =>
        have hunder : k.total [t] ≤ k.budget.toNat := by
          rw [total_singleton]
          exact UInt64.le_iff_toNat_le.mp (UInt64.not_lt.mp hover)
        have hfits := hsums heard t ⟨[], ts, by simp⟩ hbudget hunder
        rw [← total_append, hmore, ← htokens] at hfits
        rw [addWords, if_pos hfits]
        dsimp only [Option.bind_eq_bind, Option.bind_some]
        have hsum := addWords_eq_some_iff.mp (if_pos hfits)
        split
        · obtain ⟨rest, hrest⟩ := pack_of_sumsFit ts [t] [t] (k.meter.count t.content)
            (total_singleton t).symm hunder (SumsFit.suffix heard hsums)
          exact ⟨_, by rw [hrest]; rfl⟩
        · next hroom =>
          rw [UInt64.not_lt, UInt64.le_iff_toNat_le, hsum, htokens, ← hmore] at hroom
          rw [htokens, ← hmore] at hsum
          exact pack_of_sumsFit ts (heard ++ [t]) _ _ hsum hroom (hheard ▸ hsums)

/-- **Chunks are what was packed**, counted from zero. -/
theorem chunks_ok {turns : List Turn} {chunks : List Chunk} (h : k.chunks turns = .ok chunks) :
    ∃ packed, Packs k [] 0 turns packed ∧
      chunks.map (fun chunk => (chunk.turns, chunk.tokens)) = packed ∧
      chunks.map Chunk.index = List.range chunks.length := by
  unfold Chunking.chunks at h
  split at h
  · next packed hpack =>
    obtain rfl := Except.ok.inj h
    refine ⟨packed, packs_of_pack hpack, ?_, ?_⟩
    · rw [List.map_map]
      exact List.zipIdx_map_fst 0 packed
    · rw [List.map_map, List.length_map, List.length_zipIdx, List.range_eq_range',
        ← List.zipIdx_map_snd]
      rfl
  · cases h

theorem chunks_of_pack {turns : List Turn} {packed : List (List Turn × UInt64)}
    (h : k.pack [] 0 turns = some packed) :
    k.chunks turns = .ok (packed.zipIdx.map fun ((run, tokens), i) => ⟨i, run, tokens⟩) := by
  unfold Chunking.chunks
  rw [h]

/-- No chunk of a part is empty. -/
theorem Part.Fits.ne_nil {part : Part} (h : part.Fits k) {run : List Turn}
    (hrun : run ∈ part.runs) : run ≠ [] := by
  cases part with
  | whole turns =>
    rw [List.mem_singleton.mp hrun]
    exact h.1
  | broken role pieces =>
    obtain ⟨text, -, rfl⟩ := List.mem_map.mp hrun
    exact List.cons_ne_nil _ _

/-- **Cutting loses nothing and packs greedily.**  It comes to its end if its sums fit, and then
the chunks are the runs of some parts, counted from zero, each with the tokens of its turns and none
of them empty.  The parts make up what was spoken: those that stay whole are within the budget and
leave no room for what follows, and those that are broken are over it. -/
theorem chunks_lose_nothing (turns : List Turn) :
    (k.SumsFit turns → ∃ chunks, k.chunks turns = .ok chunks) ∧
    ∀ chunks, k.chunks turns = .ok chunks →
      (∃ parts : List Part,
        chunks.map Chunk.turns = parts.flatMap Part.runs ∧
        parts.flatMap Part.turns = spoken turns ∧
        (∀ part ∈ parts, part.Fits k) ∧
        parts.IsChain (Part.Full k)) ∧
      chunks.map Chunk.index = List.range chunks.length ∧
      ∀ chunk ∈ chunks, chunk.turns ≠ [] ∧ chunk.tokens.toNat = k.total chunk.turns := by
  refine ⟨fun hsums => ?_, fun chunks hchunks => ?_⟩
  · obtain ⟨packed, hpack⟩ := pack_of_sumsFit turns [] [] 0 rfl (Nat.zero_le _) hsums
    exact ⟨_, chunks_of_pack hpack⟩
  · obtain ⟨packed, hpacks, hpacked, hindex⟩ := chunks_ok hchunks
    obtain ⟨parts, hcuts⟩ := cuts_of_packs hpacks rfl (Nat.zero_le _)
    have hruns : chunks.map Chunk.turns = parts.flatMap Part.runs := by
      rw [← hcuts.runs, ← hpacked, List.map_map]
      rfl
    refine ⟨⟨parts, hruns, hcuts.turns, hcuts.fits, hcuts.full⟩, hindex, fun chunk hchunk => ?_⟩
    constructor
    · have hmem : chunk.turns ∈ parts.flatMap Part.runs := hruns ▸ List.mem_map_of_mem hchunk
      obtain ⟨part, hpart, hrun⟩ := List.mem_flatMap.mp hmem
      exact (hcuts.fits part hpart).ne_nil hrun
    · exact hcuts.tokens (chunk.turns, chunk.tokens) (hpacked ▸ List.mem_map_of_mem hchunk)

/-- Two tokens to a chunk, at four characters each: two short turns, one in which nothing is said,
one that needs three pieces, and one that follows it. -/
theorem chunks_lose_nothing_split :
    let k : Chunking := ⟨.standard, 2⟩
    let turns : List Turn := [⟨"user", "abcd"⟩, ⟨"system", ""⟩, ⟨"assistant", "efghij"⟩,
      ⟨"user", "0123456789abcdefghij"⟩, ⟨"assistant", "ok"⟩]
    k.SumsFit turns ∧ ∃ chunks, k.chunks turns = .ok chunks ∧
      (∃ parts : List Part,
        chunks.map Chunk.turns = parts.flatMap Part.runs ∧
        parts.flatMap Part.turns = spoken turns ∧
        (∀ part ∈ parts, part.Fits k) ∧
        parts.IsChain (Part.Full k)) ∧
      chunks.map Chunk.index = List.range 6 ∧
      ∀ chunk ∈ chunks, chunk.turns ≠ [] ∧ chunk.tokens.toNat = k.total chunk.turns := by
  intro k turns
  have hsums : k.SumsFit turns := .of_total (by decide +kernel)
  obtain ⟨hends, hlossless⟩ := chunks_lose_nothing (k := k) turns
  obtain ⟨chunks, hchunks⟩ := hends hsums
  obtain ⟨hparts, hindex, hchunk⟩ := hlossless chunks hchunks
  have hlength : (k.chunks turns).map List.length = .ok 6 := by decide +kernel
  rw [hchunks] at hlength
  exact ⟨hsums, chunks, hchunks, hparts, Except.ok.inj hlength ▸ hindex, hchunk⟩

/-- Two turns that a chunk holds one at a time, and whose sum is no word. -/
example : (Chunking.mk (.ofRatio (.ofRatio false 1 (10 ^ 19))) (10 ^ 19)).chunks
    [⟨"user", "x"⟩, ⟨"user", "y"⟩] = .error .sumOverflow := by decide +kernel

end Chunking
end Curation
