/-
# Every new text becomes a memory once

The candidates of a transcript are taken one by one, whatever chunk they were found in.  The loop
carries the texts that it has seen, and at every step these are the texts of the owner's live
memories, the ones it has made included (`Ingest.Taken.seen`).  So what it has made is what was new
among the candidates that it has gone through, each text at its first occurrence
(`Ingest.Taken.texts`).

Nothing is left that is new, so that the same candidates make no memory a second time.  Before all
that the transcript is cut, and if a sum of tokens is no word then, nothing is taken in
(`ingest_makes_once`).
-/
import Curation.Proofs.Calls
import Curation.Proofs.Ident
import Curation.Proofs.Memory.Admission
import Curation.Proofs.Sorting
import Curation.Proofs.Transcript.Chunks

namespace Curation

/-! ## 1. What an owner remembers -/

/-- Whether a live memory of an owner has a text. -/
def Store.Remembers (s : Store) (owner : OwnerId) (text : String) : Prop :=
  ∃ m ∈ s.memories, m.owner = owner ∧ m.tombstoned = false ∧ m.content = text

instance (s : Store) (owner : OwnerId) (text : String) : Decidable (s.Remembers owner text) :=
  inferInstanceAs
    (Decidable (∃ m ∈ s.memories, m.owner = owner ∧ m.tombstoned = false ∧ m.content = text))

/-- A store with more memories behind those that it has. -/
def Store.adding (s : Store) (made : List Memory) : Store :=
  { s with memories := s.memories ++ made }

namespace Store

variable {s s' : Store} {owner : OwnerId} {text : String} {made : List Memory}

theorem adding_nil : s.adding [] = s := by rw [adding, List.append_nil]

theorem adding_append (more : List Memory) :
    s.adding (made ++ more) = (s.adding made).adding more := by
  rw [adding, adding, adding, List.append_assoc]

/-- **An inserted memory** is added under an id that was free. -/
theorem insert_ok_iff {m : Memory} :
    s.insert m = .ok s' ↔ s.memory? m.id = none ∧ s' = s.adding [m] := by
  unfold insert adding
  cases s.memory? m.id with
  | none => exact ⟨fun h => ⟨rfl, (Except.ok.inj h).symm⟩, fun h => h.2 ▸ rfl⟩
  | some old => exact ⟨nofun, nofun⟩

theorem memory?_adding_of_ne {id : MemoryId} (h : ∀ m ∈ made, m.id ≠ id) :
    (s.adding made).memory? id = s.memory? id := by
  have hmade : made.find? (·.id == id) = none :=
    List.find?_eq_none.mpr fun m hm => by simpa using h m hm
  rw [memory?, memory?, adding, List.find?_append, hmade, Option.or_none]

theorem remembers_adding (hmade : ∀ m ∈ made, m.owner = owner ∧ m.tombstoned = false) :
    (s.adding made).Remembers owner text ↔
      s.Remembers owner text ∨ text ∈ made.map (·.content) := by
  unfold Remembers adding
  simp only [List.mem_append, List.mem_map, or_and_right, exists_or]
  refine or_congr Iff.rfl ⟨?_, ?_⟩
  · rintro ⟨m, hm, -, -, ht⟩
    exact ⟨m, hm, ht⟩
  · rintro ⟨m, hm, ht⟩
    exact ⟨m, hm, (hmade m hm).1, (hmade m hm).2, ht⟩

/-- What the listing of all live memories shows. -/
theorem mem_texts_list : text ∈ (s.list owner .liveAll).map (·.content) ↔
    s.Remembers owner text := by
  simp [Remembers, list, MemoryFilter.shows, MemoryFilter.liveAll, and_assoc]

end Store

/-! ## 2. Texts that are new -/

/-- **The new texts** among some candidates: those that are admitted and not remembered, each
where it comes first. -/
def Store.newTexts (s : Store) (rules : MemoryRules) (owner : OwnerId)
    (candidates : List Candidate) : List String :=
  distinct ((candidates.map (·.content)).filter fun t =>
    rules.Admits t ∧ ¬ s.Remembers owner t)

section NewTexts

variable {s : Store} {rules : MemoryRules} {owner : OwnerId} {done : List Candidate}
  {c : Candidate} {text : String}

theorem mem_newTexts : text ∈ s.newTexts rules owner done ↔
    text ∈ done.map (·.content) ∧ rules.Admits text ∧ ¬ s.Remembers owner text := by
  rw [Store.newTexts, mem_distinct, List.mem_filter, decide_eq_true_iff]

theorem newTexts_append : s.newTexts rules owner (done ++ [c]) =
    s.newTexts rules owner done ++
      (s.newTexts rules owner [c]).filter (· ∉ s.newTexts rules owner done) := by
  unfold Store.newTexts
  rw [List.map_append, List.filter_append, distinct_append_filter]
  simp only [mem_distinct]

/-- A candidate that is not admitted, or remembered, or new no more. -/
theorem newTexts_of_old (h : rules.Admits c.content → ¬ s.Remembers owner c.content →
      c.content ∈ s.newTexts rules owner done) :
    s.newTexts rules owner (done ++ [c]) = s.newTexts rules owner done := by
  have hnone : (s.newTexts rules owner [c]).filter
      (· ∉ s.newTexts rules owner done) = [] := by
    refine List.filter_eq_nil_iff.mpr fun t ht => ?_
    obtain ⟨hmem, hadmits, hnew⟩ := mem_newTexts.mp ht
    obtain rfl := List.mem_singleton.mp hmem
    simpa using h hadmits hnew
  rw [newTexts_append, hnone, List.append_nil]

/-- A candidate that is new. -/
theorem newTexts_of_new (hadmits : rules.Admits c.content) (hnew : ¬ s.Remembers owner c.content)
    (hfirst : c.content ∉ s.newTexts rules owner done) :
    s.newTexts rules owner (done ++ [c]) = s.newTexts rules owner done ++ [c.content] := by
  have hone : s.newTexts rules owner [c] = [c.content] := by
    simp [Store.newTexts, distinct, hadmits, hnew]
  have hkept : [c.content].filter (· ∉ s.newTexts rules owner done) = [c.content] :=
    List.filter_cons_of_pos (decide_eq_true hfirst)
  rw [newTexts_append, hone, hkept]

end NewTexts

/-! ## 3. One memory -/

namespace MemoryRules

open Archive

variable {rules : MemoryRules} {owner : OwnerId} {a a' : Archive}

/-- **A memory that was made** has an admitted text and a new id, and it is added behind the
others. -/
theorem create_ok {content : String} {kind : MemoryKind} {m : Memory}
    (h : a.answer (rules.create owner content kind) = (.ok m, a')) :
    m = .fresh ⟨Ident.generated a.drawn⟩ owner content kind a.clock.next ∧
      rules.Admits content ∧ a'.store = a.store.adding [m] := by
  obtain ⟨u, a₁, h₁, h⟩ := answer_bind_ok h
  obtain ⟨m₁, a₂, h₂, h⟩ := answer_bind_ok h
  rw [answer_liftExcept] at h₁
  rw [answer_lift, run_newMemory] at h₂
  obtain ⟨hu, rfl⟩ := Prod.mk.inj h₁
  obtain ⟨hm₁, rfl⟩ := Prod.mk.inj h₂
  obtain ⟨rfl, hinsert⟩ := insertMemory_ok (ofStore_ok h)
  have hm := (Except.ok.inj hm₁).symm
  exact ⟨hm, admits_of_validate hu, (Store.insert_ok_iff.mp hinsert).2⟩

/-- **A memory is made** of an admitted text while nothing is in the way. -/
theorem create_of_open {content : String} {kind : MemoryKind} (hadmits : rules.Admits content)
    (hgate : a.faults.passes? .insertMemory = none)
    (hfree : a.store.memory? ⟨Ident.generated a.drawn⟩ = none) :
    let m := Memory.fresh ⟨Ident.generated a.drawn⟩ owner content kind a.clock.next
    a.answer (rules.create owner content kind) = (.ok m, { a with
      drawn := a.drawn + 1, clock := a.clock.advance, store := a.store.adding [m] }) := by
  intro m
  have hinsert : a.store.insert m = .ok (a.store.adding [m]) :=
    Store.insert_ok_iff.mpr ⟨hfree, rfl⟩
  unfold create
  rw [answer_bind, answer_liftExcept, validate_eq_ok_iff.mpr hadmits]
  dsimp only
  rw [answer_bind, answer_lift, run_newMemory]
  dsimp only
  have hanswer := answer_insertMemory_of_open
    (a := { a with drawn := a.drawn + 1, clock := a.clock.advance }) hgate m
  rw [answer_ofStore, hanswer, hinsert]
  rfl

end MemoryRules

/-! ## 4. One candidate -/

namespace Ingest

section Candidate

variable {rules : MemoryRules} {owner : OwnerId} {a a' : Archive} {p p' : Progress} {c : Candidate}

theorem takeCandidate_of_old (h : c.content ∈ p.seen ∨ ¬ rules.Admits c.content) :
    a.answer (takeCandidate rules owner p c) = (.ok { p with skipped := p.skipped + 1 }, a) := by
  unfold takeCandidate
  by_cases hseen : c.content ∈ p.seen
  · rw [if_pos (List.contains_iff_mem.mpr hseen)]
    rfl
  · have hbad : rules.validate c.content ≠ .ok () :=
      fun hv => h.resolve_left hseen (MemoryRules.validate_eq_ok_iff.mp hv)
    rw [if_neg (by rwa [List.contains_iff_mem])]
    cases hv : rules.validate c.content with
    | error e => rfl
    | ok u => exact absurd hv hbad

theorem takeCandidate_of_new (hseen : c.content ∉ p.seen) (hadmits : rules.Admits c.content) :
    a.answer (takeCandidate rules owner p c) =
      a.answer (do
        let m ← rules.create owner c.content c.kind
        return ⟨c.content :: p.seen, p.created ++ [m.id], p.skipped⟩) := by
  unfold takeCandidate
  rw [if_neg (by rwa [List.contains_iff_mem]), MemoryRules.validate_eq_ok_iff.mpr hadmits]

/-- **What becomes of a candidate**: it is skipped, or a memory is made of it. -/
theorem takeCandidate_ok (h : a.answer (takeCandidate rules owner p c) = (.ok p', a')) :
    ((c.content ∈ p.seen ∨ ¬ rules.Admits c.content) ∧
      p' = { p with skipped := p.skipped + 1 } ∧ a'.store = a.store) ∨
    (c.content ∉ p.seen ∧ rules.Admits c.content ∧ ∃ id t,
      a'.store = a.store.adding [.fresh id owner c.content c.kind t] ∧
      p' = ⟨c.content :: p.seen, p.created ++ [id], p.skipped⟩) := by
  by_cases hold : c.content ∈ p.seen ∨ ¬ rules.Admits c.content
  · rw [takeCandidate_of_old hold] at h
    cases h
    exact .inl ⟨hold, rfl, rfl⟩
  · obtain ⟨hseen, hadmits⟩ := not_or.mp hold
    rw [not_not] at hadmits
    rw [takeCandidate_of_new hseen hadmits] at h
    obtain ⟨m, a₁, h₁, h⟩ := Archive.answer_bind_ok h
    obtain ⟨rfl, -, hstore⟩ := MemoryRules.create_ok h₁
    cases h
    exact .inr ⟨hseen, hadmits, _, _, hstore, rfl⟩

end Candidate

/-! ## 5. All candidates -/

/-- The kind of the candidate that came first with a text. -/
def firstKind (candidates : List Candidate) (text : String) : Option MemoryKind :=
  (candidates.find? (·.content = text)).map (·.kind)

theorem firstKind_append {done : List Candidate} {text : String} {kind : MemoryKind}
    (h : firstKind done text = some kind) (more : List Candidate) :
    firstKind (done ++ more) text = some kind := by
  obtain ⟨first, hfirst, hkind⟩ := Option.map_eq_some_iff.mp h
  rw [firstKind, List.find?_append, hfirst, Option.some_or, Option.map_some, hkind]

theorem firstKind_of_new {done : List Candidate} {c : Candidate}
    (h : c.content ∉ done.map (·.content)) : firstKind (done ++ [c]) c.content = some c.kind := by
  have hnone : done.find? (·.content = c.content) = none :=
    List.find?_eq_none.mpr fun x hx he =>
      h (List.mem_map.mpr ⟨x, hx, of_decide_eq_true he⟩)
  have hone : [c].find? (·.content = c.content) = some c :=
    List.find?_cons_of_pos (decide_eq_true rfl)
  rw [firstKind, List.find?_append, hnone, Option.none_or, hone, Option.map_some]

/-- **How far the loop has come** with some candidates, from a store on: which memories it has
made, and how it stands. -/
structure Taken (rules : MemoryRules) (owner : OwnerId) (s : Store) (done : List Candidate)
    (made : List Memory) (p : Progress) (now : Store) : Prop where
  /-- What it has made is added, and nothing else is touched. -/
  store : now = s.adding made
  /-- **What was new** is what it has made memories of. -/
  texts : made.map (·.content) = s.newTexts rules owner done
  /-- A memory has the kind of the candidate that came first with its text. -/
  kinds : ∀ m ∈ made, firstKind done m.content = some m.kind
  owned : ∀ m ∈ made, m.owner = owner ∧ m.tombstoned = false
  created : p.created = made.map (·.id)
  counted : p.created.length + p.skipped = done.length
  /-- **What it has seen** is what the owner remembers by now. -/
  seen : ∀ t, t ∈ p.seen ↔ now.Remembers owner t

namespace Taken

variable {rules : MemoryRules} {owner : OwnerId} {s now : Store} {done : List Candidate}
  {made : List Memory} {p : Progress}

/-- A text that needs no memory any more: it was remembered, or it was new. -/
theorem remembers_iff (h : Taken rules owner s done made p now) (t : String) :
    now.Remembers owner t ↔ s.Remembers owner t ∨ t ∈ s.newTexts rules owner done := by
  rw [h.store, Store.remembers_adding h.owned, h.texts]

/-- A candidate is skipped. -/
theorem skip (h : Taken rules owner s done made p now) {c : Candidate}
    (hold : c.content ∈ p.seen ∨ ¬ rules.Admits c.content) :
    Taken rules owner s (done ++ [c]) made { p with skipped := p.skipped + 1 } now where
  store := h.store
  texts := by
    rw [h.texts, newTexts_of_old]
    intro hadmits hnew
    have hseen := hold.resolve_right (not_not.mpr hadmits)
    exact ((h.remembers_iff _).mp ((h.seen _).mp hseen)).resolve_left hnew
  kinds := fun m hm => firstKind_append (h.kinds m hm) _
  owned := h.owned
  created := h.created
  counted := by
    rw [List.length_append, List.length_singleton, ← h.counted, Nat.add_assoc]
  seen := h.seen

/-- A memory is made of a candidate. -/
theorem make (h : Taken rules owner s done made p now) {c : Candidate} (hseen : c.content ∉ p.seen)
    (hadmits : rules.Admits c.content) (id : MemoryId) (t : Instant) :
    Taken rules owner s (done ++ [c]) (made ++ [.fresh id owner c.content c.kind t])
      ⟨c.content :: p.seen, p.created ++ [id], p.skipped⟩
      (now.adding [.fresh id owner c.content c.kind t]) := by
  have hnew : ¬ s.Remembers owner c.content ∧ c.content ∉ s.newTexts rules owner done := by
    rwa [h.seen, h.remembers_iff, not_or] at hseen
  -- an earlier candidate with the text would have been new, too
  have hfirst : c.content ∉ done.map (·.content) :=
    fun hdone => hnew.2 (mem_newTexts.mpr ⟨hdone, hadmits, hnew.1⟩)
  have hlive : ∀ m ∈ [Memory.fresh id owner c.content c.kind t],
      m.owner = owner ∧ m.tombstoned = false := by
    rintro m hm
    obtain rfl := List.mem_singleton.mp hm
    exact ⟨rfl, rfl⟩
  exact {
    store := by rw [h.store, Store.adding_append]
    texts := by
      rw [List.map_append, h.texts, newTexts_of_new hadmits hnew.1 hnew.2]
      rfl
    kinds := by
      intro m hm
      obtain hm | hm := List.mem_append.mp hm
      · exact firstKind_append (h.kinds m hm) _
      · obtain rfl := List.mem_singleton.mp hm
        exact firstKind_of_new hfirst
    owned := fun m hm => (List.mem_append.mp hm).elim (h.owned m) (hlive m)
    created := by
      rw [List.map_append, h.created]
      rfl
    counted := by
      rw [List.length_append, List.length_append, List.length_singleton, List.length_singleton,
        ← h.counted, Nat.add_right_comm]
    seen := by
      intro text
      rw [Store.remembers_adding hlive, List.mem_cons, h.seen, or_comm]
      exact or_congr_right List.mem_singleton.symm }

/-- **One candidate.** -/
theorem step (h : Taken rules owner s done made p now) {a a' : Archive} (ha : a.store = now)
    {c : Candidate} {p' : Progress}
    (hanswer : a.answer (takeCandidate rules owner p c) = (.ok p', a')) :
    ∃ made', Taken rules owner s (done ++ [c]) made' p' a'.store := by
  subst ha
  obtain ⟨hold, rfl, hstore⟩ | ⟨hseen, hadmits, id, t, hstore, rfl⟩ := takeCandidate_ok hanswer
  · rw [hstore]
    exact ⟨made, h.skip hold⟩
  · rw [hstore]
    exact ⟨_, h.make hseen hadmits id t⟩

/-- **All candidates**, by induction on those that are left. -/
theorem run : ∀ {rest done : List Candidate} {made : List Memory} {p p' : Progress}
    {a a' : Archive}, Taken rules owner s done made p a.store →
      a.answer (rest.foldlM (takeCandidate rules owner) p) = (.ok p', a') →
        ∃ made', Taken rules owner s (done ++ rest) made' p' a'.store
  | [], _, _, _, _, _, _, h, hanswer => by
    cases hanswer
    exact ⟨_, by rwa [List.append_nil]⟩
  | c :: rest, done, _, _, _, _, _, h, hanswer => by
    rw [List.foldlM_cons] at hanswer
    obtain ⟨p₁, a₁, h₁, hrest⟩ := Archive.answer_bind_ok hanswer
    obtain ⟨made₁, hstep⟩ := h.step rfl h₁
    rw [List.append_cons]
    exact run hstep hrest

/-- **Everything admitted is remembered** in the end. -/
theorem remembers (h : Taken rules owner s done made p now) {c : Candidate} (hc : c ∈ done)
    (hadmits : rules.Admits c.content) : now.Remembers owner c.content := by
  rw [h.remembers_iff]
  by_cases hold : s.Remembers owner c.content
  · exact .inl hold
  · exact .inr (mem_newTexts.mpr ⟨List.mem_map_of_mem hc, hadmits, hold⟩)

end Taken

/-- Candidates that are all old leave everything as it is. -/
theorem foldlM_of_old {rules : MemoryRules} {owner : OwnerId} {a : Archive} :
    ∀ {candidates : List Candidate} {p : Progress},
      (∀ c ∈ candidates, rules.Admits c.content → c.content ∈ p.seen) →
        a.answer (candidates.foldlM (takeCandidate rules owner) p) =
          (.ok { p with skipped := p.skipped + candidates.length }, a)
  | [], _, _ => rfl
  | c :: rest, p, h => by
    have hold : c.content ∈ p.seen ∨ ¬ rules.Admits c.content := by
      by_cases hadmits : rules.Admits c.content
      · exact .inl (h c List.mem_cons_self hadmits)
      · exact .inr hadmits
    have ih := @foldlM_of_old rules owner a rest { p with skipped := p.skipped + 1 }
      fun x hx => h x (List.mem_cons_of_mem _ hx)
    rw [List.foldlM_cons, Archive.answer_bind, takeCandidate_of_old hold]
    dsimp only
    rw [ih, List.length_cons, Nat.add_assoc, Nat.add_comm 1]

end Ingest

/-! ## 6. Nothing in the way -/

/-- **Nothing is in the way of so many new memories**: no fault is armed for making one, and the
ids that are drawn next are free. -/
structure Archive.ReadyFor (a : Archive) (draws : Nat) : Prop where
  gate : a.faults.passes? .insertMemory = none
  /-- There are as many ids. -/
  enough : draws ≤ 2 ^ 120
  free : ∀ n < draws, a.store.memory? ⟨Ident.generated (a.drawn + n)⟩ = none

namespace Archive.ReadyFor

variable {a : Archive} {draws : Nat}

theorem fewer (h : a.ReadyFor (draws + 1)) : a.ReadyFor draws :=
  ⟨h.gate, Nat.le_of_succ_le h.enough, fun n hn => h.free n (Nat.lt_succ_of_lt hn)⟩

/-- One id is drawn, and taken. -/
theorem draw (h : a.ReadyFor (draws + 1)) {m : Memory} (hm : m.id = ⟨Ident.generated a.drawn⟩)
    (clock : Clock) :
    ({ a with drawn := a.drawn + 1, clock := clock, store := a.store.adding [m] } :
      Archive).ReadyFor draws := by
  refine ⟨h.gate, Nat.le_of_succ_le h.enough, fun n hn => ?_⟩
  have hfree := h.free (n + 1) (Nat.succ_lt_succ hn)
  have hlater : Ident.generated a.drawn ≠ Ident.generated (a.drawn + 1 + n) :=
    Ident.generated_ne (by omega) (by have := h.enough; omega)
  rw [Nat.add_comm n 1, ← Nat.add_assoc] at hfree
  show (a.store.adding [m]).memory? _ = none
  rw [Store.memory?_adding_of_ne, hfree]
  intro m' hm'
  obtain rfl := List.mem_singleton.mp hm'
  rw [hm]
  exact fun he => hlater (congrArg MemoryId.text he)

end Archive.ReadyFor

namespace Ingest

variable {rules : MemoryRules} {owner : OwnerId}

theorem takeCandidate_of_ready {a : Archive} {draws : Nat} (h : a.ReadyFor (draws + 1))
    (p : Progress) (c : Candidate) :
    ∃ p' a', a.answer (takeCandidate rules owner p c) = (.ok p', a') ∧ a'.ReadyFor draws := by
  by_cases hold : c.content ∈ p.seen ∨ ¬ rules.Admits c.content
  · exact ⟨_, _, takeCandidate_of_old hold, h.fewer⟩
  · obtain ⟨hseen, hadmits⟩ := not_or.mp hold
    rw [not_not] at hadmits
    have hcreate := @MemoryRules.create_of_open rules owner a c.content c.kind hadmits h.gate
      (h.free 0 draws.succ_pos)
    have hdraw := h.draw (m := .fresh ⟨Ident.generated a.drawn⟩ owner c.content c.kind
      a.clock.next) rfl a.clock.advance
    rw [takeCandidate_of_new hseen hadmits, Archive.answer_bind, hcreate]
    exact ⟨_, _, rfl, hdraw⟩

theorem foldlM_of_ready : ∀ {candidates : List Candidate} {a : Archive} (p : Progress),
    a.ReadyFor candidates.length →
      ∃ p' a', a.answer (candidates.foldlM (takeCandidate rules owner) p) = (.ok p', a')
  | [], _, _, _ => ⟨_, _, rfl⟩
  | c :: rest, _, p, h => by
    obtain ⟨p₁, a₁, h₁, hready⟩ := takeCandidate_of_ready h p c
    rw [List.foldlM_cons, Archive.answer_bind, h₁]
    exact foldlM_of_ready p₁ hready

/-! ## 7. Transcripts -/

/-- What an extractor finds in a transcript, if it can be cut and none of its calls fails. -/
def found (c : Config) (extract : Extractor) (turns : List Turn) :
    Except CurationError (List Candidate) := do
  let chunks ← (Chunking.ofConfig c).chunks turns
  List.flatten <$> chunks.mapM extract

theorem found_ok {c : Config} {extract : Extractor} {turns : List Turn}
    {candidates : List Candidate} (h : found c extract turns = .ok candidates) :
    ∃ chunks found, (Chunking.ofConfig c).chunks turns = .ok chunks ∧
      chunks.mapM extract = .ok found ∧ found.flatten = candidates := by
  unfold Ingest.found at h
  cases hchunks : (Chunking.ofConfig c).chunks turns with
  | error e => rw [hchunks] at h; cases h
  | ok chunks =>
    rw [hchunks] at h
    change List.flatten <$> chunks.mapM extract = .ok candidates at h
    cases hmap : chunks.mapM extract with
    | error e => rw [hmap] at h; cases h
    | ok found => rw [hmap] at h; exact ⟨chunks, found, rfl, hmap, Except.ok.inj h⟩

/-- **Chunks do not matter**: what counts is what was found in them, one after the other. -/
theorem foldlM_takeChunk {extract : Extractor} : ∀ {chunks : List Chunk}
    {candidates : List (List Candidate)} (p : Progress), chunks.mapM extract = .ok candidates →
      chunks.foldlM (takeChunk rules owner extract) p =
        candidates.flatten.foldlM (takeCandidate rules owner) p
  | [], _, _, h => by
    cases h
    rfl
  | chunk :: chunks, candidates, p, h => by
    rw [List.mapM_cons] at h
    cases hfirst : extract chunk with
    | error e => rw [hfirst] at h; cases h
    | ok first =>
      cases hrest : chunks.mapM extract with
      | error e => rw [hfirst, hrest] at h; cases h
      | ok rest =>
        rw [hfirst, hrest] at h
        obtain rfl : first :: rest = candidates := Except.ok.inj h
        have htake : takeChunk rules owner extract p chunk =
            first.foldlM (takeCandidate rules owner) p := by
          unfold takeChunk
          rw [hfirst]
          rfl
        rw [List.foldlM_cons, List.flatten_cons, List.foldlM_append, htake]
        exact bind_congr fun p' => foldlM_takeChunk p' hrest

/-- What the loop begins with: the texts of the owner's live memories. -/
def start (s : Store) (owner : OwnerId) : Progress :=
  ⟨(s.list owner .liveAll).map (·.content), [], 0⟩

theorem taken_start (rules : MemoryRules) (s : Store) (owner : OwnerId) :
    Taken rules owner s [] [] (start s owner) s where
  store := Store.adding_nil.symm
  texts := rfl
  kinds := nofun
  owned := nofun
  created := rfl
  counted := rfl
  seen := fun _ => Store.mem_texts_list

variable {c : Config} {turns : List Turn} {extract : Extractor} {candidates : List Candidate}

/-- A transcript that cannot be cut is not taken in. -/
theorem answer_ingest_of_error {e : CurationError}
    (h : (Chunking.ofConfig c).chunks turns = .error e) (owner : OwnerId) (a : Archive) :
    a.answer (ingest c extract owner turns) = (.error e, a) := by
  unfold ingest
  rw [Archive.answer_bind, Archive.answer_liftExcept, h]

/-- **A transcript is taken in** by going through its candidates. -/
theorem answer_ingest {chunks : List Chunk} {found : List (List Candidate)}
    (hchunks : (Chunking.ofConfig c).chunks turns = .ok chunks)
    (hfound : chunks.mapM extract = .ok found) (owner : OwnerId)
    {a : Archive} (hlist : a.faults.passes? .listMemories ≠ some 0) :
    ∃ f, f.passes? .insertMemory = a.faults.passes? .insertMemory ∧
      a.answer (ingest c extract owner turns) =
        match ({ a with faults := f } : Archive).answer
          (found.flatten.foldlM (takeCandidate c.rules owner) (start a.store owner)) with
        | (.ok p, a') =>
          (.ok ⟨chunks.length, p.created, p.skipped⟩,
            { a' with counters := .extracted p.created.length a'.counters })
        | (.error e, a') => (.error e, a') := by
  obtain ⟨f, hothers, hanswer⟩ := Archive.listMemories_of_passes hlist owner .liveAll
  refine ⟨f, hothers .insertMemory nofun, ?_⟩
  rcases hfold : ({ a with faults := f } : Archive).answer
    (found.flatten.foldlM (takeCandidate c.rules owner) (start a.store owner)) with ⟨r, a'⟩
  unfold ingest
  rw [Archive.answer_bind, Archive.answer_liftExcept, hchunks]
  dsimp only
  rw [Archive.answer_bind, hanswer]
  dsimp only
  rw [Archive.answer_bind, foldlM_takeChunk _ hfound]
  rw [start] at hfold
  rw [hfold]
  cases r <;> rfl

/-- **A transcript that was taken in** was gone through to its end. -/
theorem ingest_ok (hfound : found c extract turns = .ok candidates) {owner : OwnerId}
    {a a' : Archive} {r : IngestReport}
    (hanswer : a.answer (ingest c extract owner turns) = (.ok r, a')) :
    ∃ made p, Taken c.rules owner a.store candidates made p a'.store ∧
      r.created = p.created ∧ r.skipped = p.skipped := by
  obtain ⟨chunks, found, hchunks, hmap, rfl⟩ := found_ok hfound
  obtain ⟨_, _, hcut, hrest⟩ := Archive.answer_bind_ok hanswer
  rw [Archive.answer_liftExcept] at hcut
  obtain rfl := (Prod.mk.inj hcut).2
  obtain ⟨_, _, hlist, -⟩ := Archive.answer_bind_ok hrest
  obtain ⟨f, -, h⟩ := answer_ingest hchunks hmap owner (Archive.passes_of_listMemories_ok hlist)
  rw [hanswer] at h
  rcases hfold : ({ a with faults := f } : Archive).answer
    (found.flatten.foldlM (takeCandidate c.rules owner) (start a.store owner)) with ⟨v, a₁⟩
  rw [hfold] at h
  cases v with
  | error e => cases h
  | ok p =>
    obtain ⟨hr, rfl⟩ := Prod.mk.inj h
    obtain rfl := Except.ok.inj hr
    have hstart : Taken c.rules owner a.store [] [] (start a.store owner)
      ({ a with faults := f } : Archive).store := taken_start _ _ _
    obtain ⟨made, htaken⟩ := hstart.run hfold
    exact ⟨made, p, htaken, rfl, rfl⟩

/-- **A transcript of what is remembered** makes nothing. -/
theorem ingest_of_remembered (hfound : found c extract turns = .ok candidates) {owner : OwnerId}
    {a : Archive} (hold : ∀ x ∈ candidates, c.rules.Admits x.content →
      a.store.Remembers owner x.content) (hlist : a.faults.passes? .listMemories ≠ some 0) :
    ∃ r a', a.answer (ingest c extract owner turns) = (.ok r, a') ∧
      r.created = [] ∧ r.skipped = candidates.length ∧ a'.store = a.store := by
  have hseen : ∀ x ∈ candidates, c.rules.Admits x.content →
      x.content ∈ (start a.store owner).seen := fun x hx hadmits =>
    Store.mem_texts_list.mpr (hold x hx hadmits)
  obtain ⟨chunks, found, hchunks, hmap, rfl⟩ := found_ok hfound
  obtain ⟨f, -, h⟩ := answer_ingest hchunks hmap owner hlist
  rw [foldlM_of_old hseen] at h
  exact ⟨_, _, h, rfl, Nat.zero_add _, rfl⟩

/-- **A transcript is taken in** while nothing is in the way. -/
theorem ingest_of_ready (hfound : found c extract turns = .ok candidates) (owner : OwnerId)
    {a : Archive} (hlist : a.faults.passes? .listMemories ≠ some 0)
    (hready : a.ReadyFor candidates.length) :
    ∃ r a', a.answer (ingest c extract owner turns) = (.ok r, a') := by
  obtain ⟨chunks, found, hchunks, hmap, rfl⟩ := found_ok hfound
  obtain ⟨f, hgate, h⟩ := answer_ingest hchunks hmap owner hlist
  have hready' : ({ a with faults := f } : Archive).ReadyFor found.flatten.length :=
    ⟨hgate.trans hready.gate, hready.enough, hready.free⟩
  obtain ⟨p, a₁, hfold⟩ :=
    @foldlM_of_ready c.rules owner found.flatten _ (start a.store owner) hready'
  rw [hfold] at h
  exact ⟨_, _, h⟩

/-- **A budget of less than half a word** cuts every transcript. -/
theorem cut_of_budget (h : c.extraction.chunkTokens < 2 ^ 63) (turns : List Turn) :
    ∃ chunks, (Chunking.ofConfig c).chunks turns = .ok chunks := by
  have hbudget : (Chunking.ofConfig c).budget.toNat = max c.extraction.chunkTokens 1 :=
    UInt64.toNat_ofNat_of_lt' (by rw [UInt64.size]; omega)
  obtain ⟨packed, hpack⟩ := Chunking.pack_of_sumsFit turns [] [] 0 rfl (Nat.zero_le _)
    (.of_budget (by rw [hbudget, UInt64.size]; omega))
  exact ⟨_, Chunking.chunks_of_pack hpack⟩

end Ingest

open Ingest in
/-- **Every new text becomes a memory once.**  What is taken in from a transcript is the new texts
among what was found, in the order in which they first came; the report accounts for every
candidate, the store only grows by the new memories, and everything admitted is remembered after.
So whoever finds the same candidates later finds nothing new.  It does succeed, if no fault is due
and the ids to come are free.

A transcript that cannot be cut has nothing found in it: with a budget of half a word or more, the
tokens of two turns may be no word together, and then the whole is broken off before the extractor
is called. -/
theorem ingest_makes_once (c : Config) (extract : Extractor) (owner : OwnerId)
    (turns : List Turn) (a : Archive) :
    (c.extraction.chunkTokens < 2 ^ 63 →
      ∃ chunks, (Chunking.ofConfig c).chunks turns = .ok chunks) ∧
    (∀ e, (Chunking.ofConfig c).chunks turns = .error e →
      a.answer (ingest c extract owner turns) = (.error e, a)) ∧
    ∀ candidates, found c extract turns = .ok candidates →
      (∀ r a', a.answer (ingest c extract owner turns) = (.ok r, a') →
        r.created.length + r.skipped = candidates.length ∧
        (∃ made : List Memory, a'.store = a.store.adding made ∧
          made.map (·.content) = a.store.newTexts c.rules owner candidates ∧
          made.map (·.id) = r.created ∧
          ∀ m ∈ made, m.owner = owner ∧ m.tombstoned = false ∧
            firstKind candidates m.content = some m.kind) ∧
        (∀ x ∈ candidates, c.rules.Admits x.content → a'.store.Remembers owner x.content) ∧
        ∀ turns' extract' (b : Archive), found c extract' turns' = .ok candidates →
          b.store = a'.store → b.faults.passes? .listMemories ≠ some 0 →
            ∃ r' b', b.answer (ingest c extract' owner turns') = (.ok r', b') ∧
              r'.created = [] ∧ r'.skipped = candidates.length ∧ b'.store = a'.store) ∧
      (a.faults.passes? .listMemories ≠ some 0 → a.ReadyFor candidates.length →
        ∃ r a', a.answer (ingest c extract owner turns) = (.ok r, a')) := by
  refine ⟨fun hbudget => cut_of_budget hbudget turns,
    fun e he => answer_ingest_of_error he owner a,
    fun candidates hfound => ⟨fun r a' hanswer => ?_, ingest_of_ready hfound owner⟩⟩
  obtain ⟨made, p, h, hcreated, hskipped⟩ := ingest_ok hfound hanswer
  have hremembered : ∀ x ∈ candidates, c.rules.Admits x.content →
      a'.store.Remembers owner x.content := fun x hx => h.remembers hx
  rw [hcreated, hskipped]
  refine ⟨h.counted, ⟨made, h.store, h.texts, h.created.symm, fun m hm => ?_⟩, hremembered, ?_⟩
  · exact ⟨(h.owned m hm).1, (h.owned m hm).2, h.kinds m hm⟩
  · intro turns' extract' b hfound' hstore hlist
    rw [← hstore] at hremembered ⊢
    exact ingest_of_remembered hfound' hremembered hlist

/-- Of a transcript in two chunks that repeats what is remembered, repeats itself, is blank and is
too long, one memory is made, and none the second time. -/
theorem ingest_makes_once_repeated :
    let c : Config := { Config.standard with
      session := { SessionConfig.standard with maxContentChars := 40 },
      extraction := { Config.standard.extraction with chunkTokens := 20 } }
    let echo : Extractor := fun chunk =>
      .ok ((chunk.turns.filter (·.role = "user")).map fun t => ⟨t.content, .core⟩)
    let turns : List Turn := [⟨"user", "likes rust"⟩, ⟨"assistant", "noted"⟩,
      ⟨"user", "lives in Porto"⟩, ⟨"user", "lives in Porto"⟩, ⟨"user", "   "⟩,
      ⟨"user", String.ofList (List.replicate 41 'x')⟩]
    let a : Archive := .around .inMemory
      ⟨[.fresh ⟨"m"⟩ ⟨"o"⟩ "likes rust" .core ⟨0, 0⟩], [], []⟩ (.steady ⟨1, 0⟩) 0
    ∃ candidates r a' r' b', Ingest.found c echo turns = .ok candidates ∧
      a.ReadyFor candidates.length ∧ a.answer (ingest c echo ⟨"o"⟩ turns) = (.ok r, a') ∧
      r.created.length = 1 ∧ r.skipped = 4 ∧
      a'.store.memories.map (·.content) = ["likes rust", "lives in Porto"] ∧
      (Archive.around .inMemory a'.store (.steady ⟨2, 0⟩) 1).answer
        (ingest c echo ⟨"o"⟩ turns) = (.ok r', b') ∧ r'.created = [] ∧ b'.store = a'.store := by
  intro c echo turns a
  let candidates : List Candidate := [⟨"likes rust", .core⟩, ⟨"lives in Porto", .core⟩,
    ⟨"lives in Porto", .core⟩, ⟨"   ", .core⟩, ⟨String.ofList (List.replicate 41 'x'), .core⟩]
  have hfound : Ingest.found c echo turns = .ok candidates := by decide +kernel
  have hready : a.ReadyFor candidates.length := ⟨rfl, by decide, by decide +kernel⟩
  obtain ⟨-, -, honce⟩ := ingest_makes_once c echo ⟨"o"⟩ turns a
  obtain ⟨hmade, hanswers⟩ := honce candidates hfound
  obtain ⟨r, a', hanswer⟩ := hanswers nofun hready
  obtain ⟨hcounted, ⟨made, hstore, htexts, hcreated, -⟩, -, hagain⟩ := hmade r a' hanswer
  obtain ⟨r', b', hanswer', hnone, -, hstore'⟩ := hagain turns echo
    (.around .inMemory a'.store (.steady ⟨2, 0⟩) 1) hfound rfl nofun
  have hnew : a.store.newTexts c.rules ⟨"o"⟩ candidates = ["lives in Porto"] := by decide +kernel
  rw [hnew] at htexts
  have hlength : r.created.length = 1 := by
    rw [← hcreated, List.length_map, ← List.length_map, htexts]
    rfl
  refine ⟨candidates, r, a', r', b', hfound, hready, hanswer, hlength, ?_, ?_, hanswer', hnone,
    hstore'⟩
  · have hfive : candidates.length = 5 := rfl
    omega
  · rw [hstore, Store.adding, List.map_append, htexts]
    rfl

end Curation
