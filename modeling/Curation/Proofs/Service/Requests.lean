/-
# Requests and what they may write

A request makes its writes through a few calls on the store, and what it writes is the sequence of
what they write.  So a relation between archives that composes, and that holds whenever nothing
was written, holds across a request as soon as it holds across the single changes that the request
makes (`Composes`).

A memory is made only of a text that the rules admit, whether it was asked for or found in a
transcript; the settings of an owner are the only other thing that a request without a session
writes.
-/
import Curation.Proofs.Service.Steps

namespace Curation

open Archive

/-- A relation between archives that composes, and that holds if nothing was written. -/
structure Archive.Composes (R : Archive → Archive → Prop) : Prop where
  quiet : ∀ {a a'}, Quiet a a' → R a a'
  trans : ∀ {a a₁ a'}, R a a₁ → R a₁ a' → R a a'

/-- A call across which a relation holds, whatever it answers. -/
def Archive.Across {ε α : Type} (R : Archive → Archive → Prop)
    (x : ExceptT ε (StateM Archive) α) : Prop :=
  ∀ a, R a (a.answer x).2

namespace Archive.Composes

variable {ε α β : Type} {R : Archive → Archive → Prop}

/-! ## 1. Parts of a call -/

theorem bind (hR : Composes R) {x : ExceptT ε (StateM Archive) α}
    {f : α → ExceptT ε (StateM Archive) β} (hx : Across R x) (hf : ∀ v, Across R (f v)) :
    Across R (x >>= f) := by
  intro a
  have h := hx a
  rw [answer_bind]
  rcases hr : a.answer x with ⟨r, a₁⟩
  rw [hr] at h
  cases r with
  | ok v => exact hR.trans h (hf v a₁)
  | error e => exact h

theorem reads (hR : Composes R) {x : CurationM α} (hx : Reads x) : Across R x :=
  fun a => hR.quiet (hx a).1.quiet

theorem lift (hR : Composes R) {x : StateM Archive α} (hx : ∀ a, Quiet a (x.run a).2) :
    Across R (liftM x : CurationM α) :=
  fun a => hR.quiet (hx a)

theorem liftExcept (hR : Composes R) (x : Except ε α) :
    Across R (liftM x : ExceptT ε (StateM Archive) α) := by
  intro a
  rw [answer_liftExcept]
  exact hR.quiet ⟨rfl, rfl⟩

theorem ofStore {x : StoreM α} (hx : Across R x) : Across R (liftM x : CurationM α) := by
  intro a
  rw [answer_ofStore]
  exact hx a

theorem foldlM (hR : Composes R) {f : β → α → CurationM β} (hf : ∀ b x, Across R (f b x)) :
    ∀ (xs : List α) (b : β), Across R (xs.foldlM f b)
  | [], b => hR.reads (reads_pure b)
  | x :: xs, b => by
    rw [List.foldlM_cons]
    exact hR.bind (hf b x) fun b' => hR.foldlM hf xs b'

theorem gate (hR : Composes R) (call : StoreCall) : Across R (Archive.gate call) := by
  intro a
  obtain ⟨r, fl, h⟩ := answer_gate a call
  rw [h]
  exact hR.quiet ⟨rfl, rfl⟩

/-- **A change of the store**, made or refused. -/
theorem change (hR : Composes R) {f : Backend → Store → Except StorageError Store}
    (hf : ∀ (a : Archive) σ, f a.backend a.store = .ok σ → R a { a with store := σ }) :
    Across R (Archive.change f) := by
  intro a
  rw [answer_change]
  cases h : f a.backend a.store with
  | error e => exact hR.quiet ⟨rfl, rfl⟩
  | ok σ => exact hf a σ h

theorem pure (hR : Composes R) (v : α) : Across R (Pure.pure v : ExceptT ε (StateM Archive) α) :=
  fun _ => hR.quiet ⟨rfl, rfl⟩

/-- A look at the store behind its gate. -/
theorem gatedRead (hR : Composes R) (call : StoreCall) {f : Archive → α}
    (hf : ∀ a fl, f { a with faults := fl } = f a) :
    Across R (do Archive.gate call; return f (← get) : StoreM α) := by
  intro a
  obtain ⟨_, _, h, hst, -⟩ := answer_gated call hf a
  rw [h]
  exact hR.quiet hst.quiet

/-! ## 2. Calls of the store -/

theorem getMemory (hR : Composes R) (id : MemoryId) : Across R (Archive.getMemory id) := by
  intro a
  obtain ⟨_, _, h, hst, -⟩ := answer_getMemory a id
  rw [h]
  exact hR.quiet hst.quiet

theorem append (hR : Composes R) {e : AuditEntry}
    (he : ∀ (a : Archive) σ, a.store.append a.backend e = .ok σ → R a { a with store := σ }) :
    Across R (Archive.append e) :=
  hR.bind (hR.gate _) fun _ => hR.change he

theorem insertMemory (hR : Composes R) {m : Memory}
    (hm : ∀ (a : Archive) σ, a.store.insert m = .ok σ → R a { a with store := σ }) :
    Across R (Archive.insertMemory m) :=
  hR.bind (hR.gate _) fun _ => hR.bind (hR.change hm) fun _ => hR.pure _

theorem setThreshold (hR : Composes R) {owner : OwnerId} {threshold : Threshold}
    (hs : ∀ a σ,
      a.store.configure a.backend owner (fun s => { s with threshold := some threshold }) = .ok σ →
        R a { a with store := σ }) : Across R (Archive.setThreshold owner threshold) :=
  hR.bind (hR.gate _) fun _ => hR.bind (hR.change hs) fun _ _ => hR.quiet ⟨rfl, rfl⟩

/-! ## 3. Requests -/

/-- **A memory is made** of a text that the rules admit. -/
theorem create (hR : Composes R) {rules : MemoryRules} {owner : OwnerId} {content : String}
    {kind : MemoryKind}
    (hm : rules.validate content = .ok () → ∀ id t a σ,
      a.store.insert (.fresh id owner content kind t) = .ok σ → R a { a with store := σ }) :
    Across R (rules.create owner content kind) := by
  unfold MemoryRules.create
  intro a
  rw [answer_bind, answer_liftExcept]
  rcases hv : rules.validate content with e | v
  · exact hR.quiet ⟨rfl, rfl⟩
  · dsimp only
    rw [answer_bind, answer_lift, run_newMemory]
    dsimp only
    generalize ha₁ : ({ a with drawn := _, clock := _ } : Archive) = a₁
    have hq : Quiet a a₁ := by
      subst ha₁
      exact ⟨rfl, rfl⟩
    exact hR.trans (hR.quiet hq) (ofStore (hR.insertMemory (hm hv _ _)) a₁)

/-- **A transcript is taken in**: memories are made of it, and nothing else is written. -/
theorem ingest (hR : Composes R) {c : Config} {owner : OwnerId}
    (hm : ∀ content kind, c.rules.validate content = .ok () → ∀ id t a σ,
      a.store.insert (.fresh id owner content kind t) = .ok σ → R a { a with store := σ })
    (extract : Extractor) (turns : List Turn) : Across R (ingest c extract owner turns) := by
  have hcandidate : ∀ p candidate, Across R (Ingest.takeCandidate c.rules owner p candidate) := by
    intro p candidate
    unfold Ingest.takeCandidate
    split
    · exact hR.reads (reads_pure _)
    · split
      · exact hR.reads (reads_pure _)
      · exact hR.bind (hR.create (hm _ _)) fun m => hR.reads (reads_pure _)
  have hchunk : ∀ p chunk, Across R (Ingest.takeChunk c.rules owner extract p chunk) :=
    fun p chunk => hR.bind (hR.liftExcept _) fun candidates =>
      hR.foldlM hcandidate candidates p
  unfold Curation.ingest
  exact hR.bind (hR.liftExcept _) fun chunks =>
    hR.bind (hR.reads (reads_listMemories _ _)) fun live =>
      hR.bind (hR.foldlM hchunk _ _) fun p =>
        hR.bind (hR.lift fun a => ⟨rfl, rfl⟩) fun _ => hR.reads (reads_pure _)

/-- **The threshold of an owner is set**, if it can be one. -/
theorem chooseThreshold (hR : Composes R) {owner : OwnerId}
    (hs : ∀ threshold a σ, a.store.configure a.backend owner
      (fun s => { s with threshold := some threshold }) = .ok σ → R a { a with store := σ })
    (value : Binary64) : Across R (Archive.chooseThreshold owner value) := by
  unfold Archive.chooseThreshold
  split
  · exact hR.reads (reads_throw nofun)
  · exact ofStore (hR.setThreshold (hs _))

end Archive.Composes
end Curation
