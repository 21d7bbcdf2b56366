/-
# Two backends, one store

A store in memory and a database are served the same calls, from empty stores on.  They agree on
every call, whatever is in it and whatever was refused before: both accept it, answer alike and look
alike after it, or both refuse it for a reason of one kind and stay as they were.

There is one exception.  In memory settings are kept under any owner, the empty one among them; the
database names the row by its owner, and there is no row without a name.  So the database refuses
what sets the threshold of the empty owner or stamps it, and `backends_agree_iff` says that there is
no other exception.
-/
import Curation.Proofs.Store.Alike
import Curation.Proofs.Store.Transaction

namespace Curation

/-! ## 1. Results that agree -/

/-- Both accepted, with results that belong together, or both refused for one reason. -/
inductive Agreeing {α β : Type} (R : α → β → Prop) :
    Except StorageError α → Except StorageError β → Prop
  | accepted {v : α} {w : β} (h : R v w) : Agreeing R (.ok v) (.ok w)
  | refused (e : StorageError) : Agreeing R (.error e) (.error e)

theorem Agreeing.bind {α β γ η : Type} {R : α → β → Prop} {S : γ → η → Prop}
    {x : Except StorageError α} {y : Except StorageError β} {f : α → Except StorageError γ}
    {g : β → Except StorageError η} (h : Agreeing R x y)
    (hfg : ∀ v w, R v w → Agreeing S (f v) (g w)) : Agreeing S (x >>= f) (y >>= g) := by
  cases h with
  | accepted h => exact hfg _ _ h
  | refused e => exact .refused e

/-! ## 2. What is fair -/

/-- Entries of different names and of different places. -/
def AuditEntry.Apart (e f : AuditEntry) : Prop :=
  e.id ≠ f.id ∧ ¬(e.session = f.session ∧ e.seq = f.seq)

instance (e f : AuditEntry) : Decidable (e.Apart f) := inferInstanceAs (Decidable (_ ∧ _))

/-- **Ops that are fair** on a store: their entries are new, and the live memories that they insert
carry no time of a tombstone. -/
structure Store.Fair (σ : Store) (ops : List WriteOp) : Prop where
  entries : (σ.trail ++ ops.filterMap WriteOp.appended?).Pairwise AuditEntry.Apart
  live : ∀ m ∈ ops.filterMap WriteOp.inserted?, m.tombstoned = false → m.tombstonedAt = none

instance (σ : Store) (ops : List WriteOp) : Decidable (σ.Fair ops) :=
  decidable_of_iff ((σ.trail ++ ops.filterMap WriteOp.appended?).Pairwise AuditEntry.Apart ∧
    ∀ m ∈ ops.filterMap WriteOp.inserted?, m.tombstoned = false → m.tombstonedAt = none)
    ⟨fun ⟨he, hl⟩ => ⟨he, hl⟩, fun h => ⟨h.entries, h.live⟩⟩

/-- The owner whose settings an op changes. -/
def WriteOp.configured? : WriteOp → Option OwnerId
  | .stampRefined owner _ => some owner
  | _ => none

/-- The owners whose settings a call changes. -/
def StoreRequest.configured : StoreRequest → List OwnerId
  | .setThreshold owner _ => [owner]
  | r => r.ops.filterMap WriteOp.configured?

/-! ## 3. Ops -/

/-- **Flipping a tombstone** keeps memories alike.  The database clears the time of a tombstone that
is not set, but there is none on a live memory. -/
theorem Memory.Alongside.setTombstone {m n : Memory} (h : m.Alongside n) (t t' : Instant)
    (v : Bool) : (m.setTombstone .inMemory t v).Alongside (n.setTombstone .database t' v) := by
  obtain ⟨hmn, hlive⟩ := h
  simp only [Memory.Alike, Memory.outline, Prod.mk.injEq, Memory.mk.injEq] at hmn
  constructor
  · cases hm : m.tombstoned <;> cases v <;>
      simp_all [Memory.Alike, Memory.outline, Memory.setTombstone]
  · cases hm : m.tombstoned <;> cases v <;> simp_all [Memory.setTombstone]

/-- Any other change that is made of both keeps them alike. -/
theorem Memory.Alongside.setContent {m n : Memory} (h : m.Alongside n) (text : String) :
    Memory.Alongside { m with content := text } { n with content := text } := by
  refine ⟨?_, h.live⟩
  have hmn := h.alike
  simp_all [Memory.Alike, Memory.outline]

theorem Memory.Alongside.setConstitutional {m n : Memory} (h : m.Alongside n) (v : Bool) :
    Memory.Alongside { m with constitutional := v } { n with constitutional := v } := by
  refine ⟨?_, h.live⟩
  have hmn := h.alike
  simp_all [Memory.Alike, Memory.outline]

namespace Store

variable {σ δ : Store} {t : Instant}

theorem Fair.fresh {e : AuditEntry} {ops : List WriteOp} (h : σ.Fair (.appendAudit e :: ops)) :
    ∀ f ∈ σ.trail, f.Apart e :=
  fun f hf => (List.pairwise_append.mp h.entries).2.2 f hf e List.mem_cons_self

/-- What is fair stays so when the first op has been applied. -/
theorem Fair.tail {op : WriteOp} {ops : List WriteOp} {σ' : Store}
    (h : σ.Fair (op :: ops)) (hop : σ.apply .inMemory t op = .ok σ') : σ'.Fair ops := by
  refine ⟨?_, fun m hm => h.live m (((List.sublist_cons_self op ops).filterMap _).subset hm)⟩
  rw [(apply_ok hop).trail]
  have hentries := h.entries
  cases ha : op.appended? with
  | none => simpa [ha] using hentries
  | some e => simpa [ha, AuditEntry.kept, Json.kept] using hentries

namespace Abreast

theorem insert (h : σ.Abreast δ) {m : Memory} (hm : m.tombstoned = false → m.tombstonedAt = none) :
    Agreeing Abreast (σ.insert m) (δ.insert m) := by
  unfold Store.insert
  rw [h.isSome_memory?]
  split
  · exact .refused _
  · exact .accepted ⟨List.rel_append h.memories (.cons ⟨rfl, hm⟩ .nil), h.trail, h.settings⟩

/-- **Changes that fit each other** agree. -/
theorem change (h : σ.Abreast δ) (id : MemoryId) {f g : Memory → Memory}
    (hfg : ∀ m n, m.Alongside n → (f m).Alongside (g n)) :
    Agreeing Abreast (σ.change id f) (δ.change id g) := by
  unfold Store.change
  rw [h.isSome_memory?]
  split
  · refine .accepted ⟨List.rel_map (fun m n hmn => ?_) h.memories, h.trail, h.settings⟩
    have hid : m.id = n.id := congrArg (·.1.id) hmn.alike
    rw [hid]
    split
    · exact hfg m n hmn
    · exact hmn
  · exact .refused _

/-- **An entry that is new** is appended by both. -/
theorem append (h : σ.Abreast δ) {e : AuditEntry} (he : ∀ f ∈ σ.trail, f.Apart e) :
    Agreeing Abreast (σ.append .inMemory e) (δ.append .database e) := by
  have halike : ∀ f g : AuditEntry, f.Matches g →
      (f.id == e.id || (f.session == e.session && f.seq == e.seq)) =
        (g.id == e.id || (g.session == e.session && g.seq == e.seq)) := by
    intro f g hfg
    rw [show f.id = g.id from congrArg (·.id) hfg.rest,
      show f.session = g.session from congrArg (·.session) hfg.rest,
      show f.seq = g.seq from congrArg (·.seq) hfg.rest]
  have hany : (δ.trail.any fun f => f.id == e.id || (f.session == e.session && f.seq == e.seq)) =
      false := by
    rw [← any_eq_of_forall₂ halike h.trail, List.any_eq_false]
    intro f hf
    obtain ⟨hid, hplace⟩ := he f hf
    simpa [hid] using hplace
  unfold Store.append
  simp only [hany, Bool.false_eq_true, if_false]
  exact .accepted ⟨h.memories, List.rel_append h.trail (.cons e.matches_kept .nil), h.settings⟩

/-- **The settings of an owner with a name** are changed by both. -/
theorem configure (h : σ.Abreast δ) {owner : OwnerId} (ho : owner.text ≠ "")
    (f : OwnerSettings → OwnerSettings) :
    Agreeing Abreast (σ.configure .inMemory owner f) (δ.configure .database owner f) := by
  unfold Store.configure
  simp only [ho, and_false, if_false, h.settings]
  split
  · exact .accepted ⟨h.memories, h.trail, rfl⟩
  · exact .accepted ⟨h.memories, h.trail, rfl⟩

/-- **Ops that name an owner** are applied by both. -/
theorem apply (h : σ.Abreast δ) (t t' : Instant) {op : WriteOp} {ops : List WriteOp}
    (hfair : σ.Fair (op :: ops)) (hnamed : op.configured? ≠ some ⟨""⟩) :
    Agreeing Abreast (σ.apply .inMemory t op) (δ.apply .database t' op) := by
  cases op with
  | insertMemory m => exact h.insert (hfair.live m List.mem_cons_self)
  | setTombstone id v => exact h.change id fun _ _ hmn => hmn.setTombstone t t' v
  | setContent id text => exact h.change id fun _ _ hmn => hmn.setContent text
  | setConstitutional id v => exact h.change id fun _ _ hmn => hmn.setConstitutional v
  | appendAudit e => exact h.append hfair.fresh
  | stampRefined owner time =>
    refine h.configure (fun ho => hnamed ?_) _
    rw [WriteOp.configured?, ← ho]

/-- **Batches that name their owners** are applied by both. -/
theorem applyFrom (h : σ.Abreast δ) (t t' : Instant) {ops : List WriteOp} (hfair : σ.Fair ops)
    (hnamed : ⟨""⟩ ∉ ops.filterMap WriteOp.configured?) (i : Nat) :
    Agreeing Abreast (Store.applyFrom .inMemory t none i ops σ)
      (Store.applyFrom .database t' none i ops δ) := by
  induction ops generalizing i σ δ with
  | nil => exact .accepted h
  | cons op ops ih =>
    have hop : op.configured? ≠ some ⟨""⟩ := fun ho =>
      hnamed (List.mem_filterMap.mpr ⟨op, List.mem_cons_self, ho⟩)
    have hops : ⟨""⟩ ∉ ops.filterMap WriteOp.configured? := fun ho =>
      hnamed (((List.sublist_cons_self op ops).filterMap _).subset ho)
    have happly := h.apply t t' hfair hop
    rw [Store.applyFrom_cons, Store.applyFrom_cons]
    generalize hσ : σ.apply .inMemory t op = x at happly ⊢
    generalize δ.apply .database t' op = y at happly ⊢
    cases happly with
    | accepted h₁ => exact ih h₁ (hfair.tail hσ) hops (i + 1)
    | refused e => exact .refused _

end Abreast

/-- In memory any owner has settings. -/
theorem configure_inMemory (σ : Store) (owner : OwnerId) (f : OwnerSettings → OwnerSettings) :
    ∃ σ', σ.configure .inMemory owner f = .ok σ' := by
  unfold configure
  rw [if_neg (fun h => nomatch h.1)]
  split
  · exact ⟨_, rfl⟩
  · exact ⟨_, rfl⟩

/-- The database refuses a batch that stamps the empty owner, wherever in the batch it does. -/
theorem applyBatch_unnamed (δ : Store) (t' : Instant) {ops : List WriteOp}
    (hnamed : ⟨""⟩ ∈ ops.filterMap WriteOp.configured?) :
    ∃ e, δ.applyBatch .database t' none ops = .error e := by
  rcases hb : δ.applyBatch .database t' none ops with e | δ'
  · exact ⟨e, rfl⟩
  · obtain ⟨op, hop, ho⟩ := List.mem_filterMap.mp hnamed
    obtain ⟨before, after, rfl⟩ := List.append_of_mem hop
    obtain ⟨δ₁, -, hw⟩ := (written_of_applyBatch hb).split
    cases hw with
    | cons h₁ _ =>
      cases op with
      | stampRefined owner time =>
        cases ho
        cases h₁
      | insertMemory _ | setTombstone _ _ | setContent _ _ | setConstitutional _ _
      | appendAudit _ => cases ho

/-- A batch is only ever refused as a whole. -/
theorem kind_of_applyFrom {b : Backend} {e : StorageError} :
    ∀ {ops : List WriteOp} {i : Nat} {σ : Store}, Store.applyFrom b t none i ops σ = .error e →
      e.kind = "batch_aborted"
  | op :: ops, i, σ, h => by
    rw [applyFrom_cons] at h
    rcases hop : σ.apply b t op with f | σ₁
    · rw [hop] at h
      cases h
      rfl
    · rw [hop] at h
      exact kind_of_applyFrom h

end Store

/-! ## 4. Calls -/

/-- **Answers that look alike.** -/
inductive StoreReply.Alike : StoreReply → StoreReply → Prop
  | done : Alike .done .done
  | memory {m n : Memory} (h : m.Alike n) : Alike (.memory m) (.memory n)
  | memories {ms ns : List Memory} (h : Memory.ListedAlike ms ns) :
      Alike (.memories ms) (.memories ns)
  | entries {es fs : List AuditEntry} (h : List.Forall₂ AuditEntry.Matches es fs) :
      Alike (.entries es) (.entries fs)
  | settings (s : OwnerSettings) : Alike (.settings s) (.settings s)

namespace StoreRequest

variable {σ δ : Store}

/-- **A call that names its owners** has the same effect on both. -/
theorem effect_agrees (r : StoreRequest) (t t' : Instant) (h : σ.Abreast δ)
    (hfair : σ.Fair r.ops) (hnamed : ⟨""⟩ ∉ r.configured) :
    Agreeing (fun x y => x.1.Alike y.1 ∧ x.2.Abreast y.2) (r.effect .inMemory t σ)
      (r.effect .database t' δ) := by
  cases r with
  | insertMemory m =>
    exact (h.insert (hfair.live m List.mem_cons_self)).bind fun _ _ h' =>
      .accepted ⟨.memory rfl, h'⟩
  | getMemory id =>
    have hmn := h.memory? id
    simp only [effect]
    generalize σ.memory? id = x at hmn ⊢
    generalize δ.memory? id = y at hmn ⊢
    cases x with
    | none =>
      cases y with
      | none => exact .refused _
      | some n => cases hmn
    | some m =>
      cases y with
      | none => cases hmn
      | some n => exact .accepted ⟨.memory (Option.some.inj hmn), h⟩
  | listMemories owner filter =>
    exact .accepted ⟨.memories (h.alike.listing owner filter (.refl _) (δ.list_inOrder _ _)), h⟩
  | append e => exact (h.append hfair.fresh).bind fun _ _ h' => .accepted ⟨.done, h'⟩
  | forSession session => exact .accepted ⟨.entries (h.session session), h⟩
  | ownerSettings owner =>
    refine .accepted ⟨?_, h⟩
    rw [h.alike.settings owner]
    exact .settings _
  | setThreshold owner threshold =>
    have ho : owner.text ≠ "" := fun ho => hnamed (List.mem_singleton.mpr (by rw [← ho]))
    refine (h.configure ho _).bind fun σ' δ' h' => .accepted ⟨?_, h'⟩
    rw [h'.alike.settings owner]
    exact .settings _
  | applyBatch ops =>
    exact (h.applyFrom t t' hfair hnamed 0).bind fun _ _ h' => .accepted ⟨.done, h'⟩

/-- **A call that changes the settings of the empty owner** is refused by the database, and if it is
refused in memory, for a reason of the same kind. -/
theorem effect_unnamed (r : StoreRequest) (σ δ : Store) (t t' : Instant)
    (hnamed : ⟨""⟩ ∈ r.configured) :
    ∃ e, r.effect .database t' δ = .error e ∧
      ∀ f, r.effect .inMemory t σ = .error f → f.kind = e.kind := by
  cases r with
  | setThreshold owner threshold =>
    obtain rfl := List.mem_singleton.mp hnamed
    refine ⟨_, rfl, fun f hf => ?_⟩
    obtain ⟨σ', hσ'⟩ := σ.configure_inMemory ⟨""⟩ fun s => { s with threshold := some threshold }
    rw [effect, hσ'] at hf
    cases hf
  | applyBatch ops =>
    have hops : ⟨""⟩ ∈ ops.filterMap WriteOp.configured? := hnamed
    obtain ⟨e, he⟩ := Store.applyBatch_unnamed δ t' hops
    refine ⟨e, ?_, fun f hf => ?_⟩
    · rw [effect, he]
      rfl
    · rcases hσ : σ.applyBatch .inMemory t none ops with f' | σ'
      · rw [effect, hσ] at hf
        cases hf
        rw [Store.kind_of_applyFrom hσ, Store.kind_of_applyFrom he]
      · rw [effect, hσ] at hf
        cases hf
  | insertMemory _ | append _ | getMemory _ | listMemories _ _ | forSession _ | ownerSettings _ =>
    cases hnamed

end StoreRequest

/-! ## 5. Archives -/

namespace Archive

/-- **Two archives agree on a call.**  Both accept it, answer alike and look alike after it, or both
refuse it for a reason of one kind and keep the stores that they had.  The second one does what the
script of the call does to its tables. -/
inductive AgreeOn (r : StoreRequest) (a b : Archive) : Prop
  | accepted {v w : StoreReply} {a' b' : Archive} (ha : a.answer r.serve = (.ok v, a'))
      (hb : b.answer r.serve = (.ok w, b')) (hreply : v.Alike w)
      (hstore : a'.store.Alike b'.store)
      (hscript : Statement.run b.clock.next r.script b.store = .ok b'.store) : AgreeOn r a b
  | refused {e f g : StorageError} {a' b' : Archive} (ha : a.answer r.serve = (.error e, a'))
      (hb : b.answer r.serve = (.error f, b')) (hkind : e.kind = f.kind)
      (hstore : a'.store = a.store) (hstore' : b'.store = b.store)
      (hscript : Statement.run b.clock.next r.script b.store = .error g) : AgreeOn r a b

theorem AgreeOn.isOk_eq {r : StoreRequest} {a b : Archive} (h : AgreeOn r a b) :
    (a.answer r.serve).1.isOk = (b.answer r.serve).1.isOk := by
  cases h with
  | accepted ha hb _ _ _ => rw [ha, hb]; rfl
  | refused ha hb _ _ _ _ => rw [ha, hb]; rfl

/-- The archives agree on each of some calls that are served one after the other. -/
def Agree (a b : Archive) : List StoreRequest → Prop
  | [] => True
  | r :: rs => AgreeOn r a b ∧ Agree (a.answer r.serve).2 (b.answer r.serve).2 rs

/-- Each of the calls is fair when it is made. -/
def Fair (a : Archive) : List StoreRequest → Prop
  | [] => True
  | r :: rs => a.store.Fair r.ops ∧ Fair (a.answer r.serve).2 rs

instance decidableFair : ∀ (a : Archive) (rs : List StoreRequest), Decidable (a.Fair rs)
  | _, [] => .isTrue trivial
  | a, r :: rs =>
    have := decidableFair (a.answer r.serve).2 rs
    inferInstanceAs (Decidable (_ ∧ _))

/-- None of the calls is accepted that changes the settings of the empty owner. -/
def Names (a : Archive) : List StoreRequest → Prop
  | [] => True
  | r :: rs => (⟨""⟩ ∈ r.configured → (a.answer r.serve).1.isOk = false) ∧
      Names (a.answer r.serve).2 rs

instance decidableNames : ∀ (a : Archive) (rs : List StoreRequest), Decidable (a.Names rs)
  | _, [] => .isTrue trivial
  | a, r :: rs =>
    have := decidableNames (a.answer r.serve).2 rs
    inferInstanceAs (Decidable (_ ∧ _))

/-- An archive in memory and one in a database, without faults, whose stores are abreast. -/
structure Abreast (a b : Archive) : Prop where
  inMemory : a.backend = .inMemory
  database : b.backend = .database
  steady : a.faults = .none
  steady' : b.faults = .none
  store : a.store.Abreast b.store

namespace Abreast

variable {a b : Archive} {r : StoreRequest}

/-- Both accept the call. -/
theorem accepted (h : Abreast a b) {v w : StoreReply} {σ δ : Store}
    (hx : r.effect .inMemory a.clock.next a.store = .ok (v, σ))
    (hy : r.effect .database b.clock.next b.store = .ok (w, δ)) (hreply : v.Alike w)
    (hstore : σ.Abreast δ) :
    AgreeOn r a b ∧ Abreast (a.answer r.serve).2 (b.answer r.serve).2 := by
  obtain ⟨clock, handed, ha⟩ := r.answer_serve h.steady
  obtain ⟨clock', handed', hb⟩ := r.answer_serve h.steady'
  rw [h.inMemory, hx] at ha
  rw [h.database, hy] at hb
  refine ⟨.accepted ha hb hreply hstore.alike (Statement.run_of_effect_ok hy), ?_⟩
  rw [ha, hb]
  exact ⟨h.inMemory, h.database, h.steady, h.steady', hstore⟩

/-- Both refuse the call. -/
theorem refused (h : Abreast a b) {e f : StorageError}
    (hx : r.effect .inMemory a.clock.next a.store = .error e)
    (hy : r.effect .database b.clock.next b.store = .error f) (hkind : e.kind = f.kind) :
    AgreeOn r a b ∧ Abreast (a.answer r.serve).2 (b.answer r.serve).2 := by
  obtain ⟨clock, handed, ha⟩ := r.answer_serve h.steady
  obtain ⟨clock', handed', hb⟩ := r.answer_serve h.steady'
  rw [h.inMemory, hx] at ha
  rw [h.database, hy] at hb
  obtain ⟨g, hg⟩ := Statement.run_of_effect_error hy
  refine ⟨.refused ha hb hkind rfl rfl hg, ?_⟩
  rw [ha, hb]
  exact ⟨h.inMemory, h.database, h.steady, h.steady', h.store⟩

/-- **One call**: archives abreast agree on it unless it changes the settings of the empty owner and
is accepted in memory, and if they agree they stay abreast. -/
theorem step (h : Abreast a b) (hfair : a.store.Fair r.ops) :
    (AgreeOn r a b ↔ (⟨""⟩ ∈ r.configured → (a.answer r.serve).1.isOk = false)) ∧
      (AgreeOn r a b → Abreast (a.answer r.serve).2 (b.answer r.serve).2) := by
  have hok := r.isOk_answer h.steady
  have hok' := r.isOk_answer h.steady'
  rw [h.inMemory] at hok
  rw [h.database] at hok'
  by_cases hnamed : ⟨""⟩ ∈ r.configured
  · obtain ⟨f, hy, hkind⟩ := r.effect_unnamed a.store b.store a.clock.next b.clock.next hnamed
    rw [hy] at hok'
    rcases hx : r.effect .inMemory a.clock.next a.store with e | ⟨v, σ⟩
    · obtain ⟨hagree, habreast⟩ := h.refused hx hy (hkind e hx)
      rw [hx] at hok
      exact ⟨iff_of_true hagree fun _ => hok, fun _ => habreast⟩
    · rw [hx] at hok
      have hnot : ¬ AgreeOn r a b := fun hagree => by
        have hsame : true = false := hok.symm.trans (hagree.isOk_eq.trans hok')
        cases hsame
      refine ⟨iff_of_false hnot fun hn => ?_, fun hagree => absurd hagree hnot⟩
      have hrefused : true = false := hok.symm.trans (hn hnamed)
      cases hrefused
  · have heffect := r.effect_agrees a.clock.next b.clock.next h.store hfair hnamed
    generalize hx : r.effect .inMemory a.clock.next a.store = x at heffect
    generalize hy : r.effect .database b.clock.next b.store = y at heffect
    have hboth : AgreeOn r a b ∧ Abreast (a.answer r.serve).2 (b.answer r.serve).2 := by
      cases heffect with
      | accepted hvw => exact h.accepted hx hy hvw.1 hvw.2
      | refused e => exact h.refused hx hy rfl
    exact ⟨iff_of_true hboth.1 fun hn => absurd hn hnamed, fun _ => hboth.2⟩

end Abreast

/-- **The backends agree but for the empty owner.**  From empty stores on, an archive in memory and
one in a database are served the same calls, whose entries are new and whose live memories carry no
time of a tombstone.  They agree on all of them exactly if none is accepted in memory that sets the
threshold of the empty owner or stamps it. -/
theorem backends_agree_iff {a b : Archive} {rs : List StoreRequest} (ha : a.backend = .inMemory)
    (hb : b.backend = .database) (hsteady : a.faults = .none) (hsteady' : b.faults = .none)
    (hempty : a.store = .empty) (hempty' : b.store = .empty) (hfair : a.Fair rs) :
    a.Agree b rs ↔ a.Names rs := by
  have h : Abreast a b := ⟨ha, hb, hsteady, hsteady', by
    rw [hempty, hempty']
    exact .empty⟩
  clear ha hb hsteady hsteady' hempty hempty'
  induction rs generalizing a b with
  | nil => exact .rfl
  | cons r rs ih =>
    obtain ⟨hagree, habreast⟩ := h.step hfair.1
    constructor
    · exact fun ⟨hr, hrs⟩ => ⟨hagree.mp hr, (ih hfair.2 (habreast hr)).mp hrs⟩
    · exact fun ⟨hr, hrs⟩ => ⟨hagree.mpr hr, (ih hfair.2 (habreast (hagree.mpr hr))).mpr hrs⟩

/-- A memory, an entry whose payload has a null member, a batch that is refused halfway and one that
is not; and then a threshold for the empty owner. -/
theorem backends_agree_iff_unnamed :
    ∃ (a b : Archive) (rs : List StoreRequest), a.backend = .inMemory ∧ b.backend = .database ∧
      a.Fair rs ∧ a.Agree b rs ∧ ¬ a.Agree b (rs ++ [.setThreshold ⟨""⟩ .standard]) := by
  let a : Archive := .around .inMemory .empty (.steady ⟨0, 0⟩) 0
  let b : Archive := .around .database .empty (.steady ⟨5, 0⟩) 0
  let payload : Json := .obj [("note", .str "text"), ("after", .null)]
  let entry (name : String) (seq : Nat) : AuditEntry :=
    .make ⟨name⟩ ⟨1, 0⟩ ⟨"s"⟩ ⟨"o"⟩ seq .delete [⟨"m"⟩] payload
  let rs : List StoreRequest := [
    .insertMemory (.fresh ⟨"m"⟩ ⟨"o"⟩ "note" .core ⟨0, 0⟩),
    .append (entry "first" 1),
    .applyBatch [.setTombstone ⟨"m"⟩ true, .setContent ⟨"n"⟩ "other"],
    .applyBatch [.setTombstone ⟨"m"⟩ true, .appendAudit (entry "second" 2),
      .stampRefined ⟨"o"⟩ ⟨2, 0⟩],
    .forSession ⟨"s"⟩]
  have hfair : a.Fair rs := by decide +kernel
  have hfair' : a.Fair (rs ++ [.setThreshold ⟨""⟩ .standard]) := by decide +kernel
  refine ⟨a, b, rs, rfl, rfl, hfair, ?_, fun hagree => ?_⟩
  · exact (backends_agree_iff rfl rfl rfl rfl rfl rfl hfair).mpr (by decide +kernel)
  · exact absurd ((backends_agree_iff rfl rfl rfl rfl rfl rfl hfair').mp hagree) (by decide +kernel)

end Archive
end Curation
