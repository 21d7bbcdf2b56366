/-
# The trail accounts for the mass

The breaker looks at the mass before and after a session, the trail at what was done.  Each forward
entry says by how much its action changed the mass (`massChange`): an update by what the text of a
core memory gained, a deletion by what it lost, a merge by the result less the core memories that
went into it.  As long as nobody else writes, these changes add up to what the breaker sees
(`mass_accounted`).

What an entry says depends on which of the memories that it names are core memories.  That never
changes, and the memories stay there, so it may be read off the store as it stands at the end.
-/
import Mathlib.Algebra.BigOperators.Ring.Finset
import Curation.Proofs.Number.Order
import Curation.Proofs.Service.Isolation
import Curation.Proofs.Session.Completion
import Curation.Proofs.Store.Mass

namespace Curation

/-! ## 1. What an entry says of the mass -/

/-- Whether the memory of an id is a core memory. -/
def Store.isCore (σ : Store) (id : MemoryId) : Bool := (σ.memory? id).any (·.kind == .core)

/-- The tokens of a text of a memory, if it is a core memory. -/
def Store.coreTokens (σ : Store) (meter : TokenMeter) (id : MemoryId) (text : String) : Int :=
  if σ.isCore id then (meter.count text).toNat else 0

/-- **By how much an entry changed the mass**, as its payload tells. -/
def AuditEntry.massChange (meter : TokenMeter) (σ : Store) (e : AuditEntry) : Int :=
  match e.action with
  | .update =>
    match UpdatePayload.decode e.payload, e.subject with
    | .ok p, [id] => σ.coreTokens meter id p.after - σ.coreTokens meter id p.before
    | _, _ => 0
  | .delete =>
    match DeletePayload.decode e.payload, e.subject with
    | .ok p, [id] => -σ.coreTokens meter id p.before
    | _, _ => 0
  | .consolidate =>
    match ConsolidatePayload.decode e.payload with
    | .ok p => (meter.count p.result.content).toNat -
        (p.merged.map fun m => σ.coreTokens meter m.id m.content).sum
    | .error _ => 0
  | .protect | .unprotect | .sessionComplete | .sessionRollback => 0

/-- By how much some entries changed it together. -/
def massChanges (meter : TokenMeter) (σ : Store) (es : List AuditEntry) : Int :=
  (es.map (AuditEntry.massChange meter σ)).sum

section Stable

variable {meter : TokenMeter} {σ σ' : Store} {id : MemoryId} {m : Memory} {e : AuditEntry}
  {b : Backend} {t : Instant} {ops : List WriteOp}

theorem Store.isCore_of_memory? (h : σ.memory? id = some m) : σ.isCore id = (m.kind == .core) := by
  rw [isCore, h]
  rfl

/-- **A memory keeps its kind.** -/
theorem Store.Written.isCore (h : Store.Written b t ops σ σ') (hid : (σ.memory? id).isSome) :
    σ'.isCore id = σ.isCore id := by
  obtain ⟨m, hm⟩ := Option.isSome_iff_exists.mp hid
  have hkind : (m.revised b t ops).kind = m.kind :=
    congrArg (·.2.2.1) (Memory.origin_revised b t ops m)
  rw [Store.isCore_of_memory? hm, Store.isCore_of_memory? (h.memory? hm), hkind]

theorem Store.Written.coreTokens (h : Store.Written b t ops σ σ') (hid : (σ.memory? id).isSome)
    (text : String) : σ'.coreTokens meter id text = σ.coreTokens meter id text := by
  unfold Store.coreTokens
  rw [h.isCore hid]

/-- **What an entry says of the mass** stays as it is. -/
theorem AuditEntry.Within.massChange (hin : e.Within σ) (hw : Store.Written b t ops σ σ') :
    e.massChange meter σ' = e.massChange meter σ := by
  have hsubject : ∀ id ∈ e.subject, ∀ text,
      σ'.coreTokens meter id text = σ.coreTokens meter id text :=
    fun id hid text => hw.coreTokens (hin.subject id hid).isSome text
  unfold AuditEntry.massChange
  cases ha : e.action with
  | update =>
    dsimp only
    split
    · next id _ hs => rw [hsubject id (by simp [hs]), hsubject id (by simp [hs])]
    · rfl
  | delete =>
    dsimp only
    split
    · next id _ hs => rw [hsubject id (by simp [hs])]
    · rfl
  | consolidate =>
    obtain ⟨p, hp, hown⟩ := hin.payload ha
    dsimp only
    rw [hp]
    dsimp only
    rw [List.map_congr_left fun m hm =>
      hw.coreTokens (hown m (List.mem_cons_of_mem _ hm)).isSome m.content]
  | protect | unprotect | sessionComplete | sessionRollback => rfl

theorem massChanges_of_within {es : List AuditEntry} (hin : ∀ e ∈ es, e.Within σ)
    (hw : Store.Written b t ops σ σ') : massChanges meter σ' es = massChanges meter σ es := by
  unfold massChanges
  rw [List.map_congr_left fun e he => (hin e he).massChange hw]

theorem massChanges_append (meter : TokenMeter) (σ : Store) (es es' : List AuditEntry) :
    massChanges meter σ (es ++ es') = massChanges meter σ es + massChanges meter σ es' := by
  unfold massChanges
  rw [List.map_append, List.sum_append]

theorem massChanges_singleton (meter : TokenMeter) (σ : Store) (e : AuditEntry) :
    massChanges meter σ [e] = e.massChange meter σ := List.sum_singleton

end Stable

/-! ## 2. Forward actions -/

section Forward

variable {meter : TokenMeter} {rules : MemoryRules} {owner : OwnerId} {σ σ' : Store} {m : Memory}
  {act : Action} {o : ActionOutcome} {c : Change} {b : Backend} {t : Instant}
  {ops : List WriteOp}

/-- What a live memory of the owner weighs is the tokens of its text. -/
theorem Memory.weight_eq (ho : m.owner = owner) (hl : m.tombstoned = false)
    (hc : σ.isCore m.id = (m.kind == .core)) :
    (m.weight meter owner : Int) = σ.coreTokens meter m.id m.content := by
  unfold weight Store.coreTokens
  rw [hc]
  by_cases hk : m.kind = .core <;> simp [ho, hl, hk]

theorem Store.Holds.isCore (h : σ.Holds owner m) (hw : Store.Written b t ops σ σ') :
    σ'.isCore m.id = (m.kind == .core) := by
  rw [hw.isCore (by rw [h.found]; rfl), Store.isCore_of_memory? h.found]

theorem Store.Holds.weight_eq (h : σ.Holds owner m) (hw : Store.Written b t ops σ σ') :
    (m.weight meter owner : Int) = σ'.coreTokens meter m.id m.content :=
  Memory.weight_eq h.owner h.live (h.isCore hw)

theorem AuditEntry.massChange_update (b : Backend) (id : EntryId) (created : Instant)
    (session : SessionId) (owner : OwnerId) (seq : Nat) (mid : MemoryId) (before after : String) :
    ((make id created session owner seq .update [mid] (UpdatePayload.mk before after).encode).kept
      b).massChange meter σ = σ.coreTokens meter mid after - σ.coreTokens meter mid before := by
  have hd := decode_kept_update b ⟨before, after⟩
  simp only [massChange, kept_action, kept_payload, kept_subject, make, hd]

theorem AuditEntry.massChange_delete (b : Backend) (id : EntryId) (created : Instant)
    (session : SessionId) (owner : OwnerId) (seq : Nat) (mid : MemoryId) (before : String) :
    ((make id created session owner seq .delete [mid] (DeletePayload.mk before none).encode).kept
      b).massChange meter σ = -σ.coreTokens meter mid before := by
  have hd := decode_kept_delete b before
  simp only [massChange, kept_action, kept_payload, kept_subject, make, hd]

theorem AuditEntry.massChange_consolidate (b : Backend) (id : EntryId) (created : Instant)
    (session : SessionId) (owner : OwnerId) (seq : Nat) (subject : List MemoryId)
    (p : ConsolidatePayload) :
    ((make id created session owner seq .consolidate subject p.encode).kept b).massChange meter σ =
      (meter.count p.result.content).toNat -
        (p.merged.map fun m => σ.coreTokens meter m.id m.content).sum := by
  have hd := decode_kept_consolidate b p
  simp only [massChange, kept_action, kept_payload, make, hd]

/-- What a merge changes: the sources are gone, and the result has come. -/
theorem weighs_consolidate (meter : TokenMeter) {sources : List Memory} {content : String} {n : Nat}
    {created : Instant} (hk : σ.Keyed) (hd : (sources.map (·.id)).Nodup)
    (hms : ∀ m ∈ sources, σ.Holds owner m)
    (hw : Store.Written b t (Change.consolidate sources
      (.fresh ⟨Ident.generated n⟩ owner content .core created)).ops σ σ') :
    σ'.weighs meter owner + (sources.map (Memory.weight meter owner)).sum =
      σ.weighs meter owner + (meter.count content).toNat := by
  rw [consolidate_ops] at hw
  cases hw with
  | @cons _ _ _ σ₁ _ h₁ hw =>
    have hresult := Store.weighs_insert meter owner h₁
    have hk₁ : σ₁.Keyed := (Store.Written.cons h₁ (.nil σ₁)).keyed hk
    have hms₁ : ∀ m ∈ sources, σ₁.memory? m.id = some m :=
      fun m hm => (Store.apply_ok h₁).memory? (hms m hm).found
    have hrest := Store.weighs_deleted meter owner hw hk₁ hd hms₁
    have hweight : (Memory.fresh ⟨Ident.generated n⟩ owner content .core created).weight meter
        owner = (meter.count content).toNat := if_pos ⟨rfl, rfl, rfl⟩
    omega

/-- **Every forward action** changes the mass by what its entry says. -/
theorem Forward.massChange (hf : Forward rules owner σ act o c) (hk : σ.Keyed) (eid : EntryId)
    (created : Instant) (session : SessionId) (o' : OwnerId) (seq : Nat)
    (hw : Store.Written b t (c.ops ++ [.appendAudit
      (.make eid created session o' seq c.action c.subject c.payload)]) σ σ') :
    (σ'.weighs meter owner : Int) = σ.weighs meter owner +
      ((AuditEntry.make eid created session o' seq c.action c.subject c.payload).kept
        b).massChange meter σ' := by
  obtain ⟨σ₁, hops, hweighs⟩ := Store.weighs_appended meter owner hw
  rw [hweighs]
  cases hf with
  | @update m content hm _ _ =>
    have hsay : ((AuditEntry.make eid created session o' seq (Change.update m content).action
        (Change.update m content).subject (Change.update m content).payload).kept b).massChange
        meter σ' = σ'.coreTokens meter m.id content - σ'.coreTokens meter m.id m.content :=
      AuditEntry.massChange_update ..
    have hchange := Store.weighs_single meter owner hops hk hm.found rfl
    have hrevised : m.revise b t (.setContent m.id content) = { m with content := content } := by
      simp [Memory.revise]
    have hbefore : (m.weight meter owner : Int) = σ'.coreTokens meter m.id m.content :=
      hm.weight_eq hw
    have hafter : (({ m with content := content } : Memory).weight meter owner : Int) =
        σ'.coreTokens meter m.id content :=
      Memory.weight_eq (m := { m with content := content }) hm.owner hm.live (hm.isCore hw)
    rw [hrevised] at hchange
    rw [hsay]
    omega
  | @delete m hm _ =>
    have hsay : ((AuditEntry.make eid created session o' seq (Change.delete m).action
        (Change.delete m).subject (Change.delete m).payload).kept b).massChange meter σ' =
        -σ'.coreTokens meter m.id m.content :=
      AuditEntry.massChange_delete ..
    have hchange := Store.weighs_single meter owner hops hk hm.found rfl
    have hdead : (m.revise b t (.setTombstone m.id true)).weight meter owner = 0 :=
      Memory.weight_of_dead meter owner (Memory.tombstoned_revise b t m)
    have hbefore : (m.weight meter owner : Int) = σ'.coreTokens meter m.id m.content :=
      hm.weight_eq hw
    rw [hdead] at hchange
    rw [hsay]
    omega
  | @consolidate sources content n t' _ hd _ hms =>
    have hsay : ((AuditEntry.make eid created session o' seq
        (Change.consolidate sources (.fresh ⟨Ident.generated n⟩ owner content .core t')).action
        (Change.consolidate sources (.fresh ⟨Ident.generated n⟩ owner content .core t')).subject
        (Change.consolidate sources
          (.fresh ⟨Ident.generated n⟩ owner content .core t')).payload).kept b).massChange meter
        σ' = (meter.count content).toNat - ((sources.map fun m => (⟨m.id, m.content⟩ :
          MemorySnapshot)).map fun m => σ'.coreTokens meter m.id m.content).sum :=
      AuditEntry.massChange_consolidate ..
    have hchange := weighs_consolidate meter hk hd (fun m hm => (hms m hm).1) hops
    have hsources : (((sources.map fun m => (⟨m.id, m.content⟩ : MemorySnapshot)).map fun m =>
        σ'.coreTokens meter m.id m.content).sum : Int) =
        (sources.map (Memory.weight meter owner)).sum := by
      rw [List.map_map, Nat.cast_list_sum, List.map_map]
      exact congrArg List.sum (List.map_congr_left fun m hm => ((hms m hm).1.weight_eq hw).symm)
    rw [hsay, hsources]
    omega
  | @protect m hm _ | @unprotect m hm _ =>
    have hchange := Store.weighs_single meter owner hops hk hm.found rfl
    have hsame : ∀ value, (m.revise b t (.setConstitutional m.id value)).weight meter owner =
        m.weight meter owner := fun value => by
      simp only [Memory.revise, BEq.rfl, if_true]
      rfl
    rw [hsame] at hchange
    show _ = (_ : Int) + 0
    omega

end Forward

/-! ## 3. Runs -/

namespace Session

open Archive

variable {s s' s₀ : Session} {a a' a₀ a₁ : Archive} {c : Config} {owner : OwnerId} {σ₀ : Store}

/-- **The trail of a session accounts for the mass** since the store `σ₀`, as long as the session is
active. -/
structure Accounted (meter : TokenMeter) (σ₀ : Store) (s : Session) (σ : Store) : Prop where
  keyed : σ.Keyed
  within : ∀ e ∈ σ.entriesOf s.params.session, e.Within σ
  mass : s.status = .active → (σ.weighs meter s.params.owner : Int) =
    σ₀.weighs meter s.params.owner + massChanges meter σ (σ.entriesOf s.params.session)

theorem Begun.accounted (h : Begun c owner a s) (meter : TokenMeter) (hk : a.store.Keyed) :
    Accounted meter a.store s a.store := by
  have hnone := h.entriesOf
  refine ⟨hk, ?_, fun _ => ?_⟩
  · rw [hnone]
    nofun
  · rw [hnone]
    exact (Int.add_zero _).symm

/-- A batch that closes the session. -/
theorem accounted_of_closed {meter : TokenMeter} {f : Counters → Counters} {ops : List WriteOp}
    {e : AuditEntry} (h : Accounted meter σ₀ s a.store) (hw : Wrote f ops a a')
    (ha : ops.filterMap WriteOp.appended? = [e]) (he : e.session = s.params.session)
    (hs : e.subject = []) (ht : e.action.isTerminal = true) {status : SessionStatus}
    (hst : status ≠ .active) : Accounted meter σ₀ (s.closed status) a'.store := by
  obtain ⟨t, hwr⟩ := hw.written
  refine ⟨hwr.keyed h.keyed, fun x hx => ?_, fun hactive => absurd hactive hst⟩
  have hes : a'.store.entriesOf s.params.session =
      a.store.entriesOf s.params.session ++ [e.kept a.backend] := entriesOf_of_wrote hw ha he
  have hx' : x ∈ a.store.entriesOf s.params.session ++ [e.kept a.backend] := hes ▸ hx
  rcases List.mem_append.mp hx' with hx | hx
  · exact (h.within x hx).mono fun _ => hwr.owns
  · rw [List.mem_singleton.mp hx]
    exact AuditEntry.within_of_terminal hs ht

/-- **Every action** keeps the account: a forward action adds its entry to it. -/
theorem accounted_performed {meter : TokenMeter} {act : Action}
    {r : Except CurationError ActionOutcome} (h : Accounted meter σ₀ s a.store)
    (hp : Performed s a act (r, s', a')) : Accounted meter σ₀ s' a'.store := by
  cases hp with
  | refused _ hst => exact hst.store ▸ h
  | found _ hst => exact hst.store ▸ h
  | @forward _ _ ch eid t _ hs hf hw =>
    have hes := entriesOf_of_wrote hw (hf.appended _) rfl
    obtain ⟨t', ht⟩ := hw.written
    have hwithin : ∀ e ∈ a'.store.entriesOf s.params.session, e.Within a'.store := by
      rw [hes]
      exact forall_mem_concat (fun e he => (h.within e he).mono fun _ => ht.owns)
        (hf.within ht rfl rfl rfl rfl)
    refine ⟨ht.keyed h.keyed, hwithin, fun _ => ?_⟩
    have hgain : (a'.store.weighs meter s.params.owner : Int) =
        a.store.weighs meter s.params.owner + ((s.entry eid t ch.action ch.subject ch.payload).kept
          a.backend).massChange meter a'.store :=
      hf.massChange h.keyed eid t s.params.session s.params.owner s.nextSeq ht
    show (a'.store.weighs meter s.params.owner : Int) = σ₀.weighs meter s.params.owner +
      massChanges meter a'.store (a'.store.entriesOf s.params.session)
    rw [hes, massChanges_append, massChanges_of_within h.within ht, hgain, h.mass hs,
      massChanges_singleton, Int.add_assoc]
  | committed _ _ _ _ hw => exact accounted_of_closed h hw rfl rfl rfl rfl nofun
  | rolledBack _ _ _ _ hu hw =>
    exact accounted_of_closed h hw (appended_of_unwind hu _) rfl rfl rfl nofun
  | rollbackFailed _ _ _ _ hv =>
    rw [hv.store]
    exact ⟨h.keyed, h.within, nofun⟩
  | overflowed _ _ _ hst =>
    rw [hst.store]
    exact ⟨h.keyed, h.within, nofun⟩

theorem accounted_run (hk : a₀.store.Keyed) (hb : Begins c owner a₀ s₀ a₁)
    (hr : Run Archive.Quiet s₀ a₁ s a) (meter : TokenMeter) :
    Accounted meter a₀.store s a.store := by
  obtain ⟨hb, hst⟩ := hb.begun
  refine hr.preserves (P := fun s a => Accounted meter a₀.store s a.store) (fun _ _ hq => hq)
    (fun s a a' h hq => hq.store ▸ h) (fun s a act r s' a' h hp => accounted_performed h hp) ?_
  rw [hst.store]
  exact hb.accounted meter hk

/-- A session keeps its rules. -/
theorem rules_run (hr : Run Archive.Quiet s₀ a₁ s a) : s.rules = s₀.rules := by
  refine hr.preserves (P := fun s _ => s.rules = s₀.rules) (fun _ _ hq => hq)
    (fun _ _ _ h _ => h) (fun s a act r s' a' h hp => ?_) rfl
  rw [← h]
  cases hp <;> rfl

/-- What a session measures. -/
theorem toNat_of_mass {σ : Store} {post : UInt64} (h : s.mass σ = some post) :
    post.toNat = σ.weighs s.rules.meter s.params.owner := by
  rw [← Store.total_list]
  exact (TokenMeter.mass_eq_some_iff _).mp h

/-- **What is measured**, when a session begins and later. -/
theorem measured_run (hb : Begins c owner a₀ s₀ a₁) (hr : Run Archive.Quiet s₀ a₁ s a) :
    s.params.preMass.toNat = a₀.store.weighs c.meter owner ∧
      ∀ post, s.mass a.store = some post → post.toNat = a.store.weighs c.meter owner := by
  obtain ⟨hps, -⟩ := revocable_run hb hr
  have hbegun := hb.begun.1
  have howner : s.params.owner = owner := hps ▸ hbegun.owner
  have hmeter : s.rules.meter = c.meter :=
    congrArg MemoryRules.meter ((rules_run hr).trans hbegun.rules)
  have hmeter₀ : s₀.rules.meter = c.meter := congrArg MemoryRules.meter hbegun.rules
  constructor
  · rw [hps, toNat_of_mass hbegun.preMass, hmeter₀, hbegun.owner]
  · intro post hpost
    rw [toNat_of_mass hpost, hmeter, howner]

/-- **The trail accounts for the mass.**  The live core mass of the owner, as `complete` measures
it, is the mass that was measured when the session began and what its entries add up to, as long as
it fits a word.  So with nothing in the way a session that lost nothing on the whole commits,
whatever the threshold, and one that left nothing of a mass is rolled back. -/
theorem mass_accounted (hk : a₀.store.Keyed) (hb : Begins c owner a₀ s₀ a₁)
    (hr : Run Archive.Quiet s₀ a₁ s a)
    (hpost : c.meter.total (a.store.list owner (.live .core)) < 2 ^ 64) :
    let changes := massChanges c.meter a.store (a.store.entriesOf s.params.session)
    ∃ post, s.mass a.store = some post ∧
      (s.status = .active → (post.toNat : Int) = s.params.preMass.toNat + changes) ∧
      (∀ summary o s' a', s.answer a (complete summary) = (.ok o, s', a') →
        o.preMass = s.params.preMass.toNat ∧ o.postMass = post.toNat ∧
          (o.postMass : Int) = o.preMass + changes) ∧
      ∀ summary, s.status = .active → (trim summary).isEmpty = false → a.Clear 2 owner →
        (0 ≤ changes → ∃ o s' a', s.answer a (complete summary) = (.ok o, s', a') ∧
          o.status = .committed) ∧
        (0 < s.params.preMass.toNat → post.toNat = 0 →
          ∃ o s' a', s.answer a (complete summary) = (.ok o, s', a') ∧ o.status = .rolledBack) := by
  obtain ⟨hps, hre⟩ := revocable_run hb hr
  have howner : s.params.owner = owner := hps ▸ hb.begun.1.owner
  have hmeter : s.rules.meter = c.meter :=
    congrArg MemoryRules.meter ((rules_run hr).trans hb.begun.1.rules)
  obtain ⟨post, hm⟩ : ∃ post, s.mass a.store = some post := by
    rw [← hmeter, ← howner] at hpost
    exact (TokenMeter.exists_mass_iff _).mpr hpost
  obtain ⟨hbefore, hafter⟩ := measured_run hb hr
  have hsum : s.status = .active → (post.toNat : Int) = s.params.preMass.toNat +
      massChanges c.meter a.store (a.store.entriesOf s.params.session) := by
    intro hs
    have hmass := (accounted_run hk hb hr c.meter).mass hs
    rw [howner] at hmass
    rw [hafter post hm, hbefore, hmass]
  refine ⟨post, hm, hsum, fun summary o s' a' hc => ?_, fun summary hs hblank hclear => ⟨?_, ?_⟩⟩
  · obtain ⟨hs, hpre', post', hm', hpost', -⟩ := outcome_of_complete hc
    cases hm.symm.trans hm'
    refine ⟨hpre', hpost', ?_⟩
    rw [hpre', hpost']
    exact hsum hs
  · intro hgain
    obtain ⟨o, s', a', hc, ho⟩ := complete_of_clear hre hs hblank hm (howner.symm ▸ hclear)
    have hle : s.params.preMass.toNat ≤ post.toNat := by
      have := hsum hs
      omega
    rw [verdict, evaluate_of_le hle] at ho
    exact ⟨o, s', a', hc, ho⟩
  · intro hsome hnone
    obtain ⟨o, s', a', hc, ho⟩ := complete_of_clear hre hs hblank hm (howner.symm ▸ hclear)
    have hzero : post = 0 := UInt64.toNat_inj.mp hnone
    rw [verdict, hzero, evaluate_of_zero hsome] at ho
    exact ⟨o, s', a', hc, ho⟩

/-- A memory of one token gets a text of four. -/
theorem mass_accounted_gained :
    ∃ s₀ a₁ s a o s' a', Begins .standard ⟨"o"⟩ .oneNote s₀ a₁ ∧ Run Archive.Quiet s₀ a₁ s a ∧
      s.answer a (complete "done") = (.ok o, s', a') ∧ o.status = .committed ∧
      o.preMass = 1 ∧ o.postMass = 4 ∧
      massChanges Config.standard.meter a.store (a.store.entriesOf s.params.session) = 3 := by
  have h : Archive.oneNote.yields (beginAs .standard ⟨"o"⟩ ⟨"s"⟩) (fun s a =>
      let r := (Call.perform (.update ⟨"m"⟩ "a longer note")).run s a
      decide (r.1.status = .active ∧ r.2.Clear 2 ⟨"o"⟩ ∧ r.1.params.preMass.toNat = 1 ∧
        r.1.mass r.2.store = some 4 ∧
        Config.standard.meter.total (r.2.store.list ⟨"o"⟩ (.live .core)) < 2 ^ 64)) = true := by
    decide +kernel
  obtain ⟨s₀, a₁, h, hn⟩ := Archive.exists_of_yields h
  obtain ⟨hs, hclear, hone, hfour, hfits⟩ := of_decide_eq_true hn
  have hb : Begins .standard ⟨"o"⟩ .oneNote s₀ a₁ := .named ⟨"s"⟩ h
  have hr : Run Archive.Quiet s₀ a₁ _ _ := .call (.perform (.update ⟨"m"⟩ "a longer note")) .start
  obtain ⟨post, hpost, hsum, hout, hends⟩ := mass_accounted (by decide) hb hr hfits
  cases hpost.symm.trans hfour
  have hchange := hsum hs
  have hword : (4 : UInt64).toNat = 4 := rfl
  rw [hone, hword] at hchange
  obtain ⟨o, s', a', hc, ho⟩ := (hends "done" hs (by decide +kernel) hclear).1 (by omega)
  obtain ⟨hbefore, hafter, -⟩ := hout _ _ _ _ hc
  exact ⟨s₀, a₁, _, _, o, s', a', hb, hr, hc, ho, hbefore.trans hone, hafter.trans hword,
    by omega⟩

end Session

end Curation
