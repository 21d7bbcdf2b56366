/-
# Owners are isolated

The ops that undo an entry name memories by their ids, and when they are applied nobody checks
whose they are.  What keeps a rollback from the memories of other owners is the trail itself:
every memory that an entry names, as its subject or in its payload, is its owner's.  `Within` says
so of one entry and `Separate` of a store, and every step of a service preserves it.

The two ways to undo a session reach this in different ways.  A session takes back only its
owner's entries, whatever else stands under its id; a recovery refuses an id under which another
owner has an entry.

`WrittenFor` says once what a step may write on behalf of an owner.  All that is proved of a step
is proved from it.
-/
import Curation.Proofs.Service.Requests
import Curation.Proofs.Store.Owned

namespace Curation

/-! ## 1. What entries name -/

/-- **The memories that an entry names are its owner's**: those that it is about, and those in the
payload of a merge, which has the shape of one.  The other payloads name none. -/
structure AuditEntry.Within (σ : Store) (e : AuditEntry) : Prop where
  subject : ∀ id ∈ e.subject, σ.Owns e.owner id
  payload : e.action = .consolidate → ∃ p, ConsolidatePayload.decode e.payload = .ok p ∧
    ∀ m ∈ p.result :: p.merged, σ.Owns e.owner m.id

/-- A store with one memory to an id, whose entries name only memories of their owners. -/
structure Store.Separate (σ : Store) : Prop where
  keyed : σ.Keyed
  within : ∀ e ∈ σ.trail, e.Within σ

namespace AuditEntry

variable {σ σ' : Store} {owner : OwnerId} {e : AuditEntry}

theorem Within.mono (h : e.Within σ) (hσ : ∀ id, σ.Owns e.owner id → σ'.Owns e.owner id) :
    e.Within σ' where
  subject id hid := hσ id (h.subject id hid)
  payload ha := by
    obtain ⟨p, hp, hown⟩ := h.payload ha
    exact ⟨p, hp, fun m hm => hσ _ (hown m hm)⟩

/-- An entry that is about nothing names nothing. -/
theorem within_of_terminal (hs : e.subject = []) (ht : e.action.isTerminal = true) :
    e.Within σ where
  subject id hid := by
    rw [hs] at hid
    cases hid
  payload ha := by
    rw [ha] at ht
    cases ht

/-- **Undoing an entry** keeps to what its owner has. -/
theorem Within.inverse (h : e.Within σ) {inv : List WriteOp} (hinv : e.inverse = .ok inv) :
    ∀ op ∈ inv, op.MadeFor e.owner σ := by
  cases undoing_of_inverse hinv with
  | @delete id _ hs | @update id _ _ hs _ | @protect id _ hs | @unprotect id _ hs =>
    have hown : σ.Owns e.owner id := h.subject id (hs ▸ List.mem_singleton_self id)
    exact List.forall_mem_singleton.mpr hown
  | consolidate ha hp =>
    obtain ⟨p, hp', hown⟩ := h.payload ha
    rw [hp] at hp'
    cases hp'
    refine List.forall_mem_cons.mpr ⟨hown _ List.mem_cons_self, fun op hop => ?_⟩
    obtain ⟨m, hm, rfl⟩ := List.mem_map.mp hop
    exact hown m (List.mem_cons_of_mem _ hm)

/-- **Undoing entries of one owner.** -/
theorem madeFor_of_unwind {es : List AuditEntry} {ops : List WriteOp} (hσ : σ.Separate)
    (h : unwind es = .ok ops) (hes : ∀ e ∈ es, e ∈ σ.trail ∧ e.owner = owner) :
    ∀ op ∈ ops, op.MadeFor owner σ := by
  intro op hop
  obtain ⟨e, he, inv, hinv, hop⟩ := inverse_of_mem h hop
  obtain ⟨htrail, rfl⟩ := hes e he
  exact (hσ.within e htrail).inverse hinv op hop

end AuditEntry

/-! ## 2. What is written for an owner -/

/-- **What may be written on behalf of an owner**: ops that were made for the owner, whose entries
name the owner's memories, and changes of the owner's settings. -/
inductive Archive.WrittenFor (owner : OwnerId) : Archive → Archive → Prop
  | quiet {a a' : Archive} (h : Archive.Quiet a a') : WrittenFor owner a a'
  | ops {t : Instant} {ops : List WriteOp} {a a' : Archive}
      (hw : Store.Written a.backend t ops a.store a'.store)
      (hops : ∀ op ∈ ops, op.MadeFor owner a.store)
      (hnames : ∀ e ∈ ops.filterMap WriteOp.appended?, (e.kept a.backend).Within a'.store) :
      WrittenFor owner a a'
  | settings {f : OwnerSettings → OwnerSettings} {a a' : Archive}
      (hf : ∀ s, (f s).owner = s.owner)
      (h : a.store.configure a.backend owner f = .ok a'.store) : WrittenFor owner a a'
  | trans {a a₁ a' : Archive} (h : WrittenFor owner a a₁) (h' : WrittenFor owner a₁ a') :
      WrittenFor owner a a'

namespace Archive.WrittenFor

variable {owner : OwnerId} {a a' : Archive}

theorem of_still (h : Archive.Still a a') : WrittenFor owner a a' := .quiet h.quiet

/-- **What ops leave**: the entries that were there still name only what is their owners', and so do
the new ones. -/
theorem separate_of_written {b : Backend} {t : Instant} {ops : List WriteOp} {σ σ' : Store}
    (hs : σ.Separate) (ht : Store.Written b t ops σ σ')
    (hnames : ∀ e ∈ ops.filterMap WriteOp.appended?, (e.kept b).Within σ') : σ'.Separate := by
  refine ⟨ht.keyed hs.keyed, fun e he => ?_⟩
  rw [ht.trail] at he
  rcases List.mem_append.mp he with he | he
  · exact (hs.within e he).mono fun _ => ht.owns
  · obtain ⟨e', he', rfl⟩ := List.mem_map.mp he
    exact hnames e' he'

theorem separate_of_configure {owner : OwnerId} {g : OwnerSettings → OwnerSettings} {b : Backend}
    {σ σ' : Store} (hs : σ.Separate) (h : σ.configure b owner g = .ok σ') : σ'.Separate := by
  obtain ⟨hm, ht⟩ := Store.configure_ok h
  have hfind : ∀ id, σ'.memory? id = σ.memory? id := fun id => by
    unfold Store.memory?
    rw [hm]
  refine ⟨?_, fun e he => ?_⟩
  · have hk := hs.keyed
    unfold Store.Keyed Store.ids at hk ⊢
    rwa [hm]
  · rw [ht] at he
    refine (hs.within e he).mono fun id hid => ?_
    obtain ⟨m, hf, ho⟩ := hid
    exact ⟨m, (hfind id).trans hf, ho⟩

/-- **Whatever is written for an owner** leaves the others alone and the store separate. -/
theorem isolates (h : WrittenFor owner a a') (hs : a.store.Separate) :
    a'.store.Separate ∧ a'.store.others owner = a.store.others owner := by
  induction h with
  | quiet hq =>
    rw [hq.store]
    exact ⟨hs, rfl⟩
  | ops hw hops hnames => exact ⟨separate_of_written hs hw hnames, hw.others hs.keyed hops⟩
  | settings hf h => exact ⟨separate_of_configure hs h, Store.others_configure hf h⟩
  | trans _ _ ih ih' =>
    obtain ⟨hs₁, ho₁⟩ := ih hs
    obtain ⟨hs', ho'⟩ := ih' hs₁
    exact ⟨hs', ho'.trans ho₁⟩

end Archive.WrittenFor

/-! ## 3. Calls on a session -/

section Forward

variable {rules : MemoryRules} {owner : OwnerId} {σ σ' : Store} {act : Action}
  {o : ActionOutcome} {c : Change} {b : Backend} {t : Instant} {e : AuditEntry}

theorem Store.Holds.owns {m : Memory} (h : σ.Holds owner m) : σ.Owns owner m.id :=
  ⟨m, h.found, h.owner⟩

/-- **A forward change** is made for the owner. -/
theorem Forward.madeFor (h : Forward rules owner σ act o c) :
    ∀ op ∈ c.ops, op.MadeFor owner σ := by
  cases h with
  | update hm _ _ | delete hm _ | protect hm _ | unprotect hm _ =>
    exact List.forall_mem_singleton.mpr hm.owns
  | consolidate _ _ _ hms =>
    refine List.forall_mem_cons.mpr ⟨rfl, fun op hop => ?_⟩
    obtain ⟨m, hm, rfl⟩ := List.mem_map.mp hop
    exact (hms m hm).1.owns

/-- **The entry of a forward change** names what is the owner's, the memory that a merge makes
among it. -/
theorem Forward.within (h : Forward rules owner σ act o c)
    (hw : Store.Written b t (c.ops ++ [.appendAudit e]) σ σ') (ho : e.owner = owner)
    (ha : e.action = c.action) (hs : e.subject = c.subject) (hp : e.payload = c.payload) :
    (e.kept b).Within σ' := by
  have hops : ∀ op ∈ c.ops ++ [.appendAudit e], op.MadeFor owner σ :=
    forall_mem_concat h.madeFor ho
  subst ho
  cases h with
  | update hm _ _ | delete hm _ | protect hm _ | unprotect hm _ =>
    refine ⟨fun id hid => ?_, fun hc => ?_⟩
    · rw [AuditEntry.kept_subject, hs] at hid
      rw [List.mem_singleton.mp hid]
      exact hw.owns hm.owns
    · rw [AuditEntry.kept_action, ha] at hc
      cases hc
  | @consolidate sources content n time _ _ _ hms =>
    have hsource : ∀ m ∈ sources, σ'.Owns e.owner m.id := fun m hm => hw.owns (hms m hm).1.owns
    have hresult := hw.owns_inserted hops (List.mem_append_left _ List.mem_cons_self)
    refine ⟨fun id hid => ?_, fun _ => ?_⟩
    · rw [AuditEntry.kept_subject, hs] at hid
      rcases List.mem_append.mp hid with hid | hid
      · obtain ⟨m, hm, rfl⟩ := List.mem_map.mp hid
        exact hsource m hm
      · rw [List.mem_singleton.mp hid]
        exact hresult
    · have hdecode : ConsolidatePayload.decode (e.kept b).payload =
          .ok ⟨sources.map fun m => ⟨m.id, m.content⟩, ⟨⟨Ident.generated n⟩, content⟩⟩ := by
        rw [AuditEntry.kept_payload, hp]
        exact AuditEntry.decode_kept_consolidate b _
      refine ⟨_, hdecode, List.forall_mem_cons.mpr ⟨hresult, fun m hm => ?_⟩⟩
      obtain ⟨source, hsrc, rfl⟩ := List.mem_map.mp hm
      exact hsource source hsrc

end Forward

namespace Session

open Archive

variable {s s' : Session} {a a' : Archive}

/-- **A batch that closes a trail**: its entry names nothing, and the rest is the owner's. -/
theorem writtenFor_closing {f : Counters → Counters} {owner : OwnerId} {undo : List WriteOp}
    {x : AuditEntry} {m : Memory} {time : Instant} (hu : ∀ op ∈ undo, op.target?.isSome)
    (hundo : ∀ op ∈ undo, op.MadeFor owner a.store) (hx : x.owner = owner) (hs : x.subject = [])
    (ht : x.action.isTerminal = true) (hm : m.owner = owner)
    (hw : Wrote f (undo ++ [.appendAudit x, .insertMemory m, .stampRefined owner time]) a a') :
    WrittenFor owner a a' := by
  obtain ⟨t, hw⟩ := hw.written
  refine .ops hw (List.forall_mem_append.mpr ⟨hundo, ?_⟩) fun e he => ?_
  · exact List.forall_mem_cons.mpr ⟨hx, List.forall_mem_cons.mpr ⟨hm,
      List.forall_mem_singleton.mpr rfl⟩⟩
  · rw [List.filterMap_append, appended_eq_nil hu, List.nil_append] at he
    rw [List.mem_singleton.mp he]
    exact AuditEntry.within_of_terminal hs ht

/-- **Every action** writes on behalf of the owner of its session only. -/
theorem writtenFor_performed {act : Action} {r : Except CurationError ActionOutcome}
    (hs : a.store.Separate) (hp : Performed s a act (r, s', a')) :
    WrittenFor s.params.owner a a' := by
  cases hp with
  | refused _ h | found _ h | rollbackFailed _ _ _ _ h | overflowed _ _ _ h => exact .quiet h.quiet
  | forward _ hf hw =>
    obtain ⟨t, hw⟩ := hw.written
    refine .ops hw (forall_mem_concat hf.madeFor rfl) fun e he => ?_
    rw [hf.appended, List.mem_singleton] at he
    rw [he]
    exact hf.within hw rfl rfl rfl rfl
  | committed _ _ _ _ hw =>
    have hnone : ∀ op ∈ ([] : List WriteOp), op.target?.isSome := nofun
    exact writtenFor_closing hnone nofun rfl rfl rfl rfl hw
  | rolledBack _ _ _ _ hu hw =>
    -- of the entries under its id a session takes back those of its owner
    have hown : ∀ e ∈ s.ownTrail a.store, e ∈ a.store.trail ∧ e.owner = s.params.owner := by
      intro e he
      obtain ⟨he, ho⟩ := List.mem_filter.mp he
      exact ⟨(Store.mem_forSession.mp he).1, by simpa using ho⟩
    exact writtenFor_closing (AuditEntry.target_of_unwind hu)
      (AuditEntry.madeFor_of_unwind hs hu hown) rfl rfl rfl rfl hw

/-- **Every call** on a session. -/
theorem writtenFor_call (hs : a.store.Separate) (call : Call) :
    WrittenFor s.params.owner a (call.run s a).2 := by
  obtain ⟨a₁, a₂, hq₁, hq₂, ⟨-, rfl⟩ | ⟨act, r, hp, -⟩⟩ := call_cases call s a
  · exact (WrittenFor.quiet hq₁.toQuiet).trans (.quiet hq₂.toQuiet)
  · have hs₁ : a₁.store.Separate := hq₁.store ▸ hs
    exact (WrittenFor.quiet hq₁.toQuiet).trans
      ((writtenFor_performed hs₁ hp).trans (.quiet hq₂.toQuiet))

end Session

/-! ## 4. Requests -/

section Request

open Archive

variable {owner : OwnerId} {a a' : Archive}

/-- **Recovery** takes a session back only if all entries under its id are the owner's. -/
theorem Recovery.writtenFor_reconcile (c : Config) (session : SessionId)
    (hs : a.store.Separate) : WrittenFor owner a (a.answer (reconcile c owner session)).2 := by
  have hr := reconciled c owner session a
  generalize a.answer (reconcile c owner session) = r at hr
  cases hr with
  | refused _ h | alreadyClosed _ _ h | failed _ h | overflowed _ _ h => exact .quiet h.quiet
  | rolledBack _ ho _ _ hu hw =>
    have hown : ∀ e ∈ a.store.forSession session, e ∈ a.store.trail ∧ e.owner = owner :=
      fun e he => ⟨(Store.mem_forSession.mp he).1, ho e he⟩
    exact Session.writtenFor_closing (AuditEntry.target_of_unwind hu)
      (AuditEntry.madeFor_of_unwind hs hu hown) rfl rfl rfl rfl hw

/-- A call that writes on behalf of an owner, whatever it answers. -/
def Archive.WritesFor {ε α : Type} (owner : OwnerId) (x : ExceptT ε (StateM Archive) α) : Prop :=
  ∀ a, WrittenFor owner a (a.answer x).2

/-- What may be written for an owner composes. -/
theorem Archive.composes_writtenFor (owner : OwnerId) : Composes (WrittenFor owner) :=
  ⟨.quiet, .trans⟩

/-- A new memory of the owner. -/
theorem Archive.writtenFor_insert {m : Memory} {σ : Store} (hm : m.owner = owner)
    (h : a.store.insert m = .ok σ) : WrittenFor owner a { a with store := σ } := by
  have hw : Store.Written a.backend default [.insertMemory m] a.store σ := .cons h (.nil σ)
  exact .ops hw (List.forall_mem_singleton.mpr hm) nofun

theorem MemoryRules.writesFor_create (rules : MemoryRules) (content : String) (kind : MemoryKind) :
    WritesFor owner (rules.create owner content kind) :=
  (composes_writtenFor owner).create fun _ _ _ _ _ h => writtenFor_insert rfl h

/-- **What is made of a transcript** is the owner's. -/
theorem writesFor_ingest (c : Config) (extract : Extractor) (turns : List Turn) :
    WritesFor owner (ingest c extract owner turns) :=
  (composes_writtenFor owner).ingest (fun _ _ _ _ _ _ _ h => writtenFor_insert rfl h) extract turns

theorem Archive.writesFor_chooseThreshold (value : Binary64) :
    WritesFor owner (chooseThreshold owner value) :=
  (composes_writtenFor owner).chooseThreshold
    (fun threshold _ _ h =>
      .settings (f := fun s => { s with threshold := some threshold }) (fun _ => rfl) h) value

/-- **Every request.** -/
theorem Request.writtenFor_serve (c : Config) (hs : a.store.Separate) (request : Request) :
    WrittenFor owner a (request.serve c owner a) := by
  cases request with
  | reconcile session => exact Recovery.writtenFor_reconcile c session hs
  | ingest extract turns => exact writesFor_ingest c extract turns a
  | create content kind => exact c.rules.writesFor_create content kind a
  | chooseThreshold value => exact writesFor_chooseThreshold value a

end Request

/-! ## 5. Every step -/

namespace Service

variable {c : Config} {owner : OwnerId} {w₀ w w' : Service}

theorem Step.writtenFor (h : Step c owner w w') (hs : w.archive.store.Separate) :
    Archive.WrittenFor owner w.archive w'.archive := by
  cases h with
  | begin sid h => exact .of_still (Session.still_of_beginFor h)
  | call call ho =>
    subst ho
    exact Session.writtenFor_call hs call
  | drop _ => exact .quiet ⟨rfl, rfl⟩
  | serve request => exact request.writtenFor_serve c hs
  | idle h => exact .of_still h

/-- **Every state that is reached** is separate. -/
theorem Reached.separate (h : Reached w₀ w) (hs : w₀.archive.store.Separate) :
    w.archive.store.Separate := by
  induction h with
  | refl => exact hs
  | tail _ hstep ih =>
    obtain ⟨c, owner, hstep⟩ := hstep
    exact ((hstep.writtenFor ih).isolates ih).1

/-- **Owners are isolated.**  In every state that is reached from one without entries the entries
name only memories of their owners, and whatever is done next on behalf of an owner leaves the
memories, the entries and the settings of all others as they are. -/
theorem owners_isolated (hk : w₀.archive.store.Keyed) (h₀ : w₀.archive.store.trail = [])
    (hr : Reached w₀ w) (hstep : Step c owner w w') :
    w'.archive.store.others owner = w.archive.store.others owner ∧
      ∀ e ∈ w.archive.store.trail, e.Within w.archive.store := by
  have hs₀ : w₀.archive.store.Separate := ⟨hk, by simp [h₀]⟩
  have hs := hr.separate hs₀
  exact ⟨((hstep.writtenFor hs).isolates hs).2, hs.within⟩

/-- Two owners with sessions of one id, of which the second is rolled back. -/
theorem owners_isolated_shared :
    ∃ w₀ w w' : Service, Reached w₀ w ∧ Step .standard ⟨"p"⟩ w w' ∧
      w.archive.store.trail.map (fun e => (e.owner, e.session)) =
        [(⟨"o"⟩, ⟨"s"⟩), (⟨"p"⟩, ⟨"s"⟩)] ∧
      w'.archive.store.trail.map (·.action) = [.delete, .delete, .sessionRollback] ∧
      w'.archive.store.others ⟨"p"⟩ = w.archive.store.others ⟨"p"⟩ := by
  let a₀ : Archive := .around .inMemory ⟨[.fresh ⟨"m"⟩ ⟨"o"⟩ "note" .core ⟨0, 0⟩,
    .fresh ⟨"k"⟩ ⟨"p"⟩ "note" .core ⟨0, 0⟩], [], []⟩ (.steady ⟨0, 0⟩) 0
  let first : Session.Call := .perform (.delete ⟨"m"⟩)
  let second : Session.Call := .perform (.delete ⟨"k"⟩)
  let last : Session.Call := .perform (.complete "done")
  have h : a₀.yields (Session.beginFor .standard ⟨"o"⟩ (some ⟨"s"⟩)) (fun s a =>
      a.yields (Session.beginFor .standard ⟨"p"⟩ (some ⟨"s"⟩)) fun s' a' =>
        let r := second.run s' (first.run s a').2
        let r' := last.run r.1 r.2
        decide (s.params.owner = ⟨"o"⟩ ∧ s'.params.owner = ⟨"p"⟩ ∧ r.1.params.owner = ⟨"p"⟩ ∧
          r.2.store.trail.map (fun e => (e.owner, e.session)) =
            [(⟨"o"⟩, ⟨"s"⟩), (⟨"p"⟩, ⟨"s"⟩)] ∧
          r'.2.store.trail.map (·.action) = [.delete, .delete, .sessionRollback])) = true := by
    decide +kernel
  obtain ⟨s, a₁, h₁, h⟩ := Archive.exists_of_yields h
  obtain ⟨s', a₂, h₂, h⟩ := Archive.exists_of_yields h
  obtain ⟨ho, hp, hp', htrail, hclosed⟩ := of_decide_eq_true h
  have hbegun : Reached ⟨a₀, []⟩ ⟨a₂, [s, s']⟩ :=
    .tail (.tail .refl ⟨.standard, _, .begin _ h₁⟩) ⟨.standard, _, .begin _ h₂⟩
  have hfirst := Relation.ReflTransGen.tail hbegun
    ⟨.standard, _, @Step.call .standard _ a₂ [] [s'] s first ho⟩
  have hr := Relation.ReflTransGen.tail hfirst
    ⟨.standard, _, @Step.call .standard _ _ [_] [] s' second hp⟩
  have hstep := @Step.call .standard _ (second.run s' (first.run s a₂).2).2 [(first.run s a₂).1] []
    _ last hp'
  exact ⟨_, _, _, hr, hstep, htrail, hclosed, (owners_isolated (by decide) rfl hr hstep).1⟩

end Service
end Curation
