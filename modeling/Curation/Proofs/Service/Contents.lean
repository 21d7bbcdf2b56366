/-
# Every memory keeps to the rules

A text becomes the text of a memory in four ways.  It was asked for, or an update or a merge brought
it, and then it was validated.  It is a journal, and then it was cut to the limit; the limit may be
a single character, and then the mark that stands for what is missing is all that is left of it,
which is no blank.  Or an update is taken back, and the text is read off the payload of an entry:
nobody validates it, but it is the text that the memory had when the entry was written.

So the invariant speaks of the trail too: what an entry of an update would put back is admitted
(`Proper`).
-/
import Curation.Proofs.Memory.Admission
import Curation.Proofs.Service.Arising

namespace Curation

/-! ## 1. What would be put back -/

namespace MemoryRules

variable {rules : MemoryRules} {content : String}

/-- **A journal is admitted**, however long a text it was made of and however small the limit. -/
theorem admits_journalText {limit : Nat} (hpos : 0 < limit) (hle : limit ≤ rules.maxContent)
    (hb : blankText content = false) : rules.Admits (journalText limit content) := by
  unfold journalText
  split
  · refine ⟨?_, ?_⟩
    · have hmark : isBlank '…' = false := by decide
      simp [blankText, hmark]
    · rw [String.length_ofList, List.length_append, List.length_take, List.length_singleton]
      omega
  · next hl => exact ⟨hb, (Nat.not_lt.mp hl).trans hle⟩

end MemoryRules

/-- An entry that would put back only what is admitted, if it is that of an update. -/
def AuditEntry.Proper (rules : MemoryRules) (e : AuditEntry) : Prop :=
  e.action = .update → ∀ p, UpdatePayload.decode e.payload = .ok p → rules.Admits p.before

/-- An op that writes only what is admitted. -/
def WriteOp.Proper (rules : MemoryRules) : WriteOp → Prop
  | .insertMemory m => rules.Admits m.content
  | .setContent _ content => rules.Admits content
  | .appendAudit e => ∀ b, (e.kept b).Proper rules
  | .setTombstone _ _ | .setConstitutional _ _ | .stampRefined _ _ => True

/-- **A store that keeps to the rules**, in its memories and in what its trail would put back. -/
structure Store.Proper (rules : MemoryRules) (σ : Store) : Prop where
  memories : ∀ m ∈ σ.memories, rules.Admits m.content
  trail : ∀ e ∈ σ.trail, e.Proper rules

/-! ## 2. What a step writes -/

section Ops

variable {rules : MemoryRules} {σ σ' : Store} {op : WriteOp} {b : Backend}

/-- **Undoing an entry** puts back what is admitted. -/
theorem AuditEntry.Proper.inverse {e : AuditEntry} (h : e.Proper rules) {inv : List WriteOp}
    (hinv : e.inverse = .ok inv) : ∀ op ∈ inv, op.Proper rules := by
  cases undoing_of_inverse hinv with
  | update ha _ hp => exact List.forall_mem_singleton.mpr (h ha _ hp)
  | delete _ _ | protect _ _ | unprotect _ _ => exact List.forall_mem_singleton.mpr trivial
  | consolidate _ _ =>
    refine List.forall_mem_cons.mpr ⟨trivial, fun op hop => ?_⟩
    obtain ⟨m, -, rfl⟩ := List.mem_map.mp hop
    trivial

/-- **A forward change** brings a text only if it was validated. -/
theorem Forward.proper {owner : OwnerId} {act : Action} {o : ActionOutcome} {c : Change}
    (hf : Forward rules owner σ act o c) : ∀ op ∈ c.ops, op.Proper rules := by
  cases hf with
  | update _ _ hv => exact List.forall_mem_singleton.mpr (MemoryRules.admits_of_validate hv)
  | delete _ _ | protect _ _ | unprotect _ _ => exact List.forall_mem_singleton.mpr trivial
  | consolidate _ _ hv _ =>
    refine List.forall_mem_cons.mpr ⟨MemoryRules.admits_of_validate hv, fun op hop => ?_⟩
    obtain ⟨m, -, rfl⟩ := List.mem_map.mp hop
    trivial

/-- **The entry of a forward change** would put back what a memory had. -/
theorem Forward.proper_entry {owner : OwnerId} {act : Action} {o : ActionOutcome} {c : Change}
    (hf : Forward rules owner σ act o c) (hσ : σ.Proper rules) {e : AuditEntry}
    (ha : e.action = c.action) (hp : e.payload = c.payload) (b : Backend) :
    (e.kept b).Proper rules := by
  intro hupdate p hdecode
  rw [AuditEntry.kept_action, ha] at hupdate
  rw [AuditEntry.kept_payload, hp] at hdecode
  cases hf with
  | @update m content hm _ _ =>
    rw [Change.update, AuditEntry.decode_kept_update] at hdecode
    cases hdecode
    exact hσ.memories m (List.mem_of_find?_eq_some hm.found)
  | delete _ _ | protect _ _ | unprotect _ _ | consolidate _ _ _ _ => cases hupdate

/-- **Every op of a step** writes only what is admitted, if the store kept to the rules. -/
theorem WriteOp.Arises.proper {journal : Nat} (h : op.Arises rules journal σ)
    (hσ : σ.Proper rules) (hpos : 0 < journal) (hle : journal ≤ rules.maxContent) :
    op.Proper rules := by
  cases h with
  | forward hf hop => exact hf.proper op hop
  | entry hf ha hp => exact hf.proper_entry hσ ha hp
  | undo he hi hop => exact (hσ.trail _ he).inverse hi _ hop
  | closing he =>
    intro b ha
    rw [AuditEntry.kept_action] at ha
    rw [ha] at he
    cases he
  | journal id owner t ht => exact MemoryRules.admits_journalText hpos hle ht
  | stamp owner time => trivial
  | create id owner kind t hv => exact MemoryRules.admits_of_validate hv

/-- **Ops that write only what is admitted** leave a store that keeps to the rules. -/
theorem Store.Evolves.proper {ops : List WriteOp} (h : Store.Evolves b ops σ σ')
    (hσ : σ.Proper rules) (hops : ∀ op ∈ ops, op.Proper rules) : σ'.Proper rules := by
  refine ⟨h.forall_memories (P := fun m => rules.Admits m.content) (fun t op hop m hm => ?_)
    (fun m hm => hops _ hm) hσ.memories, fun e he => ?_⟩
  · refine Memory.revise_cases (P := fun m => rules.Admits m.content) b t m op hm (fun v _ => ?_)
      (fun c hc => ?_) (fun _ _ => hm)
    · unfold Memory.setTombstone
      (repeat' split) <;> exact hm
    · subst hc
      exact hops _ hop
  · rw [h.trail] at he
    rcases List.mem_append.mp he with he | he
    · exact hσ.trail e he
    · obtain ⟨x, hx, rfl⟩ := List.mem_map.mp he
      obtain ⟨op, hop, hx⟩ := List.mem_filterMap.mp hx
      cases op with
      | appendAudit _ =>
        cases hx
        exact hops _ hop b
      | insertMemory _ | setTombstone _ _ | setContent _ _ | setConstitutional _ _
      | stampRefined _ _ => cases hx

end Ops

/-! ## 3. Services -/

/-- A session under the rules of a configuration. -/
structure Session.Under (c : Config) (s : Session) : Prop where
  rules : s.rules = c.rules
  limits : s.limits = .ofConfig c.session

/-- A call changes neither the rules nor the limits of a session. -/
theorem Session.Under.call {c : Config} {s : Session} (h : s.Under c) (call : Call) (a : Archive) :
    (call.run s a).1.Under c := by
  obtain ⟨_, _, -, -, ⟨hs, -⟩ | ⟨act, r, hp, -⟩⟩ := call_cases call s a
  · exact hs.symm ▸ h
  · generalize (call.run s a).1 = s' at hp ⊢
    cases hp <;> exact ⟨h.rules, h.limits⟩

namespace Service

variable {c : Config} {owner : OwnerId} {w w' : Service}

/-- **A service that keeps to the rules** of a configuration. -/
structure Proper (c : Config) (w : Service) : Prop where
  store : w.archive.store.Proper c.rules
  sessions : ∀ s ∈ w.sessions, s.Under c

/-- **Every step keeps to the rules.** -/
theorem Step.proper (hc : c.validate = .ok ()) (h : Step c owner w w') (hw : w.Proper c) :
    w'.Proper c := by
  obtain ⟨hcontent, hjournal⟩ := Config.limits_pos hc
  obtain ⟨rules, journal, hterms, hwrites⟩ := h.arises
  have hterms : rules = c.rules ∧ journal = (SessionLimits.ofConfig c.session).journal := by
    rcases hterms with hterms | ⟨s, hs, hr, hl⟩
    · exact hterms
    · have hu := hw.sessions s hs
      exact ⟨hr.trans hu.rules, hl.trans (congrArg SessionLimits.journal hu.limits)⟩
  obtain ⟨rfl, rfl⟩ := hterms
  obtain ⟨ops, hev, hops⟩ := hwrites.evolves
  refine ⟨hev.proper hw.store fun op hop => (hops op hop).proper hw.store ?_ ?_, ?_⟩
  · exact Nat.lt_min.mpr ⟨hjournal, hcontent⟩
  · exact Nat.min_le_right _ _
  · cases h with
    | @begin a a' ss r sid h =>
      refine List.forall_mem_append.mpr ⟨hw.sessions, fun s hs => ?_⟩
      cases r with
      | error e => cases hs
      | ok s' =>
        obtain rfl : s = s' := List.mem_singleton.mp hs
        have hb := (Session.begins_of_beginFor h).1.begun.1
        exact ⟨hb.rules, hb.limits⟩
    | call call ho =>
      obtain ⟨hbefore, hrest⟩ := List.forall_mem_append.mp hw.sessions
      obtain ⟨hs, hafter⟩ := List.forall_mem_cons.mp hrest
      exact List.forall_mem_append.mpr ⟨hbefore, List.forall_mem_cons.mpr ⟨hs.call call _, hafter⟩⟩
    | drop ho =>
      obtain ⟨hbefore, hrest⟩ := List.forall_mem_append.mp hw.sessions
      exact List.forall_mem_append.mpr ⟨hbefore, (List.forall_mem_cons.mp hrest).2⟩
    | serve request => exact hw.sessions
    | idle h => exact hw.sessions

/-- **Every stored memory keeps to the rules.**  From a store without entries whose memories have
admitted texts, no sequence of steps under a configuration that is accepted, whoever takes them and
whatever is asked, leads to a memory whose text is blank or longer than the limit. -/
theorem contents_stay_admitted {a : Archive} (hc : c.validate = .ok ())
    (htrail : a.store.trail = [])
    (hmemories : ∀ m ∈ a.store.memories,
      blankText m.content = false ∧ m.content.length ≤ c.session.maxContentChars)
    (h : Relation.ReflTransGen (fun w w' => ∃ owner, Step c owner w w') ⟨a, []⟩ w) :
    ∀ m ∈ w.archive.store.memories,
      blankText m.content = false ∧ m.content.length ≤ c.session.maxContentChars := by
  have hproper : w.Proper c := by
    induction h with
    | refl =>
      refine ⟨⟨fun m hm => ⟨(hmemories m hm).1, (hmemories m hm).2⟩, fun e he => ?_⟩, nofun⟩
      rw [htrail] at he
      cases he
    | tail _ hstep ih =>
      obtain ⟨owner, hstep⟩ := hstep
      exact hstep.proper hc ih
  intro m hm
  have hadmits := hproper.store.memories m hm
  exact ⟨hadmits.notBlank, hadmits.fits⟩

/-- A limit of a single character for journals, and a session that cuts a memory down and is rolled
back. -/
theorem contents_stay_admitted_shortest :
    ∃ (c : Config) (a : Archive) (w : Service), c.session.journalMaxChars = 1 ∧
      c.validate = .ok () ∧
      Relation.ReflTransGen (fun w w' => ∃ owner, Step c owner w w') ⟨a, []⟩ w ∧
      w.archive.store.trail.map (·.action) = [.update, .sessionRollback] ∧
      w.archive.store.memories.map (·.content) = ["longer note", "…"] ∧
      ∀ m ∈ w.archive.store.memories,
        blankText m.content = false ∧ m.content.length ≤ c.session.maxContentChars := by
  let c : Config := { Config.standard with
    session := { SessionConfig.standard with journalMaxChars := 1 } }
  let a₀ : Archive := .around .inMemory
    ⟨[.fresh ⟨"m"⟩ ⟨"o"⟩ "longer note" .core ⟨0, 0⟩], [], []⟩ (.steady ⟨0, 0⟩) 0
  let first : Session.Call := .perform (.update ⟨"m"⟩ "n")
  let last : Session.Call := .perform (.complete "done")
  have h : a₀.yields (Session.beginFor c ⟨"o"⟩ (some ⟨"s"⟩)) (fun s a =>
      let r := first.run s a
      let r' := last.run r.1 r.2
      decide (s.params.owner = ⟨"o"⟩ ∧ r.1.params.owner = ⟨"o"⟩ ∧
        r'.2.store.trail.map (·.action) = [.update, .sessionRollback] ∧
        r'.2.store.memories.map (·.content) = ["longer note", "…"])) = true := by
    decide +kernel
  obtain ⟨s, a, hbegin, h⟩ := Archive.exists_of_yields h
  obtain ⟨ho, ho', htrail, hcontents⟩ := of_decide_eq_true h
  have hc : c.validate = .ok () := by decide +kernel
  have hbegun : Relation.ReflTransGen (fun w w' => ∃ owner, Step c owner w w') ⟨a₀, []⟩ ⟨a, [s]⟩ :=
    .tail .refl ⟨_, .begin _ hbegin⟩
  have hfirst := hbegun.tail ⟨_, @Step.call c _ a [] [] s first ho⟩
  have hlast := hfirst.tail
    ⟨_, @Step.call c _ (first.run s a).2 [] [] (first.run s a).1 last ho'⟩
  exact ⟨c, a₀, _, rfl, hc, hlast, htrail, hcontents,
    contents_stay_admitted hc rfl (by decide) hlast⟩

end Service
end Curation
