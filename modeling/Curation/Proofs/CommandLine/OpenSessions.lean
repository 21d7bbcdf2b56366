/-
# Open sessions and their recovery

What is listed as open is looked up among the entries of the owner, and what is recovered among the
entries under the id.  The two agree on an id that the owner has to itself.  On one that sessions
share they do not: such a session is listed, but recovery refuses it, and it stays listed
(`listed_recovered_iff`).  Recovery also measures what the owner holds, and is broken off if the
tokens do not fit a word.

The sweep goes through all that are listed and stops at the first that is refused.  So one shared id
is enough to keep it from ever ending well (`listed_refused`).
-/
import Curation.Proofs.CommandLine.Sweep
import Curation.Proofs.Service.Interleaving

namespace Curation

/-! ## 1. Sweeps -/

namespace Recovery

variable {c : Config} {owner : OwnerId} {sid : SessionId} {sids : List SessionId} {a a' : Archive}

/-- What is taken back first leaves the other sessions as they are, and open. -/
theorem open_after {v : Recovered} (hc : a.answer (reconcile c owner sid) = (.ok v, a'))
    (hnotin : sid ∉ sids) (hopen : ∀ sid' ∈ sid :: sids, ∀ e ∈ a.store.entriesOf sid',
      e.owner = owner → e.action.isTerminal = false) :
    (∀ sid' ∈ sids, a'.store.entriesOf sid' = a.store.entriesOf sid') ∧
    ∀ sid' ∈ sids, ∀ e ∈ a'.store.entriesOf sid', e.owner = owner →
      e.action.isTerminal = false := by
  obtain ⟨hfirst, hrest⟩ := List.forall_mem_cons.mp hopen
  obtain ⟨hothers, -⟩ := taken_back hc hfirst
  have hsame : ∀ sid' ∈ sids, a'.store.entriesOf sid' = a.store.entriesOf sid' :=
    fun sid' hs => hothers sid' fun he => hnotin (he ▸ hs)
  exact ⟨hsame, fun sid' hs => (hsame sid' hs).symm ▸ hrest sid' hs⟩

/-- **What the owner holds can be measured** each time that the sweep comes to a session, those
before it having been taken back. -/
def Measurable (c : Config) (owner : OwnerId) (sids : List SessionId) (a : Archive) : Prop :=
  ∀ before sid after a₁, sids = before ++ sid :: after → Swept c owner before a a₁ →
    a₁.store.MassFits c.rules owner

theorem measurable_nil (c : Config) (owner : OwnerId) (a : Archive) : Measurable c owner [] a := by
  intro before sid after a₁ hsplit
  cases before <;> cases hsplit

theorem measurable_cons {v : Recovered} (hc : a.answer (reconcile c owner sid) = (.ok v, a')) :
    Measurable c owner (sid :: sids) a ↔
      a.store.MassFits c.rules owner ∧ Measurable c owner sids a' := by
  constructor
  · intro h
    refine ⟨h [] sid sids a rfl (.nil a), fun before sid' after a₁ hsplit hsw => ?_⟩
    exact h (sid :: before) sid' after a₁ (by rw [hsplit]; rfl) (.cons hc hsw)
  · rintro ⟨hfirst, hrest⟩ before sid' after a₁ hsplit hsw
    cases hsw with
    | nil => exact hfirst
    | cons hc' hsw =>
      obtain ⟨rfl, htail⟩ := List.cons.inj hsplit
      rw [hc] at hc'
      cases hc'
      exact hrest _ _ _ _ htail hsw

/-- **A sweep that succeeds** found that each session had its id to itself, and could measure what
the owner held. -/
theorem Swept.sole (h : Swept c owner sids a a') (hd : sids.Nodup)
    (hopen : ∀ sid ∈ sids, ∀ e ∈ a.store.entriesOf sid,
      e.owner = owner → e.action.isTerminal = false) :
    (∀ sid ∈ sids, a.store.Sole owner sid) ∧ Measurable c owner sids a := by
  induction h with
  | nil a => exact ⟨nofun, measurable_nil c owner a⟩
  | @cons sid sids a a₁ a' v hc h ih =>
    obtain ⟨hnotin, hd⟩ := List.nodup_cons.mp hd
    obtain ⟨hsame, hrest⟩ := open_after hc hnotin hopen
    have hfirst := (List.forall_mem_cons.mp hopen).1
    obtain ⟨hsole, hmeasurable⟩ := ih hd hrest
    refine ⟨List.forall_mem_cons.mpr ⟨sole_of_recovered hc hfirst, fun sid' hs => ?_⟩,
      (measurable_cons hc).mpr ⟨fits_of_recovered hc hfirst, hmeasurable⟩⟩
    obtain ⟨ho, hp⟩ := hsole sid' hs
    exact ⟨hsame sid' hs ▸ ho, hsame sid' hs ▸ hp⟩

/-- **What a sweep adds to the trail** closes each of the sessions, and nothing else. -/
theorem Swept.closes (h : Swept c owner sids a a') (hd : sids.Nodup)
    (hopen : ∀ sid ∈ sids, ∀ e ∈ a.store.entriesOf sid,
      e.owner = owner → e.action.isTerminal = false) :
    ∃ closings, a'.store.trail = a.store.trail ++ closings ∧
      (∀ e ∈ closings, e.owner = owner ∧ e.action.isTerminal = true) ∧
      closings.map (·.session) = sids := by
  induction h with
  | nil a => exact ⟨[], by simp, nofun, rfl⟩
  | @cons sid sids a a₁ a' v hc h ih =>
    obtain ⟨hnotin, hd⟩ := List.nodup_cons.mp hd
    obtain ⟨-, hrest⟩ := open_after hc hnotin hopen
    obtain ⟨e, htrail, hs, ho, ht⟩ := closing_of_recovered hc (List.forall_mem_cons.mp hopen).1
    obtain ⟨closings, htrail', hall, hsids⟩ := ih hd hrest
    refine ⟨e :: closings, by rw [htrail', htrail, List.append_assoc, List.singleton_append],
      List.forall_mem_cons.mpr ⟨⟨ho, ht⟩, hall⟩, ?_⟩
    rw [List.map_cons, hs, hsids]

/-- **Sessions that can be recovered are swept**, with nothing in the way. -/
theorem swept_of_recoverable : ∀ {sids : List SessionId} {a : Archive}, sids.Nodup →
    (∀ sid ∈ sids, a.store.Recoverable owner sid) → Measurable c owner sids a →
    a.Clear (2 * sids.length) owner → 2 * sids.length ≤ 2 ^ 120 → ∃ a', Swept c owner sids a a'
  | [], a, _, _, _, _, _ => ⟨a, .nil a⟩
  | sid :: sids, a, hd, hr, hm, hclear, hfew => by
    obtain ⟨hnotin, hd⟩ := List.nodup_cons.mp hd
    obtain ⟨hfirst, hrest⟩ := List.forall_mem_cons.mp hr
    rw [List.length_cons, Nat.mul_succ] at hclear hfew
    obtain ⟨a₁, h₁, hg⟩ :=
      recovered_of_recoverable hfirst hclear.ready (hm [] sid sids a rfl (.nil a))
    obtain ⟨hothers, hback⟩ := taken_back h₁ fun e he _ => hfirst.forward e he
    have hstays : ∀ mid, (a.store.memory? mid).isSome → (a₁.store.memory? mid).isSome := by
      intro mid hs
      obtain ⟨m, hm⟩ := Option.isSome_iff_exists.mp hs
      obtain ⟨m', hm', -⟩ := hback mid m hm
      rw [hm']
      rfl
    obtain ⟨a', h'⟩ := swept_of_recoverable hd
      (fun sid' hs => (hrest sid' hs).mono (hothers sid' fun he => hnotin (he ▸ hs)) hstays)
      ((measurable_cons h₁).mp hm).2 (hclear.after hfew hg) (by omega)
    exact ⟨a', .cons h₁ h'⟩

end Recovery

/-! ## 2. The command -/

namespace CommandLine

open CommandM Recovery

variable {c : Config} {owner : OwnerId} {script : String} {a a' : Archive}
  {printed printed' : String} {sids : List SessionId}

theorem recoverOne_of_ok {sid : SessionId} {v : Recovered}
    (hc : a.answer (reconcile c owner sid) = (.ok v, a')) (printed : String) :
    answer a printed (recoverOne c owner sid) =
      (.ok v, printed ++ recoveredLine sid v ++ "\n", a') := by
  unfold recoverOne
  rw [answer_bind, answer_call, hc]
  rfl

theorem mapM_of_swept (h : Swept c owner sids a a') : ∀ printed, ∃ w printed',
    answer a printed (sids.mapM fun id => do
      let recovered ← recoverOne c owner id
      return (id, recovered)) = (.ok w, printed', a') := by
  induction h with
  | nil a => exact fun printed => ⟨[], printed, rfl⟩
  | @cons sid sids a a₁ a' v hc h ih =>
    intro printed
    obtain ⟨w, printed', hw⟩ := ih (printed ++ recoveredLine sid v ++ "\n")
    refine ⟨(sid, v) :: w, printed', ?_⟩
    rw [List.mapM_cons, answer_bind, answer_bind, recoverOne_of_ok hc]
    dsimp only [answer_pure]
    rw [answer_bind, hw]
    rfl

/-- **A sweep over the open sessions** is what a recovery does that names none. -/
theorem run_of_swept (hf : a.faults = .none)
    (h : Swept c owner (openSessionsOf (a.store.forOwner a.backend owner)) a a')
    (printed script : String) :
    ∃ printed', answer a printed ((Command.reconcile owner none).run c script) =
      (.ok (), printed', a') := by
  have hlisted : ∀ printed, answer a printed (call none (Archive.openSessions owner)) =
      (.ok (openSessionsOf (a.store.forOwner a.backend owner)), printed, a) := by
    intro printed
    rw [answer_call, Archive.openSessions_of_none hf]
    rfl
  unfold Command.run recoverAll
  rw [answer_bind, answer_bind, hlisted]
  dsimp only
  by_cases hnil : (openSessionsOf (a.store.forOwner a.backend owner)).isEmpty = true
  · obtain ⟨w, printed', hw⟩ := mapM_of_swept h
      (printed ++ ("No open sessions for \x27" ++ owner.text ++ "\x27") ++ "\n")
    rw [if_pos hnil, answer_bind, answer_print]
    dsimp only
    rw [hw]
    exact ⟨printed', rfl⟩
  · obtain ⟨w, printed', hw⟩ := mapM_of_swept h printed
    rw [if_neg hnil, hw]
    exact ⟨printed', rfl⟩

/-- **A sweep that succeeds leaves no session open.** -/
theorem openSessionsOf_of_run
    (h : answer a printed ((Command.reconcile owner none).run c script) =
      (.ok (), printed', a')) :
    openSessionsOf (a'.store.forOwner a'.backend owner) = [] := by
  obtain ⟨a₁, hst, -, hsw⟩ := swept_of_run h
  obtain ⟨closings, htrail, hclosing, hsids⟩ := hsw.closes (nodup_distinct _) fun sid hsid => by
    rw [hst.store]
    exact open_of_listed hsid
  rw [hst.store] at htrail
  refine List.eq_nil_iff_forall_not_mem.mpr fun sid hsid => ?_
  obtain ⟨⟨e, he, hes⟩, hopen⟩ := mem_openSessionsOf.mp hsid
  have hin : ∀ x ∈ a.store.trail, x ∈ a'.store.trail := fun x hx => by
    rw [htrail]
    exact List.mem_append_left _ hx
  by_cases hold : e ∈ a.store.trail
  · -- then the session was listed before, and was closed
    have hlisted : sid ∈ openSessionsOf (a.store.forOwner a.backend owner) := by
      have ho := (Store.mem_forOwner.mp he).2
      refine mem_openSessionsOf.mpr ⟨⟨e, Store.mem_forOwner.mpr ⟨hold, ho⟩, hes⟩,
        fun x hx hxs => hopen x ?_ hxs⟩
      obtain ⟨hxt, hxo⟩ := Store.mem_forOwner.mp hx
      exact Store.mem_forOwner.mpr ⟨hin x hxt, hxo⟩
    rw [← hsids] at hlisted
    obtain ⟨x, hx, hxs⟩ := List.mem_map.mp hlisted
    obtain ⟨hxo, hxt⟩ := hclosing x hx
    have hforward := hopen x (Store.mem_forOwner.mpr
      ⟨htrail ▸ List.mem_append_right _ hx, hxo⟩) hxs
    rw [hxt] at hforward
    cases hforward
  · have hnew : e ∈ closings := by
      have het := (Store.mem_forOwner.mp he).1
      rw [htrail] at het
      exact (List.mem_append.mp het).resolve_left hold
    have hforward := hopen e he hes
    rw [(hclosing e hnew).2] at hforward
    cases hforward

/-! ## 3. Services -/

/-- **Which open sessions can be recovered**, in every state that owners side by side may come to.
With nothing in the way a session is taken back exactly if it is listed as open and has its id to
itself, which one has whose id was begun once only, and if what its owner holds can be measured.
Any other that is listed changes nothing, so it stays listed.  The sweep succeeds exactly if none of
those that are listed shares its id, and what the owner holds can be measured each time; then none
is left open. -/
theorem listed_recovered_iff {a₀ : Archive} {w : Service} (h₀ : a₀.store.trail = [])
    (h : Interleaved a₀ sids w) (c : Config) (owner : OwnerId) :
    let a := w.archive
    let listed := openSessionsOf (a.store.forOwner a.backend owner)
    (Ready owner a → ∀ sid, (∃ n stats a', a.answer (reconcile c owner sid) =
      (.ok (.rolledBack n stats), a')) ↔
        sid ∈ listed ∧ a.store.Sole owner sid ∧ a.store.MassFits c.rules owner) ∧
    (∀ sid ∈ listed, sids.count sid ≤ 1 → a.store.Sole owner sid) ∧
    (∀ sid ∈ listed, ¬ (a.store.Sole owner sid ∧ a.store.MassFits c.rules owner) → ∀ r a',
      a.answer (reconcile c owner sid) = (r, a') → r.isOk = false ∧ a'.store = a.store) ∧
    (a.Clear (2 * listed.length) owner → 2 * listed.length ≤ 2 ^ 120 → ∀ printed script,
      (∃ printed' a', answer a printed ((Command.reconcile owner none).run c script) =
        (.ok (), printed', a')) ↔
          (∀ sid ∈ listed, a.store.Sole owner sid) ∧ Measurable c owner listed a) ∧
    ∀ printed script printed' a',
      answer a printed ((Command.reconcile owner none).run c script) = (.ok (), printed', a') →
      openSessionsOf (a'.store.forOwner a'.backend owner) = [] := by
  have hu := (h.traced h₀).undoable
  refine ⟨fun hr => recovered_iff c hu hr, fun sid hs hone => h.sole h₀ hone hs,
    fun sid hs hnot r a' hc => ?_, fun hclear hfew printed script => ⟨?_, ?_⟩,
    fun printed script printed' a' => openSessionsOf_of_run⟩
  · cases r with
    | ok v =>
      exact absurd ⟨sole_of_recovered hc (open_of_listed hs),
        fits_of_recovered hc (open_of_listed hs)⟩ hnot
    | error e => exact ⟨rfl, (quiet_of_failed hc).store⟩
  · rintro ⟨printed', a', hrun⟩
    obtain ⟨a₁, -, hsame, hsw⟩ := swept_of_run hrun
    obtain rfl := hsame hclear.faults
    exact hsw.sole (nodup_distinct _) fun sid hs => open_of_listed hs
  · rintro ⟨hsole, hmeasurable⟩
    obtain ⟨a', hsw⟩ := swept_of_recoverable (nodup_distinct _)
      (fun sid hs => recoverable_of_listed hu hs (hsole sid hs)) hmeasurable hclear hfew
    obtain ⟨printed', hrun⟩ := run_of_swept hclear.faults hsw printed script
    exact ⟨printed', a', hrun⟩

/-- Two sessions of one owner begin under one id before either has written.  What they wrote is
listed as one open session, which nothing recovers. -/
theorem listed_refused :
    ∃ sids w, Interleaved .oneNote sids w ∧ w.sessions = [] ∧
      openSessionsOf (w.archive.store.forOwner w.archive.backend ⟨"o"⟩) = [⟨"s"⟩] ∧
      (¬ ∃ n stats a', w.archive.answer (reconcile .standard ⟨"o"⟩ ⟨"s"⟩) =
        (.ok (.rolledBack n stats), a')) ∧
      ¬ ∃ printed' a', answer w.archive "" ((Command.reconcile ⟨"o"⟩ none).run .standard "") =
        (.ok (), printed', a') := by
  let first : Session.Call := .perform (.update ⟨"m"⟩ "second")
  let second : Session.Call := .perform (.protect ⟨"m"⟩)
  have h : Archive.oneNote.yields (Session.beginAs .standard ⟨"o"⟩ ⟨"s"⟩) (fun s a =>
      a.yields (Session.beginAs .standard ⟨"o"⟩ ⟨"s"⟩) fun s' a' =>
        let r := second.run s' (first.run s a').2
        decide (openSessionsOf (r.2.store.forOwner r.2.backend ⟨"o"⟩) = [⟨"s"⟩] ∧
          ¬ r.2.store.Sole ⟨"o"⟩ ⟨"s"⟩ ∧ r.2.Clear 2 ⟨"o"⟩)) = true := by decide +kernel
  obtain ⟨s, a₁, h₁, h⟩ := Archive.exists_of_yields h
  obtain ⟨s', a₂, h₂, h⟩ := Archive.exists_of_yields h
  obtain ⟨hlisted, hshared, hclear⟩ := of_decide_eq_true h
  have hbegun := ((@Interleaved.start .oneNote).begin
    (.named (c := .standard) ⟨"s"⟩ h₁)).begin (.named (c := .standard) ⟨"s"⟩ h₂)
  have hfirst := @Interleaved.call _ _ a₂ [] [s'] s first hbegun
  have hsecond := @Interleaved.call _ _ _ [(first.run s a₂).1] [] s' second hfirst
  have hdropped := @Interleaved.drop _ _ _ [] _ _ hsecond
  have hrun := @Interleaved.drop _ _ _ [] [] _ hdropped
  obtain ⟨hone, -, -, hsweep, -⟩ := listed_recovered_iff rfl hrun .standard ⟨"o"⟩
  refine ⟨_, _, hrun, rfl, hlisted, fun hback => ?_, fun hall => ?_⟩
  · exact hshared ((hone hclear.ready ⟨"s"⟩).mp hback).2.1
  · dsimp only at hsweep
    rw [hlisted] at hsweep
    exact hshared (((hsweep hclear (by decide) "" "").mp hall).1 ⟨"s"⟩ (by simp))

end CommandLine
end Curation
