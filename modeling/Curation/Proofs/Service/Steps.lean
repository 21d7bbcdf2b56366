/-
# The service

Many owners use one archive.  A `Service` is the archive with the sessions that are alive, and a
step of it is something that one owner does: a session is begun, a call is made on a session, a
session is dropped, a request is served.  Between steps the clock moves on, ids are drawn and
faults strike.

Sessions of different owners live beside each other and may have the same id: an id counts as used
only once an entry has been written under it.
-/
import Mathlib.Logic.Relation
import Curation.Proofs.Session.Recovery
import Curation.Transcript

namespace Curation

/-! ## 1. What an owner can ask for -/

/-- Begins a session, under an id that is given or under a new one. -/
def Session.beginFor (c : Config) (owner : OwnerId) : Option SessionId → CurationM Session
  | some sid => beginAs c owner sid
  | none => begin_ c owner

/-- A request that is served without a session. -/
inductive Request where
  | reconcile (session : SessionId)
  | ingest (extract : Extractor) (turns : List Turn)
  | create (content : String) (kind : MemoryKind)
  | chooseThreshold (value : Binary64)

/-- What becomes of the archive when a request is served, refused or not. -/
def Request.serve (c : Config) (owner : OwnerId) (a : Archive) : Request → Archive
  | .reconcile session => (a.answer (Recovery.reconcile c owner session)).2
  | .ingest extract turns => (a.answer (Curation.ingest c extract owner turns)).2
  | .create content kind => (a.answer (c.rules.create owner content kind)).2
  | .chooseThreshold value => (a.answer (Archive.chooseThreshold owner value)).2

/-! ## 2. Steps -/

/-- An archive and the sessions that are alive on it. -/
structure Service where
  archive : Archive
  sessions : List Session

namespace Service

/-- **A step**: what is done on behalf of an owner, or nothing that concerns the store. -/
inductive Step (c : Config) (owner : OwnerId) : Service → Service → Prop
  | begin {a a' : Archive} {ss : List Session} {r : Except CurationError Session}
      (sid : Option SessionId) (h : a.answer (Session.beginFor c owner sid) = (r, a')) :
      Step c owner ⟨a, ss⟩ ⟨a', ss ++ r.toOption.toList⟩
  | call {a : Archive} {before after : List Session} {s : Session} (call : Session.Call)
      (ho : s.params.owner = owner) :
      Step c owner ⟨a, before ++ s :: after⟩
        ⟨(call.run s a).2, before ++ (call.run s a).1 :: after⟩
  | drop {a : Archive} {before after : List Session} {s : Session}
      (ho : s.params.owner = owner) : Step c owner ⟨a, before ++ s :: after⟩ ⟨a, before ++ after⟩
  | serve {a : Archive} {ss : List Session} (request : Request) :
      Step c owner ⟨a, ss⟩ ⟨request.serve c owner a, ss⟩
  | idle {a a' : Archive} {ss : List Session} (h : Archive.Still a a') :
      Step c owner ⟨a, ss⟩ ⟨a', ss⟩

/-- What can come of a service, whoever does what in whatever order. -/
def Reached : Service → Service → Prop :=
  Relation.ReflTransGen fun w w' => ∃ c owner, Step c owner w w'

end Service

/-! ## 3. Beginnings -/

namespace Session

theorem still_usage (rules : MemoryRules) (owner : OwnerId) (kind : MemoryKind) (a : Archive) :
    Archive.Still a (a.answer (rules.usage owner kind)).2 := by
  obtain ⟨r, a', h, hst, -⟩ := Archive.usage_cases rules owner kind a
  rw [h]
  exact hst

theorem still_beginAs (c : Config) (owner : OwnerId) (sid : SessionId) (a : Archive) :
    Archive.Still a (a.answer (beginAs c owner sid)).2 := by
  unfold beginAs
  dsimp only
  split
  · exact .refl a
  · refine .bind (Archive.reads_forSession sid a).1 fun es a₁ => ?_
    split
    · exact .refl a₁
    · exact .bind (still_usage _ _ _ a₁) fun _ a₂ =>
        .bind (Archive.reads_threshold _ _ a₂).1 fun _ a₃ =>
          .bind (still_deadline c a₃) fun _ a₄ => .refl a₄

/-- **A beginning writes nothing**, whether it is answered, refused or broken off. -/
theorem still_of_beginFor {c : Config} {owner : OwnerId} {sid : Option SessionId} {a a' : Archive}
    {r : Except CurationError Session} (h : a.answer (beginFor c owner sid) = (r, a')) :
    Archive.Still a a' := by
  have hst : Archive.Still a (a.answer (beginFor c owner sid)).2 := by
    cases sid with
    | some sid => exact still_beginAs c owner sid a
    | none =>
      refine .bind ?_ fun id => still_beginAs c owner ⟨id⟩
      rw [Archive.answer_lift, Archive.run_newId]
      exact ⟨rfl, rfl, rfl, rfl⟩
  rwa [h] at hst

/-- A session that begins under an id has it. -/
theorem session_of_beginAs {c : Config} {owner : OwnerId} {sid : SessionId}
    {a a' : Archive} {s : Session} (h : a.answer (beginAs c owner sid) = (.ok s, a')) :
    s.params.session = sid := by
  unfold beginAs at h
  dsimp only at h
  split at h
  · cases h
  · obtain ⟨_, _, _, h⟩ := Archive.answer_bind_ok h
    split at h
    · cases h
    · obtain ⟨_, _, _, h⟩ := Archive.answer_bind_ok h
      obtain ⟨_, _, _, h⟩ := Archive.answer_bind_ok h
      obtain ⟨_, _, _, h⟩ := Archive.answer_bind_ok h
      cases h
      rfl

/-- The id under which a session begins: the one that is given, or else the next one drawn. -/
theorem begins_of_beginFor {c : Config} {owner : OwnerId} {sid : Option SessionId}
    {a a' : Archive} {s : Session} (h : a.answer (beginFor c owner sid) = (.ok s, a')) :
    Begins c owner a s a' ∧ s.params.session = sid.getD ⟨Ident.generated a.drawn⟩ := by
  cases sid with
  | some id => exact ⟨.named id h, session_of_beginAs h⟩
  | none =>
    refine ⟨.drawn h, ?_⟩
    obtain ⟨sid, a₁, hn, h⟩ := Archive.answer_bind_ok h
    rw [Archive.answer_lift, Archive.run_newId] at hn
    -- the id is kept closed, or it would be computed
    generalize Ident.generated a.drawn = new at hn ⊢
    cases hn
    exact session_of_beginAs h

end Session
end Curation
