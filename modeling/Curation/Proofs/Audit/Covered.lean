/-
# What the digest covers is what is read

The digest of an entry does not see the order of members and null members of its payload, and
nothing that reads the payload sees them either.  So whatever a store may do to a payload without
the digest noticing, undoing the entry is not changed by it, and what was recorded is read again
(`decoded_as_covered`).
-/
import Curation.Proofs.Audit.Digest

namespace Curation

open Json

namespace AuditEntry

variable {α : Type} {e : AuditEntry} {j j' : Json}

theorem digestOf_alike (hj : j.Proper) (h : j.Alike j') (session : SessionId)
    (action : AuditAction) (subject : List MemoryId) :
    digestOf session action subject j = digestOf session action subject j' := by
  rw [← digestOf_normal _ _ _ j, (alike_iff hj).mp h, digestOf_normal]

theorem verifies_alike (hj : j.Proper) (h : j.Alike j') :
    { e with payload := j }.verifies = { e with payload := j' }.verifies := by
  simp only [verifies, digestOf_alike hj h]

theorem toOption_payloadAs (e : AuditEntry) (d : Decoder α) :
    (e.payloadAs d).toOption = (d e.payload).toOption := by
  simp only [payloadAs, corrupt]
  rcases d e.payload with cause | a <;> rfl

/-- **An entry is undone alike**, or not at all, under alike payloads. -/
theorem inverse_alike (hj : j.Proper) (hj' : j'.Proper) (h : j.Alike j') :
    { e with payload := j }.inverse.toOption = { e with payload := j' }.inverse.toOption := by
  have hdecoded : ∀ {a b : AuditEntry} {α : Type} {d : Decoder α}
      (f : α → Except CurationError (List WriteOp)), (d a.payload).toOption =
        (d b.payload).toOption → (a.payloadAs d >>= f).toOption =
        (b.payloadAs d >>= f).toOption := by
    intro a b α d f hab
    rw [toOption_bind, toOption_bind, toOption_payloadAs, toOption_payloadAs, hab]
  have hv := verifies_alike (e := e) hj h
  obtain ⟨id, session, owner, seq, action, subject, payload, digest, created⟩ := e
  simp only [inverse, hv]
  split
  · rfl
  · cases action with
    | delete => exact hdecoded _ (DeletePayload.blind.alike hj hj' h)
    | update => exact hdecoded _ (UpdatePayload.blind.alike hj hj' h)
    | consolidate => exact hdecoded _ (ConsolidatePayload.blind.alike hj hj' h)
    | protect | unprotect | sessionComplete | sessionRollback => rfl

/-- **A payload is read back** from any entry it was recorded in, however the payload of the entry
was rewritten without the digest noticing, and the entry verifies. -/
def ReadsBack (decode : Decoder α) (encode : α → Json) (p : α) : Prop :=
  ∀ id created session owner seq action subject rewritten, rewritten.Proper →
    (encode p).Alike rewritten →
    let e := { make id created session owner seq action subject (encode p) with
      payload := rewritten }
    e.payloadAs decode = .ok p ∧ e.verifies = true

theorem readsBack_of_blind {decode : Decoder α} {encode : α → Json} {p : α}
    (hd : decode.Blind) (hp : (encode p).Proper) (hok : decode (encode p) = .ok p) :
    ReadsBack decode encode p := by
  intro id created session owner seq action subject rewritten hr h e
  have hread : decode rewritten = .ok p := hd.read_alike hp hr h hok
  constructor
  · simp [e, payloadAs, hread]
  · exact (verifies_alike (e := make id created session owner seq action subject (encode p))
      hp h).symm.trans (verifies_make ..)

/-- **What is decoded depends only on what the digest covers.**  Under alike payloads an entry is
undone by the same ops, or under neither; and a payload of any kind is read back from a payload
alike to the one recorded, under an entry that still verifies. -/
theorem decoded_as_covered :
    (∀ (e : AuditEntry) (j j' : Json), j.Proper → j'.Proper → j.Alike j' →
      { e with payload := j }.inverse.toOption = { e with payload := j' }.inverse.toOption) ∧
    (∀ p, ReadsBack UpdatePayload.decode UpdatePayload.encode p) ∧
    (∀ p, ReadsBack DeletePayload.decode DeletePayload.encode p) ∧
    (∀ p, ReadsBack ConsolidatePayload.decode ConsolidatePayload.encode p) ∧
    (∀ p, ReadsBack FlagPayload.decode FlagPayload.encode p) ∧
    (∀ p : CompletePayload, p.stats.Counts →
      ReadsBack CompletePayload.decode CompletePayload.encode p) ∧
    (∀ p : RollbackPayload, p.Ranged →
      ReadsBack RollbackPayload.decode RollbackPayload.encode p) := by
  refine ⟨fun e j j' hj hj' h => inverse_alike hj hj' h, fun p => ?_, fun p => ?_, fun p => ?_,
    fun p => ?_, fun p hp => ?_, fun p hp => ?_⟩
  · exact readsBack_of_blind UpdatePayload.blind p.proper p.decode_encode
  · exact readsBack_of_blind DeletePayload.blind p.proper p.decode_encode
  · exact readsBack_of_blind ConsolidatePayload.blind p.proper p.decode_encode
  · exact readsBack_of_blind FlagPayload.blind p.proper p.decode_encode
  · exact readsBack_of_blind CompletePayload.blind p.proper (CompletePayload.decode_encode hp)
  · exact readsBack_of_blind RollbackPayload.blind hp.proper (RollbackPayload.decode_encode hp)

/-- A merge with the members of its one source turned around and a null one put between them, and a
rollback after a crash without the null that stood for the measurement that was lost. -/
theorem decoded_as_covered_rewritten :
    let source := Json.obj [("id", .str "a"), ("content", .str "x")]
    let turned := Json.obj [("content", .str "x"), ("note", .null), ("id", .str "a")]
    let result := Json.obj [("id", .str "b"), ("content", .str "xx")]
    let e := make ⟨"e"⟩ ⟨0, 0⟩ ⟨"s"⟩ ⟨"o"⟩ 1 .consolidate []
      (.obj [("merged", .arr [source]), ("result", result)])
    let rewritten := { e with payload := .obj [("merged", .arr [turned]), ("result", result)] }
    let p : RollbackPayload := ⟨none, 7, .ofRatio false 3 4, .none, "lost"⟩
    let r := make ⟨"r"⟩ ⟨0, 0⟩ ⟨"s"⟩ ⟨"o"⟩ 2 .sessionRollback [] p.encode
    let shortened := { r with payload := .obj [("post_session_mass", .ofNat 7),
      ("threshold", .ofDouble (.ofRatio false 3 4)), ("stats", SessionStats.none.encode),
      ("reason", .str "lost")] }
    rewritten.inverse.toOption = some [.setTombstone ⟨"b"⟩ true, .setTombstone ⟨"a"⟩ false] ∧
      shortened.payloadAs RollbackPayload.decode = .ok p ∧ shortened.verifies = true := by
  intro source turned result e rewritten p r shortened
  have hsource : source.Alike turned :=
    (Json.Alike.dropped [("id", .str "a")] [("content", .str "x")] "note").symm.trans
      (.moved (by decide))
  have hp : e.payload.Proper := by
    simp [e, make, source, result, Proper, ProperMembers, ProperItems]
  have hp' : rewritten.payload.Proper := by
    simp [rewritten, turned, result, Proper, ProperMembers, ProperItems]
  have hlike : e.payload.Alike rewritten.payload :=
    .member [] [("result", result)] "merged" (.item [] [] hsource)
  have hundone : e.inverse.toOption =
      some [.setTombstone ⟨"b"⟩ true, .setTombstone ⟨"a"⟩ false] := by
    rw [show e = (make ⟨"e"⟩ ⟨0, 0⟩ ⟨"s"⟩ ⟨"o"⟩ 1 .consolidate []
      (ConsolidatePayload.mk [⟨⟨"a"⟩, "x"⟩] ⟨⟨"b"⟩, "xx"⟩).encode).kept .inMemory from rfl,
      inverse_consolidate]
    rfl
  have hranged : p.Ranged := {
    pre := by simp [p]
    post := by decide
    positive := by decide +kernel
    atMostOne := by decide +kernel
    stats := ⟨by decide, by decide, by decide, by decide, by decide⟩ }
  have hshort : shortened.payload.Proper := by
    have h := hranged.proper
    rw [RollbackPayload.encode, Proper, ProperMembers] at h
    rw [Proper]
    exact ⟨by decide, h.2.2⟩
  obtain ⟨hinverse, -, -, -, -, -, hrollback⟩ := decoded_as_covered
  refine ⟨(hinverse e _ _ hp' hp hlike.symm).trans hundone, ?_⟩
  exact hrollback p hranged _ _ _ _ _ _ _ _ hshort (.dropped [] _ "pre_session_mass")

end AuditEntry
end Curation
