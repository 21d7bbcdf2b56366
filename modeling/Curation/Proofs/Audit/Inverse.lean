/-
# The inverse of an entry

An entry that a session wrote verifies, and its inverse is read off it again, whichever backend
keeps it: the database stores payloads in their normal form, which changes neither the digest nor
what is decoded.

A trail is unwound from its newest entry on.  Its ops are those of the newest entry followed by
those of the rest (`unwind_cons`).
-/
import Curation.Proofs.Audit.Payload
import Curation.Proofs.Store.Batch
import Curation.Audit.Unwind

namespace Curation

namespace AuditEntry

variable (b : Backend)

/-! ## 1. Entries as they are kept -/

@[simp] theorem kept_id (e : AuditEntry) : (e.kept b).id = e.id := rfl

@[simp] theorem kept_session (e : AuditEntry) : (e.kept b).session = e.session := rfl

@[simp] theorem kept_owner (e : AuditEntry) : (e.kept b).owner = e.owner := rfl

@[simp] theorem kept_seq (e : AuditEntry) : (e.kept b).seq = e.seq := rfl

@[simp] theorem kept_action (e : AuditEntry) : (e.kept b).action = e.action := rfl

@[simp] theorem kept_subject (e : AuditEntry) : (e.kept b).subject = e.subject := rfl

@[simp] theorem kept_payload (e : AuditEntry) : (e.kept b).payload = e.payload.kept b := rfl

/-- The digest covers the payload up to its normal form. -/
theorem digestOf_normal (session : SessionId) (action : AuditAction) (subject : List MemoryId)
    (payload : Json) :
    digestOf session action subject payload.normal = digestOf session action subject payload := by
  have h : (covered session action subject payload.normal).normal
      = (covered session action subject payload).normal := by
    simp [covered, Json.normal, Json.normalMembers, Json.normal_normal]
  rw [digestOf, Json.canonical, h, digestOf, Json.canonical]

/-- **An entry verifies as it is kept** exactly if it verified as it was made. -/
theorem verifies_kept (e : AuditEntry) : (e.kept b).verifies = e.verifies := by
  cases b with
  | inMemory => rfl
  | database => simp only [verifies, kept, Json.kept, digestOf_normal]

/-! ## 2. Payloads as they are kept -/

/-- **What was recorded is read back** from the payload as it is kept. -/
theorem decode_kept {α : Type} {d : Decoder α} (hd : d.Blind) {payload : Json}
    (hpayload : payload.Proper) {p : α} (h : d payload = .ok p) : d (payload.kept b) = .ok p := by
  cases b with
  | inMemory => exact h
  | database => exact hd.read_normal hpayload h

theorem decode_kept_update (p : UpdatePayload) :
    UpdatePayload.decode (p.encode.kept b) = .ok p :=
  decode_kept b UpdatePayload.blind p.proper p.decode_encode

theorem decode_kept_delete (before : String) :
    DeletePayload.decode ((DeletePayload.mk before none).encode.kept b) = .ok ⟨before, none⟩ :=
  decode_kept b DeletePayload.blind (DeletePayload.proper _) (DeletePayload.decode_encode _)

theorem decode_kept_consolidate (p : ConsolidatePayload) :
    ConsolidatePayload.decode (p.encode.kept b) = .ok p :=
  decode_kept b ConsolidatePayload.blind p.proper p.decode_encode

/-! ## 3. The inverses of the forward actions -/

variable (id : EntryId) (created : Instant) (session : SessionId) (owner : OwnerId) (seq : Nat)

theorem inverse_update (mid : MemoryId) (before after : String) :
    ((make id created session owner seq .update [mid]
      (UpdatePayload.mk before after).encode).kept b).inverse = .ok [.setContent mid before] := by
  have hd := decode_kept_update b ⟨before, after⟩
  simp only [inverse, verifies_kept, verifies_make, payloadAs, kept_action, kept_payload,
    singleSubject, kept_subject]
  simp [make, hd]
  rfl

theorem inverse_delete (mid : MemoryId) (before : String) :
    ((make id created session owner seq .delete [mid]
      (DeletePayload.mk before none).encode).kept b).inverse = .ok [.setTombstone mid false] := by
  have hd := decode_kept_delete b before
  simp only [inverse, verifies_kept, verifies_make, payloadAs, kept_action, kept_payload,
    singleSubject, kept_subject]
  simp [make, hd]
  rfl

theorem inverse_consolidate (subject : List MemoryId) (p : ConsolidatePayload) :
    ((make id created session owner seq .consolidate subject p.encode).kept b).inverse =
      .ok (mergeInverse p) := by
  have hd := decode_kept_consolidate b p
  simp only [inverse, verifies_kept, verifies_make, payloadAs, kept_action, kept_payload]
  simp [make, hd]

theorem inverse_protect (mid : MemoryId) (payload : Json) :
    ((make id created session owner seq .protect [mid] payload).kept b).inverse =
      .ok [.setConstitutional mid false] := by
  simp only [inverse, verifies_kept, verifies_make, kept_action, singleSubject, kept_subject]
  rfl

theorem inverse_unprotect (mid : MemoryId) (payload : Json) :
    ((make id created session owner seq .unprotect [mid] payload).kept b).inverse =
      .ok [.setConstitutional mid true] := by
  simp only [inverse, verifies_kept, verifies_make, kept_action, singleSubject, kept_subject]
  rfl

/-! ## 4. The inverse of a trail -/

/-- A trail all of whose places lie below one can come after it. -/
theorem unwindAfter_of_lt {es : List AuditEntry} {last : Nat} (h : ∀ e ∈ es, e.seq < last) :
    unwindAfter (some last) es = unwind es := by
  cases es with
  | nil => rfl
  | cons e es =>
    have he : ¬ last ≤ e.seq := Nat.not_le.mpr (h e List.mem_cons_self)
    simp only [unwind, unwindAfter, inOrder, if_neg he]

/-- **The newest entry is undone first.** -/
theorem unwind_cons {e : AuditEntry} {es : List AuditEntry} {inv ops : List WriteOp}
    (he : e.inverse = .ok inv) (hes : unwind es = .ok ops) (h : ∀ x ∈ es, x.seq < e.seq) :
    unwind (e :: es) = .ok (inv ++ ops) := by
  rw [← unwindAfter_of_lt h] at hes
  simp only [unwind, unwindAfter, inOrder, he, hes]
  rfl

end AuditEntry
end Curation
