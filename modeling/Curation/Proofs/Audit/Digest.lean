/-
# What a digest gives away

The digest of an entry covers the canonical text of its session, its action, its subject and its
payload.  Two entries have one such text exactly if these are the same, the payloads up to the order
of members and null members (`text_eq_iff`).  So where SHA-256 does not collide, an entry that was
changed verifies against the digest it had exactly if the change was no more than that
(`tamper_evident`).
-/
import Curation.Proofs.Audit.Inverse
import Curation.Proofs.Ident
import Curation.Proofs.Json.Printed

namespace Curation

/-! ## 1. Digests -/

namespace ContentDigest

theorem byteDigits_inj {b c : UInt8} (h : byteDigits b = byteDigits c) : b = c := by
  simp only [byteDigits, List.cons.injEq, and_true] at h
  have hb := b.toNat_lt
  have hc := c.toNat_lt
  have hhigh := Ident.digitChar_inj _ (by omega) _ (by omega) h.1
  have hlow := Ident.digitChar_inj _ (by omega) _ (by omega) h.2
  exact UInt8.toNat_inj.mp (by omega)

theorem flatMap_byteDigits_inj : ∀ {bs cs : List UInt8},
    bs.flatMap byteDigits = cs.flatMap byteDigits → bs = cs
  | [], [], _ => rfl
  | [], _ :: _, h | _ :: _, [], h => by simp [byteDigits] at h
  | b :: bs, c :: cs, h => by
    rw [List.flatMap_cons, List.flatMap_cons] at h
    obtain ⟨hb, hbs⟩ := List.append_inj h rfl
    rw [byteDigits_inj hb, flatMap_byteDigits_inj hbs]

/-- **A digest is the hash.** -/
theorem ofText_eq_iff {s t : String} :
    ofText s = ofText t ↔ Sha256.hash s.toUTF8 = Sha256.hash t.toUTF8 := by
  unfold ofText ofBytes
  rw [ContentDigest.mk.injEq]
  constructor
  · intro h
    exact flatMap_byteDigits_inj (String.ofList_injective h)
  · intro h
    rw [h]

end ContentDigest

/-! ## 2. What the digest covers -/

namespace AuditEntry

open Json

theorem encode_inj {a b : AuditAction} (h : a.encode = b.encode) : a = b := by
  cases a <;> cases b <;> first | rfl | simp [AuditAction.encode, AuditAction.name] at h

theorem subjectJson_inj {ids ids' : List MemoryId} (h : subjectJson ids = subjectJson ids') :
    ids = ids' := by
  unfold subjectJson at h
  rw [Json.arr.injEq] at h
  refine (List.map_injective_iff.mpr fun i j hij => ?_) h
  cases i
  cases j
  cases hij
  rfl

theorem normal_subjectJson (subject : List MemoryId) :
    (subjectJson subject).normal = subjectJson subject := by
  rw [subjectJson, Json.normal, normalItems_map]
  simp only [Json.normal]

/-- **The normal form of what is covered.**  A payload that is null is not there. -/
theorem normal_covered (session : SessionId) (action : AuditAction) (subject : List MemoryId)
    (payload : Json) :
    (covered session action subject payload).normal = .obj (("action", action.encode) ::
      ((if payload.isNull then [] else [("payload", payload.normal)]) ++
        [("session_id", .str session.text), ("subject_ref", subjectJson subject)])) := by
  have haction : action.encode.normal = action.encode := by
    simp [AuditAction.encode, Json.normal]
  have hnull : action.encode.isNull = false ∧ (Json.str session.text).isNull = false ∧
      (subjectJson subject).isNull = false := ⟨rfl, rfl, rfl⟩
  cases hp : payload.isNull <;>
    simp [covered, Json.normal, normalMembers, hp, hnull, normal_subjectJson, haction, sortBy,
      insertBy, memberLe]

/-- **What is covered has one normal form** exactly if the parts are the same, the payload up to its
normal form. -/
theorem normal_covered_inj {session session' : SessionId} {action action' : AuditAction}
    {subject subject' : List MemoryId} {p q : Json} :
    (covered session action subject p).normal = (covered session' action' subject' q).normal ↔
      session = session' ∧ action = action' ∧ subject = subject' ∧ p.normal = q.normal := by
  rw [normal_covered, normal_covered, Json.obj.injEq]
  constructor
  · intro h
    have hparts : action.encode = action'.encode ∧ session.text = session'.text ∧
        subjectJson subject = subjectJson subject' ∧ p.normal = q.normal := by
      cases hp : p.isNull <;> cases hq : q.isNull <;> simp [hp, hq] at h
      · exact ⟨h.1, h.2.2.1, h.2.2.2, h.2.1⟩
      · rw [eq_null_of_isNull hp, eq_null_of_isNull hq]
        exact ⟨h.1, h.2.1, h.2.2, rfl⟩
    obtain ⟨ha, hs, hsub, hpay⟩ := hparts
    exact ⟨congrArg SessionId.mk hs, encode_inj ha, subjectJson_inj hsub, hpay⟩
  · rintro ⟨rfl, rfl, rfl, h⟩
    rw [h, isNull_of_normal_eq h]

theorem proper_covered {session : SessionId} {action : AuditAction} {subject : List MemoryId}
    {p : Json} (hp : p.Proper) : (covered session action subject p).Proper := by
  have hsubject : (subjectJson subject).Proper := by
    rw [subjectJson, Proper, properItems_iff]
    intro j hj
    obtain ⟨id, -, rfl⟩ := List.mem_map.mp hj
    rw [Proper]
    trivial
  have haction : action.encode.Proper := by
    rw [AuditAction.encode, Proper]
    trivial
  rw [covered, Proper, properMembers_iff]
  refine ⟨by simp, ?_⟩
  simp only [List.forall_mem_cons, List.not_mem_nil, false_implies, implies_true, and_true]
  exact ⟨by rw [Proper]; trivial, haction, hsubject, hp⟩

theorem numbers_covered (session : SessionId) (action : AuditAction) (subject : List MemoryId)
    (p : Json) : (covered session action subject p).numbers = p.numbers := by
  have hitems : ∀ ids : List MemoryId, itemNumbers (ids.map fun id => .str id.text) = [] := by
    intro ids
    induction ids with
    | nil => simp [itemNumbers]
    | cons id ids ih => simp [itemNumbers, numbers, ih]
  simp [covered, numbers, memberNumbers, AuditAction.encode, subjectJson, hitems]

/-! ## 3. Entries -/

/-- The text that the digest of an entry is taken of. -/
def text (e : AuditEntry) : String :=
  (covered e.session e.action e.subject e.payload).canonical

/-- **The same in all that the digest covers**, but for the order of members and for null members
of the payload. -/
structure Alike (e e' : AuditEntry) : Prop where
  session : e.session = e'.session
  action : e.action = e'.action
  subject : e.subject = e'.subject
  payload : e.payload.Alike e'.payload

variable {e e' : AuditEntry}

/-- **One text exactly for alike entries.** -/
theorem text_eq_iff (hp : e.payload.Proper) (hp' : e'.payload.Proper)
    (hn : ToldApart e.payload.numbers e'.payload.numbers) : e.text = e'.text ↔ e.Alike e' := by
  have hnumbers : ToldApart (covered e.session e.action e.subject e.payload).numbers
      (covered e'.session e'.action e'.subject e'.payload).numbers := by
    rw [numbers_covered, numbers_covered]
    exact hn
  rw [text, text, canonical_eq_iff (proper_covered hp) (proper_covered hp') hnumbers,
    alike_iff (proper_covered hp), normal_covered_inj, ← alike_iff hp]
  exact ⟨fun ⟨hs, ha, hsub, hpay⟩ => ⟨hs, ha, hsub, hpay⟩,
    fun h => ⟨h.session, h.action, h.subject, h.payload⟩⟩

theorem verifies_iff : e.verifies = true ↔ ContentDigest.ofText e.text = e.digest := by
  rw [verifies, beq_iff_eq]
  rfl

/-- **The digest is tamper evident.**  Entries whose numbers are told apart by their texts have one
text under the digest exactly if they are alike; and where SHA-256 does not collide on these texts,
an entry that took the place of one that verifies, under the digest of that one, verifies exactly
if the two are alike. -/
theorem tamper_evident (hp : e.payload.Proper) (hp' : e'.payload.Proper)
    (hn : ToldApart e.payload.numbers e'.payload.numbers) :
    (e.text = e'.text ↔ e.Alike e') ∧
    ((Sha256.hash e.text.toUTF8 = Sha256.hash e'.text.toUTF8 → e.text = e'.text) →
      e.verifies = true → e'.digest = e.digest → (e'.verifies = true ↔ e.Alike e')) := by
  have htext := text_eq_iff hp hp' hn
  refine ⟨htext, fun hsha he hd => ?_⟩
  rw [verifies_iff] at he
  rw [verifies_iff, hd, ← he, ContentDigest.ofText_eq_iff, ← htext]
  constructor
  · intro h
    exact hsha h.symm
  · intro h
    rw [h]

/-- An entry whose payload was rewritten, and the same with a number changed. -/
theorem tamper_evident_rewritten :
    let e := make ⟨"e"⟩ ⟨0, 0⟩ ⟨"s"⟩ ⟨"o"⟩ 1 .update [⟨"m"⟩]
      (.obj [("before", .str "a"), ("after", .null), ("count", .int 1)])
    let rewritten := { e with payload := .obj [("count", .int 1), ("before", .str "a")] }
    let changed := { e with payload := .obj [("before", .str "a"), ("count", .int 2)] }
    rewritten.verifies = true ∧ changed.verifies = false := by
  intro e rewritten changed
  have he : e.verifies = true := verifies_make ..
  have hp : e.payload.Proper := by simp [e, make, Proper, ProperMembers]
  have hr : rewritten.payload.Proper := by simp [rewritten, Proper, ProperMembers]
  have hc : changed.payload.Proper := by simp [changed, Proper, ProperMembers]
  have hlike : e.Alike rewritten := by
    refine ⟨rfl, rfl, rfl, ?_⟩
    exact (Json.Alike.dropped [("before", .str "a")] [("count", .int 1)] "after").trans
      (.moved (.swap ..))
  have hone : e.payload.numbers = [.int 1] := by simp [e, make, numbers, memberNumbers]
  have hone' : rewritten.payload.numbers = [.int 1] := by
    simp [rewritten, numbers, memberNumbers]
  have htwo : changed.payload.numbers = [.int 2] := by simp [changed, numbers, memberNumbers]
  have hn : ToldApart e.payload.numbers rewritten.payload.numbers := by
    rw [hone, hone']
    simp [ToldApart]
  have hn' : ToldApart e.payload.numbers changed.payload.numbers := by
    have hdiffer : (Json.int 1).compact ≠ (Json.int 2).compact := by decide
    rw [hone, htwo]
    simp [ToldApart, hdiffer]
  obtain ⟨htext, hv⟩ := tamper_evident hp hr hn
  obtain ⟨htext', hv'⟩ := tamper_evident hp hc hn'
  refine ⟨(hv (fun _ => htext.mpr hlike) he rfl).mpr hlike, ?_⟩
  have hne : e.text ≠ changed.text := by decide +kernel
  have hno : Sha256.hash e.text.toUTF8 ≠ Sha256.hash changed.text.toUTF8 := by decide +kernel
  rw [Bool.eq_false_iff, ne_eq, hv' (fun h => absurd h hno) he rfl, ← htext']
  exact hne

end AuditEntry
end Curation
