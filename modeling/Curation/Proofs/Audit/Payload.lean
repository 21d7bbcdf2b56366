/-
# Payloads are read back

What is recorded in a payload is read from it again, and the decoders of payloads are blind to the
order of members and to null members.  So a payload is read back from any value alike to the one
recorded, the one that the database keeps among them.

Numbers are read within the limits of their fields: a tally holds counts of 32 bits, a mass has 64,
and a threshold lies in `(0, 1]`.
-/
import Curation.Audit.Payload
import Curation.Proofs.Number.Order
import Curation.Proofs.Record.Blind

namespace Curation

open Json

/-! ## 1. The decoders of payloads are blind -/

section Blind

open Decoder Fields

theorem MemoryId.blind : Decoder.Blind MemoryId.decode := blind_text.map MemoryId.mk

theorem SessionId.blind : Decoder.Blind SessionId.decode := blind_text.map SessionId.mk

theorem MemorySnapshot.blind : Decoder.Blind MemorySnapshot.decode :=
  blind_record (((blind_field MemoryId.blind rfl).map _).seq (blind_field blind_text rfl))

theorem SessionStats.blind : Decoder.Blind SessionStats.decode := by
  have hcount : ∀ name, Fields.Blind (Fields.field name word32) :=
    fun name => blind_field (blind_below _ _) rfl
  exact blind_record ((((((hcount _).map _).seq (hcount _)).seq (hcount _)).seq (hcount _)).seq
    (hcount _))

theorem UpdatePayload.blind : Decoder.Blind UpdatePayload.decode :=
  blind_record (((blind_field blind_text rfl).map _).seq (blind_field blind_text rfl))

/-- That nothing comes after a deletion may be said by null or not at all. -/
theorem DeletePayload.blind : Decoder.Blind DeletePayload.decode :=
  blind_record (((blind_field blind_text rfl).map _).seq (blind_defaulted blind_text.optional rfl))

theorem ConsolidatePayload.blind : Decoder.Blind ConsolidatePayload.decode :=
  blind_record (((blind_field MemorySnapshot.blind.list rfl).map _).seq
    (blind_field MemorySnapshot.blind rfl))

theorem FlagPayload.blind : Decoder.Blind FlagPayload.decode :=
  blind_record (blind_pure _)

theorem CompletePayload.blind : Decoder.Blind CompletePayload.decode :=
  blind_record ((((blind_field SessionId.blind rfl).map _).seq (blind_field blind_text rfl)).seq
    (blind_field SessionStats.blind rfl))

theorem RollbackPayload.blind : Decoder.Blind RollbackPayload.decode :=
  blind_record ((((((blind_optional (blind_below _ _)).map _).seq
    (blind_field (blind_below _ _) rfl)).seq (blind_field blind_double rfl)).seq
    (blind_field SessionStats.blind rfl)).seq (blind_field blind_text rfl))

end Blind

/-! ## 2. Members that are read back -/

theorem decode_below {limit n : Nat} (h : n < limit) (want : String) :
    Decoder.below limit want (.ofNat n) = .ok n := by
  have hn : (0 : Int) ≤ n ∧ (n : Int) < limit := ⟨Int.natCast_nonneg n, Int.ofNat_lt.mpr h⟩
  simp [Decoder.below, Json.ofNat, hn]

/-- A list is read back item by item. -/
theorem mapM_map_ok {α : Type} {d : Decoder α} {f : α → Json} (h : ∀ x, d (f x) = .ok x) :
    ∀ xs : List α, (xs.map f).mapM d = .ok xs
  | [] => rfl
  | x :: xs => by
    rw [List.map_cons, List.mapM_cons, h x, mapM_map_ok h xs]
    rfl

namespace Fields

variable {α β : Type} {ms : List (String × Json)} {name : String} {i : Nat}

theorem field_ok {d : Decoder α} {j : Json} {a : α} (hl : locate name ms = some (i, j))
    (hd : d j = .ok a) : (field name d).member ms = .ok a := by
  simp [field, general, hl, hd, Except.mapError]

theorem optional_ok {d : Decoder α} {j : Json} {a : Option α} (hl : locate name ms = some (i, j))
    (hd : d.optional j = .ok a) : (Fields.optional name d).member ms = .ok a := by
  simp [Fields.optional, general, hl, hd, Except.mapError]

theorem text_ok {s : String} (hl : locate name ms = some (i, .str s)) :
    (field name Decoder.text).member ms = .ok s :=
  field_ok hl rfl

theorem word32_ok {n : Nat} (hl : locate name ms = some (i, .ofNat n)) (h : n < twoTo 32) :
    (field name Decoder.word32).member ms = .ok n :=
  field_ok hl (decode_below h _)

theorem word64_ok {n : Nat} (hl : locate name ms = some (i, .ofNat n)) (h : n < twoTo 64) :
    (field name Decoder.word64).member ms = .ok n :=
  field_ok hl (decode_below h _)

theorem map_ok {x : Fields α} {g : α → β} {a : α} (hx : x.member ms = .ok a) :
    (g <$> x).member ms = .ok (g a) := by
  show (Fields.seq (Fields.pure g) x).member ms = _
  simp [Fields.seq, Fields.pure, hx]

theorem seq_ok {f : Fields (α → β)} {x : Fields α} {g : α → β} {a : α}
    (hf : f.member ms = .ok g) (hx : x.member ms = .ok a) : (f <*> x).member ms = .ok (g a) := by
  show (Fields.seq f x).member ms = _
  simp [Fields.seq, hf, hx]

theorem record_ok {f : Fields α} {a : α} (hf : f.member ms = .ok a) :
    Decoder.record name f (.obj ms) = .ok a := by
  simp [Decoder.record, Decoder.members, hf]

end Fields

/-! ## 3. Payloads that are read back -/

section ReadBack

open Fields (field_ok optional_ok text_ok word32_ok word64_ok map_ok seq_ok record_ok)

/-- Counts of 32 bits. -/
structure SessionStats.Counts (s : SessionStats) : Prop where
  consolidated : s.consolidated < twoTo 32
  updated : s.updated < twoTo 32
  deleted : s.deleted < twoTo 32
  protected_ : s.protected_ < twoTo 32
  unprotected : s.unprotected < twoTo 32

theorem SessionStats.proper (s : SessionStats) : s.encode.Proper := by
  simp [SessionStats.encode, Json.ofNat, Proper, ProperMembers]

theorem SessionStats.decode_encode {s : SessionStats} (h : s.Counts) :
    SessionStats.decode s.encode = .ok s := by
  refine record_ok (seq_ok (seq_ok (seq_ok (seq_ok (map_ok (word32_ok (i := 0) ?_ h.consolidated))
    (word32_ok (i := 1) ?_ h.updated)) (word32_ok (i := 2) ?_ h.deleted))
    (word32_ok (i := 3) ?_ h.protected_)) (word32_ok (i := 4) ?_ h.unprotected)) <;> rfl

theorem MemorySnapshot.proper (m : MemorySnapshot) : m.encode.Proper := by
  simp [MemorySnapshot.encode, Proper, ProperMembers]

theorem MemorySnapshot.decode_encode (m : MemorySnapshot) :
    MemorySnapshot.decode m.encode = .ok m := rfl

theorem UpdatePayload.proper (p : UpdatePayload) : p.encode.Proper := by
  simp [UpdatePayload.encode, Proper, ProperMembers]

theorem UpdatePayload.decode_encode (p : UpdatePayload) :
    UpdatePayload.decode p.encode = .ok p := rfl

theorem DeletePayload.proper (p : DeletePayload) : p.encode.Proper := by
  obtain ⟨before, _ | after⟩ := p <;>
    simp [DeletePayload.encode, Json.ofOption, Proper, ProperMembers]

theorem DeletePayload.decode_encode (p : DeletePayload) :
    DeletePayload.decode p.encode = .ok p := by
  obtain ⟨before, _ | after⟩ := p <;> rfl

theorem ConsolidatePayload.proper (p : ConsolidatePayload) : p.encode.Proper := by
  simp [ConsolidatePayload.encode, Proper, ProperMembers, properItems_iff, MemorySnapshot.proper]

theorem ConsolidatePayload.decode_encode (p : ConsolidatePayload) :
    ConsolidatePayload.decode p.encode = .ok p := by
  have hmerged : Decoder.list MemorySnapshot.decode (.arr (p.merged.map MemorySnapshot.encode)) =
      .ok p.merged :=
    mapM_map_ok MemorySnapshot.decode_encode p.merged
  refine record_ok (seq_ok (map_ok (field_ok (i := 0) ?_ hmerged))
    (field_ok (i := 1) ?_ p.result.decode_encode)) <;> rfl

theorem FlagPayload.proper (p : FlagPayload) : p.encode.Proper := by
  simp [FlagPayload.encode, Json.empty, Proper, ProperMembers]

theorem FlagPayload.decode_encode (p : FlagPayload) : FlagPayload.decode p.encode = .ok p := rfl

theorem CompletePayload.proper (p : CompletePayload) : p.encode.Proper := by
  simp [CompletePayload.encode, Proper, ProperMembers, SessionStats.proper]

theorem CompletePayload.decode_encode {p : CompletePayload} (h : p.stats.Counts) :
    CompletePayload.decode p.encode = .ok p := by
  refine record_ok (seq_ok (seq_ok (map_ok (field_ok (i := 0) (j := .str p.session.text) ?_ ?_))
    (text_ok (i := 1) ?_)) (field_ok (i := 2) ?_ (SessionStats.decode_encode h))) <;> rfl

/-- What the fields of a rollback's payload may hold. -/
structure RollbackPayload.Ranged (p : RollbackPayload) : Prop where
  pre : ∀ n, p.preMass = some n → n < twoTo 64
  post : p.postMass < twoTo 64
  positive : Binary64.zero.lt p.threshold = true
  atMostOne : p.threshold.le Binary64.one = true
  stats : p.stats.Counts

/-- A threshold is a finite number. -/
theorem Threshold.isFinite (t : Threshold) : t.value.isFinite = true := by
  obtain ⟨q, hq, -, hone⟩ := t.rank
  have hlt : Binary64.rankOf 1 < Rank.infinite := by decide +kernel
  rw [hq]
  exact decide_eq_true (hone.trans_lt hlt)

theorem RollbackPayload.Ranged.isFinite {p : RollbackPayload} (h : p.Ranged) :
    p.threshold.isFinite = true :=
  Threshold.isFinite ⟨p.threshold, h.positive, h.atMostOne⟩

theorem RollbackPayload.Ranged.proper {p : RollbackPayload} (h : p.Ranged) :
    p.encode.Proper := by
  have hpre : (Json.ofOption .ofNat p.preMass).Proper := by
    rcases p.preMass with _ | n <;> simp [Json.ofOption, Json.ofNat, Proper]
  simp [RollbackPayload.encode, Json.ofDouble, Json.ofNat, Proper, ProperMembers,
    SessionStats.proper, h.isFinite, hpre]

theorem RollbackPayload.decode_encode {p : RollbackPayload} (h : p.Ranged) :
    RollbackPayload.decode p.encode = .ok p := by
  have hpre : Decoder.word64.optional (Json.ofOption .ofNat p.preMass) = .ok p.preMass := by
    rcases hm : p.preMass with _ | n
    · rfl
    · show (Decoder.word64 (.ofNat n)).map some = .ok (some n)
      rw [Decoder.word64, decode_below (h.pre n hm)]
      rfl
  have hthreshold : Decoder.double (.ofDouble p.threshold) = .ok p.threshold := by
    rw [Json.ofDouble, if_pos h.isFinite]
    rfl
  refine record_ok (seq_ok (seq_ok (seq_ok (seq_ok (map_ok (optional_ok (i := 0) ?_ hpre))
    (word64_ok (i := 1) ?_ h.post)) (field_ok (i := 2) ?_ hthreshold))
    (field_ok (i := 3) ?_ (SessionStats.decode_encode h.stats))) (text_ok (i := 4) ?_)) <;> rfl

end ReadBack

end Curation
