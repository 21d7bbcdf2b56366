/-
# Entries that can be undone

An entry can be undone exactly if it is SOUND: its digest fits, it records a forward action, its
payload has the shape of that action, and it is about one memory, or is a merge
(`inverse_ok_iff`).  The shape is said of the value itself, without the decoders.
-/
import Curation.Proofs.Audit.Trail
import Curation.Proofs.Record.Pair

namespace Curation

/-! ## 1. Shapes of payloads -/

/-- A memory as a merge records it: an id and a text. -/
def Json.IsSnapshot (j : Json) : Prop :=
  ∃ id content, j.pair? "id" "content" = some (some (.str id), some (.str content))

/-- **The shape of a payload.**  What comes after a deletion may be said, be null or be left out; a
change of a flag may have any payload. -/
def AuditAction.Shapes : AuditAction → Json → Prop
  | .update, j =>
    ∃ before after, j.pair? "before" "after" = some (some (.str before), some (.str after))
  | .delete, j =>
    ∃ before after, j.pair? "before" "after" = some (some (.str before), after) ∧
      (after = none ∨ after = some .null ∨ ∃ text, after = some (.str text))
  | .consolidate, j =>
    ∃ sources result, j.pair? "merged" "result" = some (some (.arr sources), some result) ∧
      (∀ source ∈ sources, source.IsSnapshot) ∧ result.IsSnapshot
  | .protect, _ | .unprotect, _ | .sessionComplete, _ | .sessionRollback, _ => True

section Fields

open Fields (value)

variable {α : Type} {d : Decoder α} {x : Option Json}

theorem isSome_value_none : (value d none x).isSome ↔ ∃ j, x = some j ∧ d.Accepts j := by
  cases x <;> simp [value, Decoder.Accepts]

theorem Decoder.accepts_text {j : Json} : Decoder.text.Accepts j ↔ ∃ s, j = .str s := by
  cases j <;> simp [Decoder.Accepts, Decoder.text, Except.toOption]

theorem isSome_value_text : (value Decoder.text none x).isSome ↔ ∃ s, x = some (.str s) := by
  rw [isSome_value_none]
  simp only [Decoder.accepts_text]
  exact ⟨fun ⟨_, hx, s, hj⟩ => ⟨s, hj ▸ hx⟩, fun ⟨s, hx⟩ => ⟨_, hx, s, rfl⟩⟩

theorem isSome_value_id : (value MemoryId.decode none x).isSome ↔ ∃ s, x = some (.str s) := by
  have h : ∀ j, MemoryId.decode.Accepts j ↔ Decoder.text.Accepts j := by
    intro j
    show ((Decoder.text j).map MemoryId.mk).toOption.isSome ↔ _
    rw [toOption_map, Option.isSome_map]
    exact Iff.rfl
  rw [← isSome_value_text, isSome_value_none, isSome_value_none]
  simp only [h]

theorem isSome_value_optional :
    (value Decoder.text.optional (some none) x).isSome ↔
      x = none ∨ x = some .null ∨ ∃ s, x = some (.str s) := by
  rcases x with _ | j
  · simp [value]
  · cases j <;> simp [value, Decoder.optional, Decoder.text, Except.toOption, Except.map]

theorem isSome_mapM (d : Decoder α) (items : List Json) :
    (items.mapM d).toOption.isSome ↔ ∀ item ∈ items, d.Accepts item := by
  induction items with
  | nil => simp [Except.toOption, pure, Except.pure]
  | cons item items ih =>
    rw [List.mapM_cons, toOption_bind, List.forall_mem_cons, Decoder.Accepts, ← ih]
    rcases (d item).toOption with _ | a
    · simp
    · rw [Option.bind_some, toOption_bind]
      rcases (items.mapM d).toOption with _ | as <;> simp [Except.toOption, pure, Except.pure]

theorem Decoder.accepts_list {j : Json} :
    (Decoder.list d).Accepts j ↔ ∃ items, j = .arr items ∧ ∀ item ∈ items, d.Accepts item := by
  cases j with
  | null | bool _ | int _ | real _ | str _ | obj _ =>
    simp [Decoder.Accepts, Decoder.list, Except.toOption]
  | arr items =>
    refine (isSome_mapM d items).trans ?_
    simp

end Fields

theorem MemorySnapshot.accepts_iff {j : Json} :
    MemorySnapshot.decode.Accepts j ↔ j.IsSnapshot := by
  refine accepts_pair.trans ?_
  simp only [isSome_value_id, isSome_value_text]
  constructor
  · rintro ⟨_, _, hj, ⟨id, rfl⟩, content, rfl⟩
    exact ⟨id, content, hj⟩
  · rintro ⟨id, content, hj⟩
    exact ⟨_, _, hj, ⟨id, rfl⟩, content, rfl⟩

theorem UpdatePayload.accepts_iff {j : Json} :
    UpdatePayload.decode.Accepts j ↔ AuditAction.update.Shapes j := by
  refine accepts_pair.trans ?_
  simp only [isSome_value_text]
  constructor
  · rintro ⟨_, _, hj, ⟨before, rfl⟩, after, rfl⟩
    exact ⟨before, after, hj⟩
  · rintro ⟨before, after, hj⟩
    exact ⟨_, _, hj, ⟨before, rfl⟩, after, rfl⟩

theorem DeletePayload.accepts_iff {j : Json} :
    DeletePayload.decode.Accepts j ↔ AuditAction.delete.Shapes j := by
  refine accepts_pair.trans ?_
  simp only [isSome_value_text, isSome_value_optional]
  constructor
  · rintro ⟨_, after, hj, ⟨before, rfl⟩, hafter⟩
    exact ⟨before, after, hj, hafter⟩
  · rintro ⟨before, after, hj, hafter⟩
    exact ⟨_, after, hj, ⟨before, rfl⟩, hafter⟩

theorem ConsolidatePayload.accepts_iff {j : Json} :
    ConsolidatePayload.decode.Accepts j ↔ AuditAction.consolidate.Shapes j := by
  refine accepts_pair.trans ?_
  simp only [isSome_value_none, Decoder.accepts_list, MemorySnapshot.accepts_iff]
  constructor
  · rintro ⟨_, _, hj, ⟨_, rfl, sources, rfl, hs⟩, result, rfl, hr⟩
    exact ⟨sources, result, hj, hs, hr⟩
  · rintro ⟨sources, result, hj, hs, hr⟩
    exact ⟨_, _, hj, ⟨_, rfl, sources, rfl, hs⟩, result, rfl, hr⟩

namespace AuditEntry

/-! ## 2. Sound entries -/

/-- **What an entry must be like to be undone.** -/
structure Sound (e : AuditEntry) : Prop where
  verifies : e.verifies = true
  forward : e.action.isTerminal = false
  shape : e.action.Shapes e.payload
  /-- A merge is undone by its payload alone. -/
  single : e.action ≠ .consolidate → ∃ id, e.subject = [id]

variable {e : AuditEntry}

theorem payloadAs_of_accepts {α : Type} {d : Decoder α} (h : d.Accepts e.payload) :
    ∃ p, e.payloadAs d = .ok p := by
  obtain ⟨p, hp⟩ := Decoder.accepts_iff.mp h
  exact ⟨p, by simp [payloadAs, hp]⟩

theorem singleSubject_of_eq {id : MemoryId} (h : e.subject = [id]) : e.singleSubject = .ok id := by
  simp [singleSubject, h]

theorem verifies_of_inverse {ops : List WriteOp} (h : e.inverse = .ok ops) :
    e.verifies = true := by
  unfold inverse at h
  split at h
  · cases h
  · next hv => simpa using hv

theorem shape_of_inverse {ops : List WriteOp} (h : e.inverse = .ok ops) :
    e.action.Shapes e.payload := by
  unfold inverse at h
  split at h
  · cases h
  · split at h
    case h_1 ha =>
      obtain ⟨p, hp, -⟩ := bind_ok h
      rw [ha]
      exact DeletePayload.accepts_iff.mp (Decoder.accepts_iff.mpr ⟨p, payloadAs_ok hp⟩)
    case h_2 ha =>
      obtain ⟨p, hp, -⟩ := bind_ok h
      rw [ha]
      exact UpdatePayload.accepts_iff.mp (Decoder.accepts_iff.mpr ⟨p, payloadAs_ok hp⟩)
    case h_3 ha =>
      obtain ⟨p, hp, -⟩ := bind_ok h
      rw [ha]
      exact ConsolidatePayload.accepts_iff.mp (Decoder.accepts_iff.mpr ⟨p, payloadAs_ok hp⟩)
    case h_4 ha | h_5 ha | h_6 ha | h_7 ha =>
      rw [ha]
      trivial

theorem sound_of_inverse {ops : List WriteOp} (h : e.inverse = .ok ops) : e.Sound where
  verifies := verifies_of_inverse h
  forward := forward_of_inverse h
  shape := shape_of_inverse h
  single hne := by
    cases undoing_of_inverse h with
    | delete _ hs | update _ hs _ | protect _ hs | unprotect _ hs => exact ⟨_, hs⟩
    | consolidate ha _ => exact absurd ha hne

theorem Sound.inverse (h : e.Sound) : ∃ ops, e.inverse = .ok ops := by
  obtain ⟨hv, hforward, hshape, hsingle⟩ := h
  unfold AuditEntry.inverse
  rw [hv]
  cases ha : e.action with
  | delete =>
    rw [ha] at hshape hsingle
    obtain ⟨p, hp⟩ := payloadAs_of_accepts (DeletePayload.accepts_iff.mpr hshape)
    obtain ⟨id, hid⟩ := hsingle nofun
    exact ⟨_, by simp only [hp, singleSubject_of_eq hid]; rfl⟩
  | update =>
    rw [ha] at hshape hsingle
    obtain ⟨p, hp⟩ := payloadAs_of_accepts (UpdatePayload.accepts_iff.mpr hshape)
    obtain ⟨id, hid⟩ := hsingle nofun
    exact ⟨_, by simp only [hp, singleSubject_of_eq hid]; rfl⟩
  | consolidate =>
    rw [ha] at hshape
    obtain ⟨p, hp⟩ := payloadAs_of_accepts (ConsolidatePayload.accepts_iff.mpr hshape)
    exact ⟨_, by simp only [hp]; rfl⟩
  | protect | unprotect =>
    rw [ha] at hsingle
    obtain ⟨id, hid⟩ := hsingle nofun
    exact ⟨_, by simp only [singleSubject_of_eq hid]; rfl⟩
  | sessionComplete | sessionRollback =>
    rw [ha] at hforward
    cases hforward

/-- **An entry is undone exactly if it is sound.** -/
theorem inverse_ok_iff : (∃ ops, e.inverse = .ok ops) ↔ e.Sound :=
  ⟨fun ⟨_, h⟩ => sound_of_inverse h, fun h => h.inverse⟩

end AuditEntry
end Curation
