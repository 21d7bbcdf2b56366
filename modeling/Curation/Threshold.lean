/-
# Thresholds

The share of its core mass that an owner must keep through a session: a double above zero
and at most one.
-/
import Curation.StorageError

namespace Curation

/-- A share in `(0, 1]`. -/
structure Threshold where
  value : Binary64
  positive : Binary64.zero.lt value = true
  atMostOne : value.le Binary64.one = true
  deriving DecidableEq

namespace Threshold

/-- **Making a threshold.**  An undefined number fails both comparisons, so it is refused
with the rest. -/
def ofValue (value : Binary64) : Except StorageError Threshold :=
  if h : Binary64.zero.lt value = true ∧ value.le Binary64.one = true then .ok ⟨value, h.1, h.2⟩
  else .error (.invalidSetting (.threshold value))

/-- Three quarters, the share that applies where nothing else is said. -/
def standard : Threshold :=
  ⟨Binary64.ofRatio false 3 4, by decide +kernel, by decide +kernel⟩

/-- The text of a threshold in a sentence. -/
def text (t : Threshold) : String :=
  Layout.plain.text t.value

/-- A number is accepted exactly when it lies in `(0, 1]`. -/
theorem ofValue_eq_ok_iff {value : Binary64} {t : Threshold} :
    ofValue value = .ok t ↔ t.value = value := by
  unfold ofValue
  split
  · next h =>
    constructor
    · intro he
      cases he
      rfl
    · rintro rfl
      rfl
  · next h =>
    constructor
    · intro he
      cases he
    · rintro rfl
      exact absurd ⟨t.positive, t.atMostOne⟩ h

end Threshold
end Curation
