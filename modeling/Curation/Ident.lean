/-
# Identifiers

Memories, owners, sessions and audit entries are named by texts that the library never looks
into.  Each kind has a type of its own, so one cannot stand for another.
-/
import Curation.Text.Lines
import Curation.Number.Rounding

namespace Curation

/-- Names one memory. -/
structure MemoryId where
  text : String
  deriving DecidableEq, Inhabited

/-- Names the agent or user that a collection of memories belongs to. -/
structure OwnerId where
  text : String
  deriving DecidableEq, Inhabited

/-- Names one refinement session; the audit entries of the session carry it. -/
structure SessionId where
  text : String
  deriving DecidableEq, Inhabited

/-- Names one audit entry. -/
structure EntryId where
  text : String
  deriving DecidableEq, Inhabited

instance : ToString MemoryId := ⟨MemoryId.text⟩
instance : ToString OwnerId := ⟨OwnerId.text⟩
instance : ToString SessionId := ⟨SessionId.text⟩
instance : ToString EntryId := ⟨EntryId.text⟩

namespace Ident

/-- The last hexadecimal digits of a number, as many as asked for. -/
def hexDigits : Nat → Nat → List Char
  | 0, _ => []
  | width + 1, n => hexDigits width (n / 16) ++ [Nat.digitChar (n % 16)]

/-- **A generated identifier.**  The number fills the free digits of a random identifier of
version four: 36 characters in five groups, with the digits of version and variant fixed. -/
def generated (n : Nat) : String :=
  let group (width : Nat) (shift : Nat) := hexDigits width (n / twoTo shift)
  String.ofList (group 8 88 ++ '-' :: group 4 72 ++ '-' :: '4' :: group 3 60 ++
    '-' :: '8' :: group 3 48 ++ '-' :: group 12 0)

end Ident

end Curation
