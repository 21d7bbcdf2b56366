/-
# Content digests

A digest is the SHA-256 hash of some bytes, written as 64 hexadecimal digits in lower case.
-/
import Curation.Digest.Sha256
import Curation.StorageError

namespace Curation

/-- A content digest, as its hexadecimal digits. -/
structure ContentDigest where
  hex : String
  deriving DecidableEq, Inhabited

namespace ContentDigest

/-- Whether a character is a hexadecimal digit of either case. -/
def isHexDigit (c : Char) : Bool :=
  ('0' ≤ c && c ≤ '9') || ('a' ≤ c && c ≤ 'f') || ('A' ≤ c && c ≤ 'F')

/-- The digits of a byte. -/
def byteDigits (b : UInt8) : List Char :=
  [Nat.digitChar (b.toNat / 16), Nat.digitChar (b.toNat % 16)]

/-- The digest of some bytes. -/
def ofBytes (bytes : ByteArray) : ContentDigest :=
  ⟨String.ofList ((Sha256.hash bytes).flatMap byteDigits)⟩

/-- The digest of a text. -/
def ofText (text : String) : ContentDigest :=
  ofBytes text.toUTF8

/-- **Reading a digest.**  Exactly 64 bytes, all hexadecimal digits; capitals are lowered. -/
def read (text : String) : Except StorageError ContentDigest :=
  if text.utf8ByteSize = 64 ∧ text.toList.all isHexDigit then
    .ok ⟨String.ofList (text.toList.map Char.toLower)⟩
  else .error (.backend (.invalidDigest text))

/-- The first twelve digits. -/
def short (d : ContentDigest) : String :=
  String.ofList (d.hex.toList.take 12)

end ContentDigest
end Curation
