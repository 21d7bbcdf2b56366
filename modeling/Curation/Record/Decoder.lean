/-
# Decoding records

A JSON value is decoded strictly into a typed record: a value of the wrong type is refused,
never converted.  Members may come in any order, unknown ones are passed over, and a record
may also be given as the list of its fields in order.

When a record has several faults, one is reported: a bad member before an absent one, of the
bad members the first in the text, of the absent ones the first that the record declares.
-/
import Curation.Json.Basic
import Curation.StorageError
import Curation.Digest.Content
import Curation.Threshold
import Curation.Text.Quoted
import Curation.Time.Calendar

namespace Curation

/-! ## 1. Errors -/

/-- Why a value did not decode. -/
inductive DecodeError where
  | wrongType (got want : String)
  | wrongValue (got want : String)
  | wrongLength (length : Nat) (want : String)
  | missingField (name : String)
  | unknownVariant (name : String) (known : List String)
  | badTime (cause : TimeError)
  | refused (cause : StorageError)
  deriving DecidableEq

/-- The choices of a list of names, two of them joined by a word. -/
def oneOf : List String → String
  | [] => "there are no variants"
  | [a] => "expected " ++ ticked a
  | [a, b] => "expected " ++ ticked a ++ " or " ++ ticked b
  | names => "expected one of " ++ ", ".intercalate (names.map ticked)

/-- The wording of a decoding error. -/
def DecodeError.message : DecodeError → String
  | .wrongType got want => "invalid type: " ++ got ++ ", expected " ++ want
  | .wrongValue got want => "invalid value: " ++ got ++ ", expected " ++ want
  | .wrongLength length want => "invalid length " ++ toString length ++ ", expected " ++ want
  | .missingField name => "missing field " ++ ticked name
  | .unknownVariant name known => "unknown variant " ++ ticked name ++ ", " ++ oneOf known
  | .badTime cause => cause.message
  | .refused cause => cause.message

/-- How messages describe a value that was not wanted. -/
def Json.described : Json → String
  | .null => "null"
  | .bool b => "boolean " ++ ticked (if b then "true" else "false")
  | .int i => "integer " ++ ticked (toString i)
  | .real x => "floating point " ++ ticked (Layout.json.text x)
  | .str s => "string " ++ quoted s
  | .arr _ => "sequence"
  | .obj _ => "map"

/-- A count of elements in words. -/
def elements : Nat → String
  | 1 => "1 element"
  | n => toString n ++ " elements"

/-! ## 2. Values -/

/-- Decodes a value. -/
abbrev Decoder (α : Type) := Json → Except DecodeError α

namespace Decoder

/-- Any value at all. -/
def any : Decoder Json := .ok

/-- A text. -/
def text : Decoder String
  | .str s => .ok s
  | j => .error (.wrongType j.described "a string")

/-- A truth value. -/
def bool : Decoder Bool
  | .bool b => .ok b
  | j => .error (.wrongType j.described "a boolean")

/-- A double; a whole number is rounded to one. -/
def double : Decoder Binary64
  | .int i => .ok (Binary64.ofInt i)
  | .real x => .ok x
  | j => .error (.wrongType j.described "f64")

/-- A whole number that is not negative and lies below a limit. -/
def below (limit : Nat) (want : String) : Decoder Nat
  | .int i =>
    if 0 ≤ i ∧ i < limit then .ok i.toNat
    else .error (.wrongValue (Json.int i).described want)
  | j => .error (.wrongType j.described want)

/-- A whole number of 64 bits. -/
def word64 : Decoder Nat := below (twoTo 64) "u64"

/-- A whole number of 32 bits. -/
def word32 : Decoder Nat := below (twoTo 32) "u32"

/-- A count, which has 64 bits too. -/
def count : Decoder Nat := below (twoTo 64) "usize"

/-- A value that may be null. -/
def optional {α : Type} (d : Decoder α) : Decoder (Option α)
  | .null => .ok none
  | j => (d j).map some

/-- A list, decoded item by item up to the first fault. -/
def list {α : Type} (d : Decoder α) : Decoder (List α)
  | .arr items => items.mapM d
  | j => .error (.wrongType j.described "a sequence")

/-- One of some names, or an object with such a name alone and nothing in it. -/
def variant {α : Type} (known : List (String × α)) : Decoder α
  | .str s => find s
  | .obj [(name, payload)] => do
    let a ← find name
    match payload with
    | .null => return a
    | j => throw (.wrongType j.described "unit")
  | .obj _ => .error (.wrongValue "map" "map with a single key")
  | j => .error (.wrongType j.described "string or map")
where
  /-- The meaning of a name. -/
  find (s : String) : Except DecodeError α :=
    match known.find? (·.1 == s) with
    | some (_, a) => .ok a
    | none => .error (.unknownVariant s (known.map (·.1)))

/-- A digest. -/
def digest : Decoder ContentDigest := fun j => do
  (ContentDigest.read (← text j)).mapError .refused

/-- A threshold. -/
def threshold : Decoder Threshold := fun j => do
  (Threshold.ofValue (← double j)).mapError .refused

/-- A point in time. -/
def instant : Decoder Instant
  | .str s => (Instant.read s).mapError .badTime
  | j => .error (.wrongType j.described "an RFC 3339 formatted date and time string")

end Decoder

/-! ## 3. Records -/

/-- The fault of a record given as an object: a bad member at a place in the text, or an
absent field. -/
inductive MemberFault where
  | bad (place : Nat) (error : DecodeError)
  | absent (name : String)

/-- The fault to report of two, the first one being of an earlier declared field. -/
def MemberFault.first : MemberFault → MemberFault → MemberFault
  | .bad i e, .bad j f => if j < i then .bad j f else .bad i e
  | .absent _, .bad j f => .bad j f
  | a, .absent _ => a

/-- The fault of a record given as a list: a bad item, or too few of them. -/
inductive ItemFault where
  | bad (error : DecodeError)
  | short (found : Nat)

/-- **Decodes the fields of a record**, from the members of an object in any order or from
the items of a list in the declared order.  `item` also returns the items it left. -/
structure Fields (α : Type) where
  arity : Nat
  member : List (String × Json) → Except MemberFault α
  item : Nat → List Json → Except ItemFault (α × List Json)

namespace Fields

/-- No fields. -/
def pure {α : Type} (a : α) : Fields α where
  arity := 0
  member _ := .ok a
  item _ items := .ok (a, items)

/-- The fields of a function and then those of its argument. -/
def seq {α β : Type} (f : Fields (α → β)) (x : Fields α) : Fields β where
  arity := f.arity + x.arity
  member ms :=
    match f.member ms, x.member ms with
    | .ok g, .ok a => .ok (g a)
    | .error e, .ok _ => .error e
    | .ok _, .error e => .error e
    | .error e, .error e' => .error (e.first e')
  item i items :=
    match f.item i items with
    | .error e => .error e
    | .ok (g, rest) =>
      match x.item (i + f.arity) rest with
      | .error e => .error e
      | .ok (a, rest) => .ok (g a, rest)

/-- The place of a member of a name, and its value. -/
def locate (name : String) (ms : List (String × Json)) : Option (Nat × Json) :=
  match ms.findIdx? (·.1 == name) with
  | none => none
  | some i => (ms[i]?).map fun m => (i, m.2)

/-- A field, with the value that stands in when it is absent, if there is one, and the value
that stands in when a list ends before it, if there is one. -/
def general {α : Type} (name : String) (d : Decoder α) (absent ended : Option α) :
    Fields α where
  arity := 1
  member ms :=
    match locate name ms with
    | some (i, j) => (d j).mapError (.bad i)
    | none => match absent with
      | some a => .ok a
      | none => .error (.absent name)
  item i
    | [] => match ended with
      | some a => .ok (a, [])
      | none => .error (.short i)
    | j :: rest => ((d j).map fun a => (a, rest)).mapError .bad

/-- A field that must be there. -/
def field {α : Type} (name : String) (d : Decoder α) : Fields α :=
  general name d none none

/-- A field that may be null, and absent from an object. -/
def optional {α : Type} (name : String) (d : Decoder α) : Fields (Option α) :=
  general name d.optional (some none) none

/-- A field with a default, in an object and in a list. -/
def defaulted {α : Type} (name : String) (d : Decoder α) (default : α) : Fields α :=
  general name d (some default) (some default)

instance : Pure Fields := ⟨Fields.pure⟩
instance : Functor Fields := ⟨fun f x => seq (pure f) x, fun a x => seq (pure fun _ => a) x⟩
instance : Seq Fields := ⟨fun f x => seq f (x ())⟩

end Fields

namespace Decoder

/-- A record from the members of an object. -/
def members {α : Type} (f : Fields α) (ms : List (String × Json)) : Except DecodeError α :=
  match f.member ms with
  | .ok a => .ok a
  | .error (.bad _ e) => .error e
  | .error (.absent name) => .error (.missingField name)

/-- A record of the given name. -/
def record {α : Type} (name : String) (f : Fields α) : Decoder α
  | .obj ms => members f ms
  | .arr items =>
    match f.item 0 items with
    | .ok (a, []) => .ok a
    | .ok _ => .error (.wrongLength items.length "fewer elements in array")
    | .error (.bad e) => .error e
    | .error (.short n) =>
      .error (.wrongLength n ("struct " ++ name ++ " with " ++ elements f.arity))
  | j => .error (.wrongType j.described ("struct " ++ name))

end Decoder
end Curation
