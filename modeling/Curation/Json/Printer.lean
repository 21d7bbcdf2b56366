/-
# Writing JSON

The compact form has no blanks at all.  The spread form puts each item and member on a line
of its own, indented by two spaces, and leaves empty containers closed up.
-/
import Curation.Json.Basic
import Curation.Number.Decimal

namespace Curation.Json

/-! ## 1. Scalars -/

/-- One character inside a string: the two characters that would end or escape it, the
control characters by name where they have one, and everything else as it is. -/
def escapedChar (c : Char) : List Char :=
  if c = '"' then ['\\', '"']
  else if c = '\\' then ['\\', '\\']
  else if c = '\x08' then ['\\', 'b']
  else if c = '\x0c' then ['\\', 'f']
  else if c = '\n' then ['\\', 'n']
  else if c = '\r' then ['\\', 'r']
  else if c = '\t' then ['\\', 't']
  else if c.toNat < 0x20 then
    ['\\', 'u', '0', '0', Nat.digitChar (c.toNat / 16), Nat.digitChar (c.toNat % 16)]
  else [c]

/-- A string with its quotes. -/
def stringChars (text : String) : List Char :=
  '"' :: (text.toList.flatMap escapedChar ++ ['"'])

/-- A fractional number; JSON has no word for an infinite or undefined one, which is null. -/
def realText (x : Binary64) : String :=
  if x.isFinite then Layout.json.text x else "null"

/-! ## 2. The compact form -/

mutual
/-- The characters of a value. -/
def chars : Json → List Char
  | .null => "null".toList
  | .bool b => if b then "true".toList else "false".toList
  | .int i => (toString i).toList
  | .real x => (realText x).toList
  | .str s => stringChars s
  | .arr [] => ['[', ']']
  | .arr (item :: items) => '[' :: (item.chars ++ itemChars items)
  | .obj [] => ['\x7b', '\x7d']
  | .obj ((name, value) :: members) =>
    '\x7b' :: (stringChars name ++ ':' :: (value.chars ++ memberChars members))

/-- The items after the first, and the end of the list. -/
def itemChars : List Json → List Char
  | [] => [']']
  | item :: items => ',' :: (item.chars ++ itemChars items)

/-- The members after the first, and the end of the object. -/
def memberChars : List (String × Json) → List Char
  | [] => ['\x7d']
  | (name, value) :: members =>
    ',' :: (stringChars name ++ ':' :: (value.chars ++ memberChars members))
end

/-- The compact text of a value. -/
def compact (value : Json) : String :=
  String.ofList value.chars

/-! ## 3. The spread form -/

/-- A new line and its indentation. -/
def newLine (depth : Nat) : List Char :=
  '\n' :: List.replicate (2 * depth) ' '

mutual
/-- The characters of a value whose lines are indented to a depth. -/
def spreadChars (depth : Nat) : Json → List Char
  | .arr (item :: items) =>
    '[' :: (newLine (depth + 1) ++ item.spreadChars (depth + 1) ++ spreadItems depth items)
  | .obj ((name, value) :: members) =>
    '\x7b' :: (newLine (depth + 1) ++ stringChars name ++
      ':' :: ' ' :: (value.spreadChars (depth + 1) ++ spreadMembers depth members))
  | .arr [] => ['[', ']']
  | .obj [] => ['\x7b', '\x7d']
  | .null => "null".toList
  | .bool b => if b then "true".toList else "false".toList
  | .int i => (toString i).toList
  | .real x => (realText x).toList
  | .str s => stringChars s

/-- The items after the first, and the end of the list. -/
def spreadItems (depth : Nat) : List Json → List Char
  | [] => newLine depth ++ [']']
  | item :: items =>
    ',' :: (newLine (depth + 1) ++ item.spreadChars (depth + 1) ++ spreadItems depth items)

/-- The members after the first, and the end of the object. -/
def spreadMembers (depth : Nat) : List (String × Json) → List Char
  | [] => newLine depth ++ ['\x7d']
  | (name, value) :: members =>
    ',' :: (newLine (depth + 1) ++ stringChars name ++
      ':' :: ' ' :: (value.spreadChars (depth + 1) ++ spreadMembers depth members))
end

/-- The spread text of a value. -/
def spread (value : Json) : String :=
  String.ofList (value.spreadChars 0)

end Curation.Json
