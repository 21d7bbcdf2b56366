/-
# Quoted text

How a message shows a text that it was given: between double quotes, with the characters
that would not be seen written by name or by number.
-/
import Curation.Text.PrintTable

namespace Curation

/-- One character inside a quoted text. -/
def quotedChar (c : Char) : List Char :=
  if c = '"' then ['\\', '"']
  else if c = '\\' then ['\\', '\\']
  else if c = '\n' then ['\\', 'n']
  else if c = '\r' then ['\\', 'r']
  else if c = '\t' then ['\\', 't']
  else if c.toNat = 0 then ['\\', '0']
  else if c.toNat < 0x20 ∨ c.toNat = 0x7f ∨ PrintTable.hidden.contains c then
    ['\\', 'u', '\x7b'] ++ Nat.toDigits 16 c.toNat ++ ['\x7d']
  else [c]

/-- A text between double quotes. -/
def quoted (text : String) : String :=
  String.ofList ('"' :: text.toList.flatMap quotedChar ++ ['"'])

/-- A path between double quotes, in which a single quote is marked as well. -/
def quotedPath (path : String) : String :=
  String.ofList ('"' :: path.toList.flatMap
    (fun c => if c = '\x27' then ['\\', '\x27'] else quotedChar c) ++ ['"'])

/-- A text between single back quotes, as names are set off in messages. -/
def ticked (text : String) : String :=
  "\x60" ++ text ++ "\x60"

end Curation
