/-
# Canonical JSON

Two values mean the same record when they differ only in the order of object members and in
members that are null.  The normal form sorts the members of every object by name and drops
the null ones; list items keep their places, null ones too.  The canonical text is the
compact text of the normal form.
-/
import Curation.Json.Printer
import Curation.Sorting

namespace Curation.Json

/-- The order of members: by name, character by character. -/
def memberLe (a b : String × Json) : Bool :=
  decide (a.1 ≤ b.1)

mutual
/-- The normal form of a value. -/
def normal : Json → Json
  | .null => .null
  | .bool b => .bool b
  | .int i => .int i
  | .real x => .real x
  | .str s => .str s
  | .arr items => .arr (normalItems items)
  | .obj members => .obj (sortBy memberLe (normalMembers members))

/-- The items of a list in normal form. -/
def normalItems : List Json → List Json
  | [] => []
  | item :: items => item.normal :: normalItems items

/-- The members of an object in normal form, without the null ones, not yet sorted. -/
def normalMembers : List (String × Json) → List (String × Json)
  | [] => []
  | (name, value) :: members =>
    if value.isNull then normalMembers members
    else (name, value.normal) :: normalMembers members
end

/-- The canonical text of a value. -/
def canonical (value : Json) : String :=
  value.normal.compact

/-- **Same record.**  Equal up to the order of members and to null members. -/
def Same (a b : Json) : Prop :=
  a.normal = b.normal

instance (a b : Json) : Decidable (Same a b) :=
  inferInstanceAs (Decidable (a.normal = b.normal))

end Curation.Json
