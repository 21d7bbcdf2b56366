/-
# JSON values

Objects keep the order in which their members were given.  Whole numbers and fractional
numbers are different values: `1` and `1.0` are written differently and hashed differently.
-/
import Curation.Number.Binary64

namespace Curation

/-- A JSON value. -/
inductive Json where
  | null
  | bool (value : Bool)
  | int (value : Int)
  | real (value : Binary64)
  | str (value : String)
  | arr (items : List Json)
  | obj (members : List (String × Json))
  deriving Inhabited

namespace Json

mutual
/-- Decides equality of two values. -/
def decEq : (a b : Json) → Decidable (a = b)
  | .null, .null => isTrue rfl
  | .bool a, .bool b => if h : a = b then isTrue (by rw [h]) else isFalse (by simp [h])
  | .int a, .int b => if h : a = b then isTrue (by rw [h]) else isFalse (by simp [h])
  | .real a, .real b => if h : a = b then isTrue (by rw [h]) else isFalse (by simp [h])
  | .str a, .str b => if h : a = b then isTrue (by rw [h]) else isFalse (by simp [h])
  | .arr a, .arr b =>
    match decEqItems a b with
    | isTrue h => isTrue (by rw [h])
    | isFalse h => isFalse (by simp [h])
  | .obj a, .obj b =>
    match decEqMembers a b with
    | isTrue h => isTrue (by rw [h])
    | isFalse h => isFalse (by simp [h])
  | .null, .bool _ | .null, .int _ | .null, .real _ | .null, .str _ | .null, .arr _
  | .null, .obj _ | .bool _, .null | .bool _, .int _ | .bool _, .real _ | .bool _, .str _
  | .bool _, .arr _ | .bool _, .obj _ | .int _, .null | .int _, .bool _ | .int _, .real _
  | .int _, .str _ | .int _, .arr _ | .int _, .obj _ | .real _, .null | .real _, .bool _
  | .real _, .int _ | .real _, .str _ | .real _, .arr _ | .real _, .obj _ | .str _, .null
  | .str _, .bool _ | .str _, .int _ | .str _, .real _ | .str _, .arr _ | .str _, .obj _
  | .arr _, .null | .arr _, .bool _ | .arr _, .int _ | .arr _, .real _ | .arr _, .str _
  | .arr _, .obj _ | .obj _, .null | .obj _, .bool _ | .obj _, .int _ | .obj _, .real _
  | .obj _, .str _ | .obj _, .arr _ => isFalse (by simp)

/-- Decides equality of two lists of values. -/
def decEqItems : (a b : List Json) → Decidable (a = b)
  | [], [] => isTrue rfl
  | [], _ :: _ | _ :: _, [] => isFalse (by simp)
  | x :: xs, y :: ys =>
    match decEq x y, decEqItems xs ys with
    | isTrue h, isTrue h' => isTrue (by rw [h, h'])
    | isFalse h, _ => isFalse (by simp [h])
    | _, isFalse h => isFalse (by simp [h])

/-- Decides equality of two lists of members. -/
def decEqMembers : (a b : List (String × Json)) → Decidable (a = b)
  | [], [] => isTrue rfl
  | [], _ :: _ | _ :: _, [] => isFalse (by simp)
  | (k, x) :: xs, (l, y) :: ys =>
    if hk : k = l then
      match decEq x y, decEqMembers xs ys with
      | isTrue h, isTrue h' => isTrue (by rw [hk, h, h'])
      | isFalse h, _ => isFalse (by simp [h])
      | _, isFalse h => isFalse (by simp [h])
    else isFalse (by simp [hk])
end

instance : DecidableEq Json := decEq

/-- The empty object. -/
def empty : Json := .obj []

/-- Whether a value is null. -/
def isNull : Json → Bool
  | .null => true
  | _ => false

/-- A natural number as a value. -/
def ofNat (n : Nat) : Json := .int n

/-- A double as a value; JSON has no number that is infinite or undefined, so those are null. -/
def ofDouble (x : Binary64) : Json := if x.isFinite then .real x else .null

/-- An optional value, absent as null. -/
def ofOption {α : Type} (f : α → Json) : Option α → Json
  | none => .null
  | some a => f a

/-- The member of a name, in an object. -/
def get? (name : String) : Json → Option Json
  | .obj members => (members.find? (·.1 == name)).map (·.2)
  | _ => none

/-- **Setting a member.**  A name that is present keeps its place and gets the new value; a
new name goes last. -/
def setMember (name : String) (value : Json) : List (String × Json) → List (String × Json)
  | [] => [(name, value)]
  | (k, v) :: rest => if k = name then (k, value) :: rest else (k, v) :: setMember name value rest

/-- Setting a member leaves the others alone. -/
theorem find?_setMember_of_ne {name other : String} (h : other ≠ name) (value : Json) :
    ∀ ms : List (String × Json),
      (setMember name value ms).find? (·.1 == other) = ms.find? (·.1 == other)
  | [] => by simp [setMember, Ne.symm h]
  | (k, v) :: rest => by
    unfold setMember
    split
    · next hk => subst hk; simp [Ne.symm h]
    · simp only [List.find?_cons]
      split
      · rfl
      · exact find?_setMember_of_ne h value rest

/-- A member that was set is found. -/
theorem find?_setMember_self (name : String) (value : Json) :
    ∀ ms : List (String × Json),
      (setMember name value ms).find? (·.1 == name) = some (name, value)
  | [] => by simp [setMember]
  | (k, v) :: rest => by
    unfold setMember
    split
    · next hk => subst hk; simp
    · next hk => simp [hk, find?_setMember_self name value rest]

end Json
end Curation
