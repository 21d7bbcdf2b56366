/-
# Records of two fields

What a record of two fields accepts, said of the value alone: its two fields are looked up, by name
in an object and by place in a list, and each of them is accepted (`accepts_pair`).  A list that
goes on after the two is no such record.
-/
import Curation.Proofs.Record.Blind

namespace Curation

variable {α β γ : Type}

/-- **The two fields of a record**, where they are there: by name in an object, by place in a
list. -/
def Json.pair? (first second : String) : Json → Option (Option Json × Option Json)
  | .obj ms => some ((Json.obj ms).get? first, (Json.obj ms).get? second)
  | .arr [] => some (none, none)
  | .arr [a] => some (some a, none)
  | .arr [a, b] => some (some a, some b)
  | _ => none

/-- A decoder makes something of a value. -/
def Decoder.Accepts (d : Decoder α) (j : Json) : Prop := (d j).toOption.isSome

theorem Decoder.accepts_iff {d : Decoder α} {j : Json} : d.Accepts j ↔ ∃ a, d j = .ok a := by
  unfold Accepts
  rcases d j with e | a <;> simp [Except.toOption]

namespace Fields

/-! ## 1. One field -/

/-- What a field gives, with what stands in where it is missing. -/
def value (d : Decoder α) (missing : Option α) : Option Json → Option α
  | some j => (d j).toOption
  | none => missing

theorem toOption_member_value (name : String) (d : Decoder α) (missing : Option α)
    (ms : List (String × Json)) :
    ((general name d missing missing).member ms).toOption =
      value d missing ((Json.obj ms).get? name) := by
  rw [toOption_member_general]
  rcases (Json.obj ms).get? name with _ | j <;> rfl

theorem toOption_item_value (name : String) (d : Decoder α) (missing : Option α) (i : Nat)
    (items : List Json) :
    ((general name d missing missing).item i items).toOption =
      (value d missing items.head?).map fun a => (a, items.tail) := by
  cases items with
  | nil => cases missing <;> rfl
  | cons j items =>
    simp only [general, toOption_mapError, toOption_map]
    rfl

theorem toOption_member_map (g : α → β) (x : Fields α) (ms : List (String × Json)) :
    ((g <$> x).member ms).toOption = (x.member ms).toOption.map g :=
  toOption_member_seq (Fields.pure g) x ms

theorem toOption_item_map (g : α → β) (x : Fields α) (i : Nat) (items : List Json) :
    ((g <$> x).item i items).toOption = (x.item i items).toOption.map fun r => (g r.1, r.2) :=
  toOption_item_seq (Fields.pure g) x i items

end Fields

/-! ## 2. Two fields -/

open Fields

/-- **A record of two fields** is made of what they give. -/
theorem toOption_pair (name : String) (g : α → β → γ) (first second : String) (d : Decoder α)
    (d' : Decoder β) (missing : Option α) (missing' : Option β) (j : Json) :
    (Decoder.record name (g <$> general first d missing missing <*>
      general second d' missing' missing') j).toOption =
    (j.pair? first second).bind fun p =>
      (value d missing p.1).bind fun a => (value d' missing' p.2).map (g a) := by
  cases j with
  | null | bool _ | int _ | real _ | str _ => rfl
  | obj ms =>
    rw [Decoder.toOption_record_obj, toOption_member_seq, toOption_member_map,
      toOption_member_value, toOption_member_value, Option.bind_map]
    rfl
  | arr items =>
    have hpair : (Json.arr items).pair? first second =
        if items.tail.tail.isEmpty then some (items.head?, items.tail.head?) else none := by
      rcases items with _ | ⟨a, _ | ⟨b, _ | ⟨c, rest⟩⟩⟩ <;> rfl
    rw [hpair, Decoder.toOption_record_arr, toOption_item_seq, toOption_item_map]
    simp only [toOption_item_value]
    generalize items.head? = x, items.tail = rest
    generalize hhead : rest.head? = y, hmore : rest.tail = more
    rcases hx : value d missing x with _ | a <;> rcases hy : value d' missing' y with _ | b <;>
      rcases more with _ | ⟨c, more⟩ <;> simp [hx, hy, hhead, hmore]

/-- **What a record of two fields accepts**: both fields. -/
theorem accepts_pair {name : String} {g : α → β → γ} {first second : String} {d : Decoder α}
    {d' : Decoder β} {missing : Option α} {missing' : Option β} {j : Json} :
    (Decoder.record name (g <$> general first d missing missing <*>
      general second d' missing' missing')).Accepts j ↔
    ∃ x y, j.pair? first second = some (x, y) ∧ (value d missing x).isSome ∧
      (value d' missing' y).isSome := by
  rw [Decoder.Accepts, toOption_pair]
  rcases j.pair? first second with _ | ⟨x, y⟩
  · simp
  · rcases hx : value d missing x with _ | a <;> simp [hx]

end Curation
