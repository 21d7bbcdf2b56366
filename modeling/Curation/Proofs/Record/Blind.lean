/-
# What decoding does not see

A store may reorder the members of an object and drop those that are null.  A decoder is BLIND to
that if it makes the same of a value and of its normal form, where it makes anything of them at
all.  Two alike values then decode alike (`Blind.alike`).

Blindness is proved piece by piece, as decoders are put together.  What is to be watched is a field:
an absent member and a null one have one normal form, so a field is blind only if it takes the one
for the other (`Fields.blind_general`).  Which fault is reported may differ, and so may its place.
-/
import Mathlib.Data.List.Nodup
import Curation.Proofs.Json.Alike
import Curation.Record.Decoder

namespace Curation

variable {α β : Type}

/-! ## 1. Results, whatever the fault -/

section Results

variable {ε ε' : Type}

theorem toOption_map (f : α → β) (x : Except ε α) :
    (x.map f).toOption = x.toOption.map f := by
  cases x <;> rfl

theorem toOption_bind (x : Except ε α) (f : α → Except ε β) :
    (x >>= f).toOption = x.toOption.bind fun a => (f a).toOption := by
  cases x <;> rfl

theorem toOption_mapError (f : ε → ε') (x : Except ε α) :
    (x.mapError f).toOption = x.toOption := by
  cases x <;> rfl

theorem toOption_eq_some_iff {x : Except ε α} {a : α} : x.toOption = some a ↔ x = .ok a := by
  cases x <;> simp [Except.toOption]

end Results

/-! ## 2. Members of a normal form -/

namespace Json

theorem get?_eq_some_iff {ms : List (String × Json)} (hd : (ms.map (·.1)).Nodup) {name : String}
    {j : Json} : (obj ms).get? name = some j ↔ (name, j) ∈ ms := by
  simp only [get?, Option.map_eq_some_iff]
  constructor
  · rintro ⟨m, hm, rfl⟩
    have hname : m.1 = name := by simpa using List.find?_some hm
    rw [← hname]
    exact List.mem_of_find?_eq_some hm
  · intro h
    obtain ⟨m, hm⟩ : ∃ m, ms.find? (·.1 == name) = some m :=
      Option.isSome_iff_exists.mp (List.find?_isSome.mpr ⟨_, h, by simp⟩)
    have hname : m.1 = name := by simpa using List.find?_some hm
    have hsame := List.inj_on_of_nodup_map hd (List.mem_of_find?_eq_some hm) h hname
    exact ⟨m, hm, by rw [hsame]⟩

theorem mem_normalMembers {m : String × Json} : ∀ {ms : List (String × Json)},
    m ∈ normalMembers ms ↔ ∃ j, (m.1, j) ∈ ms ∧ j.isNull = false ∧ m.2 = j.normal
  | [] => by simp [normalMembers]
  | (name, value) :: ms => by
    obtain ⟨key, j⟩ := m
    have ih : (key, j) ∈ normalMembers ms ↔
        ∃ v, (key, v) ∈ ms ∧ v.isNull = false ∧ j = v.normal := mem_normalMembers
    cases hn : value.isNull with
    | true =>
      simp only [normalMembers, hn, if_true, ih, List.mem_cons, Prod.mk.injEq]
      refine exists_congr fun v => and_congr_left fun hv => ⟨.inr, ?_⟩
      rintro (⟨-, rfl⟩ | h)
      · rw [hn] at hv
        cases hv.1
      · exact h
    | false =>
      simp only [normalMembers, hn, Bool.false_eq_true, if_false, List.mem_cons, Prod.mk.injEq, ih]
      constructor
      · rintro (⟨rfl, rfl⟩ | ⟨v, hv, hrest⟩)
        · exact ⟨value, .inl ⟨rfl, rfl⟩, hn, rfl⟩
        · exact ⟨v, .inr hv, hrest⟩
      · rintro ⟨v, ⟨rfl, rfl⟩ | hv, hrest⟩
        · exact .inl ⟨rfl, hrest.2⟩
        · exact .inr ⟨v, hv, hrest⟩

/-- **A member of a normal form** is the normal form of the member, and of one that is null there
is none. -/
theorem get?_normal {ms : List (String × Json)} (hd : (ms.map (·.1)).Nodup) (name : String) :
    (obj (sortBy memberLe (normalMembers ms))).get? name =
      ((obj ms).get? name).bind fun j => if j.isNull then none else some j.normal := by
  have hd' : ((sortBy memberLe (normalMembers ms)).map (·.1)).Nodup :=
    ((sortBy_perm memberLe (normalMembers ms)).map _).nodup_iff.mpr
      ((normalMembers_names ms).nodup hd)
  refine Option.ext fun j => ?_
  rw [get?_eq_some_iff hd', mem_sortBy, mem_normalMembers]
  simp only [Option.bind_eq_some_iff, get?_eq_some_iff hd]
  refine exists_congr fun v => and_congr_right fun _ => ?_
  cases v.isNull <;> simp [eq_comm]

end Json

namespace Fields

theorem locate_eq {name : String} : ∀ (ms : List (String × Json)),
    (locate name ms).map (·.2) = (Json.obj ms).get? name
  | [] => rfl
  | (key, j) :: ms => by
    have ih : (locate name ms).map (·.2) = (Json.obj ms).get? name := locate_eq ms
    simp only [locate, Json.get?] at ih ⊢
    rw [List.findIdx?_cons, List.find?_cons]
    cases hk : key == name with
    | true => simp
    | false =>
      simp only [Bool.false_eq_true, if_false]
      rcases hi : ms.findIdx? (·.1 == name) with _ | i
      · simpa [hi] using ih
      · simpa [hi, Option.map_map, Function.comp_def] using ih

end Fields

/-! ## 3. Blind decoders -/

open Json

/-- **A decoder that is blind** to the order of members and to null members. -/
def Decoder.Blind (d : Decoder α) : Prop :=
  ∀ j : Json, j.Proper → (d j.normal).toOption = (d j).toOption

namespace Decoder

/-- **Alike values decode alike.** -/
theorem Blind.alike {d : Decoder α} (hd : Blind d) {a b : Json} (ha : a.Proper) (hb : b.Proper)
    (h : a.Alike b) : (d a).toOption = (d b).toOption := by
  rw [← hd a ha, ← hd b hb, (alike_iff ha).mp h]

/-- What is read from a value is read from its normal form. -/
theorem Blind.read_normal {d : Decoder α} (hd : Blind d) {j : Json} (hj : j.Proper) {x : α}
    (h : d j = .ok x) : d j.normal = .ok x := by
  rw [← toOption_eq_some_iff] at h ⊢
  exact (hd j hj).trans h

/-- What is read from a value is read from any value alike to it. -/
theorem Blind.read_alike {d : Decoder α} (hd : Blind d) {a b : Json} (ha : a.Proper)
    (hb : b.Proper) (hab : a.Alike b) {x : α} (h : d a = .ok x) : d b = .ok x := by
  rw [← toOption_eq_some_iff] at h ⊢
  exact (hd.alike ha hb hab).symm.trans h

/-- A decoder that takes neither lists nor objects. -/
theorem blind_of_plain {d : Decoder α} (harr : ∀ items, (d (.arr items)).toOption = none)
    (hobj : ∀ ms, (d (.obj ms)).toOption = none) : Blind d := by
  intro j _
  cases j with
  | null | bool _ | int _ | real _ | str _ => rw [normal]
  | arr items => rw [normal, harr, harr]
  | obj ms => rw [normal, hobj, hobj]

theorem blind_text : Blind text := blind_of_plain (fun _ => rfl) fun _ => rfl

theorem blind_double : Blind double := blind_of_plain (fun _ => rfl) fun _ => rfl

theorem blind_below (limit : Nat) (want : String) : Blind (below limit want) :=
  blind_of_plain (fun _ => rfl) fun _ => rfl

theorem Blind.map {d : Decoder α} (hd : Blind d) (f : α → β) :
    Blind (fun j => (d j).map f) := by
  intro j hj
  rw [toOption_map, toOption_map, hd j hj]

theorem Blind.optional {d : Decoder α} (hd : Blind d) : Blind (optional d) := by
  intro j hj
  have h := hd j hj
  cases j with
  | null => rw [normal]
  | bool _ | int _ | real _ | str _ => rw [normal]
  | arr items =>
    rw [normal] at h ⊢
    exact (toOption_map _ _).trans ((congrArg _ h).trans (toOption_map _ _).symm)
  | obj ms =>
    rw [normal] at h ⊢
    exact (toOption_map _ _).trans ((congrArg _ h).trans (toOption_map _ _).symm)

theorem Blind.mapM {d : Decoder α} (hd : Blind d) {items : List Json} (h : ProperItems items) :
    ((normalItems items).mapM d).toOption = (items.mapM d).toOption := by
  induction items with
  | nil => rw [normalItems]
  | cons j items ih =>
    rw [ProperItems] at h
    rw [normalItems, List.mapM_cons, List.mapM_cons, toOption_bind, toOption_bind, hd j h.1]
    congr 1
    funext a
    rw [toOption_bind, toOption_bind, ih h.2]

/-- A list is decoded item by item, and every item keeps its place. -/
theorem Blind.list {d : Decoder α} (hd : Blind d) : Blind (list d) := by
  intro j hj
  cases j with
  | null | bool _ | int _ | real _ | str _ => rw [normal]
  | arr items =>
    rw [Proper] at hj
    rw [normal]
    exact hd.mapM hj
  | obj ms =>
    rw [normal]
    rfl

end Decoder

/-! ## 4. Blind fields -/

/-- **Fields that are blind**: those read from an object do not see its order and null members, and
those read from a list are blind item by item, and so is what they leave of the list. -/
structure Fields.Blind (f : Fields α) : Prop where
  member : ∀ ms, (obj ms).Proper →
    (f.member (sortBy memberLe (normalMembers ms))).toOption = (f.member ms).toOption
  item : ∀ i items, ProperItems items → (f.item i (normalItems items)).toOption =
    (f.item i items).toOption.map fun r => (r.1, normalItems r.2)
  left : ∀ i items a rest, f.item i items = .ok (a, rest) → ProperItems items → ProperItems rest

namespace Fields

theorem blind_pure (a : α) : Blind (Fields.pure a) where
  member _ _ := rfl
  item _ _ _ := rfl
  left := by
    rintro i items a' rest h hp
    cases h
    exact hp

/-- What a field makes of an object. -/
theorem toOption_member_general (name : String) (d : Decoder α) (absent ended : Option α)
    (ms : List (String × Json)) :
    ((general name d absent ended).member ms).toOption =
      match (obj ms).get? name with
      | some j => (d j).toOption
      | none => absent := by
  rw [← locate_eq]
  simp only [general]
  rcases locate name ms with _ | ⟨i, j⟩
  · cases absent <;> rfl
  · exact toOption_mapError _ _

/-- **A field is blind** if its decoder is, and takes null for what stands in where the field is
absent. -/
theorem blind_general {name : String} {d : Decoder α} {absent ended : Option α}
    (hd : Decoder.Blind d) (hnull : (d .null).toOption = absent) :
    Blind (general name d absent ended) where
  member ms hms := by
    rw [toOption_member_general, toOption_member_general, get?_normal (by
      rw [Proper] at hms
      exact hms.1)]
    rcases hg : (obj ms).get? name with _ | j
    · rfl
    · rw [Proper] at hms
      have hmem := (get?_eq_some_iff hms.1).mp hg
      have hj := properMembers_iff.mp hms.2 _ hmem
      cases hn : j.isNull with
      | true =>
        obtain rfl := eq_null_of_isNull hn
        simp [hn, hnull]
      | false =>
        simp only [Option.bind_some, hn, Bool.false_eq_true, if_false]
        exact hd j hj
  item i items hitems := by
    cases items with
    | nil => cases ended <;> simp [general, normalItems, Except.toOption]
    | cons j items =>
      rw [ProperItems] at hitems
      have h := hd j hitems.1
      simp only [general, normalItems, toOption_mapError, toOption_map, h, Option.map_map,
        Function.comp_def]
  left i items a rest h hitems := by
    cases items with
    | nil =>
      cases ended with
      | none => cases h
      | some b =>
        cases h
        exact hitems
    | cons j items =>
      rw [ProperItems] at hitems
      simp only [general] at h
      rcases hj : d j with e | b <;> rw [hj] at h <;> cases h
      exact hitems.2

theorem blind_field {name : String} {d : Decoder α} (hd : Decoder.Blind d)
    (hnull : (d .null).toOption = none) : Blind (field name d) :=
  blind_general hd hnull

theorem blind_optional {name : String} {d : Decoder α} (hd : Decoder.Blind d) :
    Blind (optional name d) :=
  blind_general hd.optional rfl

theorem blind_defaulted {name : String} {d : Decoder α} {a : α} (hd : Decoder.Blind d)
    (hnull : (d .null).toOption = some a) : Blind (defaulted name d a) :=
  blind_general hd hnull

theorem toOption_member_seq (f : Fields (α → β)) (x : Fields α) (ms : List (String × Json)) :
    ((f <*> x).member ms).toOption =
      (f.member ms).toOption.bind fun g => (x.member ms).toOption.map g := by
  show ((Fields.seq f x).member ms).toOption = _
  simp only [Fields.seq]
  rcases f.member ms with e | g <;> rcases x.member ms with e' | a <;> rfl

theorem toOption_item_seq (f : Fields (α → β)) (x : Fields α) (i : Nat) (items : List Json) :
    ((f <*> x).item i items).toOption =
      (f.item i items).toOption.bind fun r =>
        (x.item (i + f.arity) r.2).toOption.map fun r' => (r.1 r'.1, r'.2) := by
  show ((Fields.seq f x).item i items).toOption = _
  simp only [Fields.seq]
  rcases f.item i items with e | ⟨g, rest⟩
  · rfl
  · rcases hr : x.item (i + f.arity) rest with e | r <;> simp [Except.toOption, hr]

theorem Blind.seq {f : Fields (α → β)} {x : Fields α} (hf : Blind f) (hx : Blind x) :
    Blind (f <*> x) where
  member ms hms := by
    rw [toOption_member_seq, toOption_member_seq, hf.member ms hms, hx.member ms hms]
  item i items hitems := by
    rw [toOption_item_seq, toOption_item_seq, hf.item i items hitems]
    rcases hr : f.item i items with e | ⟨g, rest⟩
    · rfl
    · have hrest := hx.item (i + f.arity) rest (hf.left i items g rest hr hitems)
      simp only [Except.toOption, Option.map_some, Option.bind_some] at hrest ⊢
      rw [hrest]
      simp only [Option.map_map, Function.comp_def]
  left i items b rest h hitems := by
    replace h : (Fields.seq f x).item i items = .ok (b, rest) := h
    simp only [Fields.seq] at h
    split at h
    · cases h
    · next g mid hg =>
      split at h
      · cases h
      · next a rest' hx' =>
        cases h
        exact hx.left _ _ _ _ hx' (hf.left _ _ _ _ hg hitems)

theorem Blind.map {x : Fields α} (hx : Blind x) (g : α → β) : Blind (g <$> x) :=
  (blind_pure g).seq hx

end Fields

namespace Decoder

theorem toOption_record_obj (name : String) (f : Fields α) (ms : List (String × Json)) :
    (record name f (.obj ms)).toOption = (f.member ms).toOption := by
  show (members f ms).toOption = _
  unfold members
  rcases f.member ms with (_ | _) | a <;> rfl

theorem toOption_record_arr (name : String) (f : Fields α) (items : List Json) :
    (record name f (.arr items)).toOption =
      (f.item 0 items).toOption.bind fun r => if r.2.isEmpty then some r.1 else none := by
  simp only [record]
  rcases f.item 0 items with (_ | _) | ⟨a, _ | ⟨j, rest⟩⟩ <;> rfl

/-- **A record of blind fields is blind**, as an object and as a list. -/
theorem blind_record {name : String} {f : Fields α} (hf : f.Blind) : Blind (record name f) := by
  intro j hj
  cases j with
  | null | bool _ | int _ | real _ | str _ => rw [normal]
  | arr items =>
    rw [Proper] at hj
    rw [normal, toOption_record_arr, toOption_record_arr, hf.item 0 items hj, Option.bind_map]
    congr 1
    funext r
    have hnil : (normalItems r.2).isEmpty = r.2.isEmpty := by
      cases r.2 <;> simp [normalItems]
    show (if (normalItems r.2).isEmpty then some r.1 else none) = _
    rw [hnil]
  | obj ms =>
    rw [normal, toOption_record_obj, toOption_record_obj]
    exact hf.member ms hj

end Decoder

end Curation
