/-
# Values that mean the same record

`Alike` is what the normal form is for: two values are alike if one is had from the other by
moving members of objects and by adding and dropping members that are null, at any depth.  It is
said without the normal form.

That alike values have one normal form (`alike_iff`) holds of values whose objects give every name
once, as JSON has them.  With a name given twice it would matter which member comes first.
-/
import Mathlib.Data.List.Nodup
import Mathlib.Data.List.Perm.Basic
import Curation.Proofs.Json.Normal

namespace Curation.Json

/-! ## 1. The relation -/

/-- **The same but for the order of members and for null members**, at any depth.  An item of a
list keeps its place, and one that is null is not dropped. -/
inductive Alike : Json → Json → Prop
  | refl (a : Json) : Alike a a
  | symm {a b : Json} (h : Alike a b) : Alike b a
  | trans {a b c : Json} (h : Alike a b) (h' : Alike b c) : Alike a c
  | moved {ms ns : List (String × Json)} (h : ms.Perm ns) : Alike (.obj ms) (.obj ns)
  | dropped (before after : List (String × Json)) (name : String) :
      Alike (.obj (before ++ (name, .null) :: after)) (.obj (before ++ after))
  | member (before after : List (String × Json)) (name : String) {a b : Json} (h : Alike a b) :
      Alike (.obj (before ++ (name, a) :: after)) (.obj (before ++ (name, b) :: after))
  | item (before after : List Json) {a b : Json} (h : Alike a b) :
      Alike (.arr (before ++ a :: after)) (.arr (before ++ b :: after))

mutual
/-- **What a JSON value is**: no object gives a name twice, and no number is infinite or
undefined. -/
def Proper : Json → Prop
  | .null | .bool _ | .int _ | .str _ => True
  | .real x => x.isFinite = true
  | .arr items => ProperItems items
  | .obj members => (members.map (·.1)).Nodup ∧ ProperMembers members

/-- The same of the items of a list. -/
def ProperItems : List Json → Prop
  | [] => True
  | item :: items => item.Proper ∧ ProperItems items

/-- The same of the values of members. -/
def ProperMembers : List (String × Json) → Prop
  | [] => True
  | (_, value) :: members => value.Proper ∧ ProperMembers members
end

theorem properItems_iff {items : List Json} : ProperItems items ↔ ∀ j ∈ items, j.Proper := by
  induction items with
  | nil => simp [ProperItems]
  | cons item items ih => simp [ProperItems, ih]

theorem properMembers_iff {ms : List (String × Json)} :
    ProperMembers ms ↔ ∀ m ∈ ms, m.2.Proper := by
  induction ms with
  | nil => simp [ProperMembers]
  | cons m ms ih => simp [ProperMembers, ih]

/-! ## 2. Normal forms of lists -/

theorem eq_null_of_isNull {j : Json} (h : j.isNull = true) : j = .null := by
  cases j <;> first | rfl | cases h

/-- Null is like nothing else. -/
theorem isNull_of_normal_eq {a b : Json} (h : a.normal = b.normal) : a.isNull = b.isNull := by
  rw [← isNull_normal a, h, isNull_normal]

theorem normalItems_append : ∀ xs ys : List Json,
    normalItems (xs ++ ys) = normalItems xs ++ normalItems ys
  | [], _ => by simp [normalItems]
  | x :: xs, ys => by simp [normalItems, normalItems_append xs ys]

theorem normalMembers_append : ∀ ms ns : List (String × Json),
    normalMembers (ms ++ ns) = normalMembers ms ++ normalMembers ns
  | [], _ => by simp [normalMembers]
  | (name, value) :: ms, ns => by
    cases h : value.isNull <;> simp [normalMembers, h, normalMembers_append ms ns]

theorem normalMembers_perm {ms ns : List (String × Json)} (h : ms.Perm ns) :
    (normalMembers ms).Perm (normalMembers ns) := by
  induction h with
  | nil => exact .refl _
  | cons m _ ih =>
    obtain ⟨name, value⟩ := m
    cases hn : value.isNull <;> simp [normalMembers, hn, ih]
  | swap m n ms =>
    obtain ⟨name, value⟩ := m
    obtain ⟨name', value'⟩ := n
    cases hn : value.isNull <;> cases hn' : value'.isNull <;>
      simp [normalMembers, hn, hn', List.Perm.swap]
  | trans _ _ ih ih' => exact ih.trans ih'

/-- **The order in which members come does not count**, if no two have one name. -/
theorem sortBy_memberLe_perm {ms ns : List (String × Json)} (h : ms.Perm ns)
    (hd : (ms.map (·.1)).Nodup) : sortBy memberLe ms = sortBy memberLe ns := by
  have hp : (sortBy memberLe ms).Perm (sortBy memberLe ns) :=
    (sortBy_perm _ ms).trans (h.trans (sortBy_perm _ ns).symm)
  refine hp.eq_of_pairwise ?_ (sortBy_pairwise memberLe_total memberLe_trans ms)
    (sortBy_pairwise memberLe_total memberLe_trans ns)
  intro m n hm hn hmn hnm
  simp only [memberLe, decide_eq_true_eq] at hmn hnm
  have hname : m.1 = n.1 := String.le_antisymm hmn hnm
  exact List.inj_on_of_nodup_map hd (mem_sortBy.mp hm) (h.mem_iff.mpr (mem_sortBy.mp hn)) hname

/-! ## 3. Proper values have proper normal forms -/

/-- The normal form of an object is proper if its members are. -/
theorem proper_normal_obj {ms : List (String × Json)} :
    (Json.obj ms).normal.Proper ↔
      ((normalMembers ms).map (·.1)).Nodup ∧ ∀ m ∈ normalMembers ms, m.2.Proper := by
  have hperm := sortBy_perm memberLe (normalMembers ms)
  rw [normal, Proper, properMembers_iff, (hperm.map _).nodup_iff]
  simp only [mem_sortBy]

theorem normalMembers_names : ∀ ms : List (String × Json),
    ((normalMembers ms).map (·.1)).Sublist (ms.map (·.1))
  | [] => by simp [normalMembers]
  | (name, value) :: ms => by
    cases h : value.isNull with
    | true =>
      simp only [normalMembers, h, if_true, List.map_cons]
      exact (normalMembers_names ms).cons _
    | false =>
      simp only [normalMembers, h, Bool.false_eq_true, if_false, List.map_cons]
      exact (normalMembers_names ms).cons_cons _

mutual

theorem Proper.normal : ∀ {j : Json}, j.Proper → j.normal.Proper
  | .null, h | .bool _, h | .int _, h | .real _, h | .str _, h => by
    rw [Json.normal]
    exact h
  | .arr items, h => by
    rw [Proper] at h
    rw [Json.normal, Proper]
    exact ProperItems.normal h
  | .obj ms, h => by
    rw [Proper] at h
    exact proper_normal_obj.mpr ⟨(normalMembers_names ms).nodup h.1,
      properMembers_iff.mp (ProperMembers.normal h.2)⟩

theorem ProperItems.normal : ∀ {items : List Json}, ProperItems items →
    ProperItems (normalItems items)
  | [], _ => by simp [normalItems, ProperItems]
  | item :: items, h => by
    rw [ProperItems] at h
    rw [normalItems, ProperItems]
    exact ⟨h.1.normal, ProperItems.normal h.2⟩

theorem ProperMembers.normal : ∀ {ms : List (String × Json)}, ProperMembers ms →
    ProperMembers (normalMembers ms)
  | [], _ => by simp [normalMembers, ProperMembers]
  | (name, value) :: ms, h => by
    rw [ProperMembers] at h
    cases hn : value.isNull with
    | true =>
      simp only [normalMembers, hn, if_true]
      exact ProperMembers.normal h.2
    | false =>
      simp only [normalMembers, hn, Bool.false_eq_true, if_false, ProperMembers]
      exact ⟨h.1.normal, ProperMembers.normal h.2⟩

end

/-! ## 4. Every value is like its normal form -/

mutual

/-- **A value is like its normal form.** -/
theorem alike_normal : ∀ j : Json, Alike j j.normal
  | .null | .bool _ | .int _ | .real _ | .str _ => by
    rw [normal]
    exact .refl _
  | .arr items => by
    rw [normal]
    exact alike_normalItems [] items
  | .obj ms => by
    rw [normal]
    exact (alike_normalMembers [] ms).trans (.moved (sortBy_perm _ _).symm)

theorem alike_normalItems : ∀ before items : List Json,
    Alike (.arr (before ++ items)) (.arr (before ++ normalItems items))
  | before, [] => by
    rw [normalItems]
    exact .refl _
  | before, item :: items => by
    have hrest := alike_normalItems (before ++ [item.normal]) items
    rw [List.append_assoc, List.append_assoc] at hrest
    rw [normalItems]
    exact (Alike.item before items (alike_normal item)).trans hrest

theorem alike_normalMembers : ∀ before ms : List (String × Json),
    Alike (.obj (before ++ ms)) (.obj (before ++ normalMembers ms))
  | before, [] => by
    rw [normalMembers]
    exact .refl _
  | before, (name, value) :: ms => by
    cases hn : value.isNull with
    | true =>
      obtain rfl := eq_null_of_isNull hn
      simp only [normalMembers, hn, if_true]
      exact (Alike.dropped before ms name).trans (alike_normalMembers before ms)
    | false =>
      have hrest := alike_normalMembers (before ++ [(name, value.normal)]) ms
      rw [List.append_assoc, List.append_assoc] at hrest
      simp only [normalMembers, hn, Bool.false_eq_true, if_false]
      exact (Alike.member before ms name (alike_normal value)).trans hrest

end

/-! ## 5. Alike values have one normal form -/

/-- What alike values share. -/
structure Matches (a b : Json) : Prop where
  isNull : a.isNull = b.isNull
  proper : a.normal.Proper ↔ b.normal.Proper
  normal : a.normal.Proper → a.normal = b.normal

namespace Matches

variable {a b c : Json}

theorem refl (a : Json) : Matches a a := ⟨rfl, .rfl, fun _ => rfl⟩

theorem symm (h : Matches a b) : Matches b a :=
  ⟨h.isNull.symm, h.proper.symm, fun hb => (h.normal (h.proper.mpr hb)).symm⟩

theorem trans (h : Matches a b) (h' : Matches b c) : Matches a c :=
  ⟨h.isNull.trans h'.isNull, h.proper.trans h'.proper,
    fun ha => (h.normal ha).trans (h'.normal (h.proper.mp ha))⟩

theorem moved {ms ns : List (String × Json)} (h : ms.Perm ns) : Matches (.obj ms) (.obj ns) := by
  have hp := normalMembers_perm h
  refine ⟨rfl, ?_, fun hms => ?_⟩
  · rw [proper_normal_obj, proper_normal_obj, (hp.map _).nodup_iff]
    simp only [hp.mem_iff]
  · rw [Json.normal, Json.normal, sortBy_memberLe_perm hp (proper_normal_obj.mp hms).1]

theorem dropped (before after : List (String × Json)) (name : String) :
    Matches (.obj (before ++ (name, .null) :: after)) (.obj (before ++ after)) := by
  have h : (Json.obj (before ++ (name, .null) :: after)).normal =
      (Json.obj (before ++ after)).normal := by
    simp [Json.normal, normalMembers_append, normalMembers, Json.isNull]
  exact ⟨rfl, by rw [h], fun _ => h⟩

theorem member (before after : List (String × Json)) (name : String) (h : Matches a b) :
    Matches (.obj (before ++ (name, a) :: after)) (.obj (before ++ (name, b) :: after)) := by
  have hnull := h.isNull
  cases hb : b.isNull with
  | true =>
    rw [hb] at hnull
    have hab : (Json.obj (before ++ (name, a) :: after)).normal =
        (Json.obj (before ++ (name, b) :: after)).normal := by
      simp [Json.normal, normalMembers_append, normalMembers, hnull, hb]
    exact ⟨rfl, by rw [hab], fun _ => hab⟩
  | false =>
    rw [hb] at hnull
    have hmem : ∀ {j : Json}, j.isNull = false → normalMembers (before ++ (name, j) :: after) =
        normalMembers before ++ (name, j.normal) :: normalMembers after := by
      intro j hj
      simp [normalMembers_append, normalMembers, hj]
    refine ⟨rfl, ?_, fun hp => ?_⟩
    · rw [proper_normal_obj, proper_normal_obj, hmem hnull, hmem hb]
      simp only [List.map_append, List.map_cons, List.forall_mem_append, List.forall_mem_cons,
        h.proper]
    · rw [proper_normal_obj, hmem hnull] at hp
      have hpa : a.normal.Proper :=
        hp.2 (name, a.normal) List.mem_append_cons_self
      rw [Json.normal, Json.normal, hmem hnull, hmem hb, h.normal hpa]

theorem item (before after : List Json) (h : Matches a b) :
    Matches (.arr (before ++ a :: after)) (.arr (before ++ b :: after)) := by
  have hitems : ∀ j : Json, (Json.arr (before ++ j :: after)).normal =
      .arr (normalItems before ++ j.normal :: normalItems after) := by
    intro j
    rw [Json.normal, normalItems_append, normalItems]
  refine ⟨rfl, ?_, fun hp => ?_⟩
  · rw [hitems, hitems, Proper, Proper, properItems_iff, properItems_iff]
    simp only [List.forall_mem_append, List.forall_mem_cons, h.proper]
  · rw [hitems, Proper, properItems_iff] at hp
    rw [hitems, hitems, h.normal (hp _ List.mem_append_cons_self)]

end Matches

/-- **Alike values match.** -/
theorem Alike.matches {a b : Json} (h : Alike a b) : Matches a b := by
  induction h with
  | refl a => exact .refl a
  | symm _ ih => exact ih.symm
  | trans _ _ ih ih' => exact ih.trans ih'
  | moved h => exact .moved h
  | dropped before after name => exact .dropped before after name
  | member before after name _ ih => exact ih.member before after name
  | item before after _ ih => exact ih.item before after

/-- **Values are alike exactly if they have one normal form.** -/
theorem alike_iff {a b : Json} (ha : a.Proper) : Alike a b ↔ a.normal = b.normal := by
  constructor
  · intro h
    exact h.matches.normal ha.normal
  · intro h
    exact (alike_normal a).trans (h ▸ (alike_normal b).symm)

end Curation.Json
