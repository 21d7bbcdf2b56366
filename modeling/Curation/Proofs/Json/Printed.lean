/-
# What was written can be told apart

The compact text of a value is written by hand: strings with their escapes, delimiters, containers
that may be empty.  This module proves that no two values are written alike (`chars_inj`), whatever
follows them: after a value comes the end of the text, a comma or a closing bracket.

Strings are told apart because the reader reads back what was written (`readString_written`).
Numbers are only known to be made of digits, signs, points and exponent marks, so that their ends
are found; that different numbers have different texts is for whoever uses this to say
(`ToldApart`).
-/
import Curation.Json.Reader
import Curation.Proofs.Json.Alike

namespace Curation.Json

/-! ## 1. Strings are read back -/

theorem hexFour?_of_lt : ∀ n < 0x20,
    hexFour? '0' '0' (Nat.digitChar (n / 16)) (Nat.digitChar (n % 16)) = some n := by
  decide

/-- An escape of one letter. -/
theorem readString_short {c d : Char} (hu : c ≠ 'u') (hc : shortEscape? c = some d)
    (seen cs : List Char) : readString seen ('\\' :: c :: cs) = readString (d :: seen) cs := by
  rw [readString]
  · rw [hc]
  · intro _ _ _ _ _ _ _ _ _ h
    exact absurd h hu
  · intro _ _ _ _ _ h
    exact absurd h hu

/-- A control character without a letter of its own.  The reader looks further on for the other
half of a pair, but this is no half. -/
theorem readString_control {n : Nat} (hn : n < 0x20) (seen cs : List Char) :
    readString seen ('\\' :: 'u' :: '0' :: '0' :: Nat.digitChar (n / 16) ::
      Nat.digitChar (n % 16) :: cs) = readString (Char.ofNat n :: seen) cs := by
  have hhigh : isHighHalf n = false := by
    simp only [isHighHalf, Bool.and_eq_false_iff, decide_eq_false_iff_not]
    omega
  have hlow : isLowHalf n = false := by
    simp only [isLowHalf, Bool.and_eq_false_iff, decide_eq_false_iff_not]
    omega
  by_cases hpair : ∃ e f g h rest, cs = '\\' :: 'u' :: e :: f :: g :: h :: rest
  · obtain ⟨e, f, g, h, rest, rfl⟩ := hpair
    rw [readString, hexFour?_of_lt n hn]
    simp only [hhigh, hlow, Bool.false_eq_true, if_false]
  · rw [readString]
    · rw [hexFour?_of_lt n hn]
      simp only [hhigh, hlow, Bool.or_self, Bool.false_eq_true, if_false]
    · intro e f g h rest hcs
      exact hpair ⟨e, f, g, h, rest, hcs⟩

/-- **One character** is read back from what was written for it. -/
theorem readString_escapedChar (seen : List Char) (c : Char) (cs : List Char) :
    readString seen (escapedChar c ++ cs) = readString (c :: seen) cs := by
  unfold escapedChar
  -- seven characters have a letter of their own
  iterate 7
    split
    · next h =>
      subst h
      exact readString_short (by decide) rfl seen cs
  split
  · next h =>
    have hread := readString_control h seen cs
    rw [Char.ofNat_toNat] at hread
    exact hread
  · next hquote hslash _ _ _ _ _ hlow =>
    show readString seen (c :: cs) = _
    rw [readString]
    · rw [if_neg]
      rintro (h | h)
      · exact hlow h
      · exact hslash h
    · exact hquote
    · intro _ _ _ _ _ _ _ _ _ h
      exact absurd h hslash
    · intro _ _ _ _ _ h
      exact absurd h hslash
    · intro _ _ h
      exact absurd h hslash

/-- **The reader reads back a string** up to its closing quote. -/
theorem readString_written (r : List Char) : ∀ (text seen : List Char),
    readString seen (text.flatMap escapedChar ++ '"' :: r) =
      some (String.ofList (seen.reverse ++ text), r)
  | [], seen => by rw [List.flatMap_nil, List.nil_append, readString, List.append_nil]
  | c :: text, seen => by
    rw [List.flatMap_cons, List.append_assoc, readString_escapedChar, readString_written r text,
      List.reverse_cons, List.append_assoc, List.singleton_append]

/-- **Strings are told apart**, whatever follows them. -/
theorem stringChars_inj {s t : String} {r r' : List Char}
    (h : stringChars s ++ r = stringChars t ++ r') : s = t ∧ r = r' := by
  have hread : ∀ (s : String) (r : List Char),
      readString [] ((stringChars s ++ r).tail) = some (s, r) := by
    intro s r
    have hw := readString_written r s.toList []
    rw [List.reverse_nil, List.nil_append, String.ofList_toList] at hw
    simpa [stringChars] using hw
  have heq := (hread s r).symm.trans (h ▸ hread t r')
  exact Prod.mk.inj (Option.some.inj heq)

/-! ## 2. What numbers are made of -/

/-- A character of a number. -/
def isNumberChar (c : Char) : Bool :=
  c.isDigit || c == '-' || c == '+' || c == '.' || c == 'e'

/-- A text of a number: not empty, and of characters of numbers. -/
def NumberText (cs : List Char) : Prop := cs ≠ [] ∧ ∀ c ∈ cs, isNumberChar c = true

theorem isNumberChar_of_mem_toDigits {n : Nat} {c : Char} (h : c ∈ Nat.toDigits 10 n) :
    isNumberChar c = true := by
  simp [isNumberChar, Nat.isDigit_of_mem_toDigits (by decide) (by decide) h]

theorem numberText_toDigits (n : Nat) : NumberText (Nat.toDigits 10 n) :=
  ⟨Nat.toDigits_ne_nil, fun _ => isNumberChar_of_mem_toDigits⟩

theorem NumberText.append {cs ds : List Char} (h : NumberText cs)
    (hd : ∀ d ∈ ds, isNumberChar d = true) : NumberText (cs ++ ds) :=
  ⟨fun hnil => h.1 (List.append_eq_nil_iff.mp hnil).1, List.forall_mem_append.mpr ⟨h.2, hd⟩⟩

theorem numberText_int (i : Int) : NumberText (toString i).toList := by
  cases i with
  | ofNat n =>
    show NumberText (String.ofList (Nat.toDigits 10 n)).toList
    rw [String.toList_ofList]
    exact numberText_toDigits n
  | negSucc n =>
    have hdigits : (String.ofList (Nat.toDigits 10 (n + 1))).toList = Nat.toDigits 10 (n + 1) :=
      String.toList_ofList
    show NumberText ("-" ++ String.ofList (Nat.toDigits 10 (n + 1))).toList
    rw [String.toList_append, hdigits]
    exact NumberText.append ⟨by simp, List.all_eq_true.mp rfl⟩
      fun c => isNumberChar_of_mem_toDigits

theorem isNumberChar_of_mem_zeros {n : Nat} {c : Char} (h : c ∈ List.replicate n '0') :
    isNumberChar c = true := by
  rw [(List.mem_replicate.mp h).2]
  decide

/-- Texts that are put together of characters of numbers. -/
theorem numberChars_append {s t : String} (hs : ∀ c ∈ s.toList, isNumberChar c = true)
    (ht : ∀ c ∈ t.toList, isNumberChar c = true) :
    ∀ c ∈ (s ++ t).toList, isNumberChar c = true := by
  rw [String.toList_append]
  exact List.forall_mem_append.mpr ⟨hs, ht⟩

theorem numberChars_ofList {cs : List Char} (h : ∀ c ∈ cs, isNumberChar c = true) :
    ∀ c ∈ (String.ofList cs).toList, isNumberChar c = true := by
  rw [String.toList_ofList]
  exact h

theorem numberChars_positional (d : Digits) :
    ∀ c ∈ (Layout.positionalText true d).toList, isNumberChar c = true := by
  have hdigits := (numberText_toDigits d.digits).2
  have hzeros : ∀ n : Nat, ∀ c ∈ List.replicate n '0', isNumberChar c = true :=
    fun _ _ => isNumberChar_of_mem_zeros
  unfold Layout.positionalText
  dsimp only
  split
  · exact numberChars_append
      (numberChars_ofList (List.forall_mem_append.mpr ⟨hdigits, hzeros _⟩))
      (List.all_eq_true.mp rfl)
  · split
    · refine numberChars_append (numberChars_append ?_ (List.all_eq_true.mp rfl)) ?_
      · exact numberChars_ofList fun c hc => hdigits c (List.mem_of_mem_take hc)
      · exact numberChars_ofList fun c hc => hdigits c (List.mem_of_mem_drop hc)
    · exact numberChars_append (List.all_eq_true.mp rfl)
        (numberChars_ofList (List.forall_mem_append.mpr ⟨hzeros _, hdigits⟩))

theorem numberChars_scientific (d : Digits) :
    ∀ c ∈ (Layout.scientificText d).toList, isNumberChar c = true := by
  have hdigits := (numberText_toDigits d.digits).2
  have hnat : ∀ n : Nat, ∀ c ∈ (toString n).toList, isNumberChar c = true := fun n =>
    numberChars_ofList (numberText_toDigits n).2
  unfold Layout.scientificText
  dsimp only
  refine numberChars_append (numberChars_append ?_ (List.all_eq_true.mp rfl)) ?_
  · split
    · exact List.all_eq_true.mp rfl
    · next c h =>
      rw [h] at hdigits
      exact numberChars_ofList hdigits
    · next c rest _ h =>
      rw [h] at hdigits
      obtain ⟨hc, hrest⟩ := List.forall_mem_cons.mp hdigits
      exact numberChars_append
        (numberChars_append (numberChars_ofList (List.forall_mem_singleton.mpr hc))
          (List.all_eq_true.mp rfl))
        (numberChars_ofList hrest)
  · split
    · exact numberChars_append (List.all_eq_true.mp rfl) (hnat _)
    · exact numberChars_append (List.all_eq_true.mp rfl) (hnat _)

theorem numberChars_rank (rank : Nat) :
    ∀ c ∈ (Layout.json.rankText rank).toList, isNumberChar c = true := by
  unfold Layout.rankText
  dsimp only [Layout.json]
  split
  · exact numberChars_positional _
  · exact numberChars_scientific _

theorem rankText_ne_nil (rank : Nat) : (Layout.json.rankText rank).toList ≠ [] := by
  unfold Layout.rankText
  dsimp only [Layout.json]
  split
  · unfold Layout.positionalText
    dsimp only
    split
    · simp [String.toList_append]
    · split <;> simp [String.toList_append]
  · simp [Layout.scientificText, String.toList_append]

/-- **A finite double** is written as a number. -/
theorem numberText_real {x : Binary64} (hx : x.isFinite = true) :
    NumberText (realText x).toList := by
  unfold realText
  rw [if_pos hx]
  cases x with
  | nan => cases hx
  | number negative r =>
    have hr : r.val ≠ Rank.infinite := Nat.ne_of_lt (of_decide_eq_true hx)
    unfold Layout.text
    dsimp only
    rw [if_neg hr]
    refine ⟨?_, numberChars_append ?_ ?_⟩
    · rw [String.toList_append]
      intro hnil
      have hlast := (List.append_eq_nil_iff.mp hnil).2
      split at hlast
      · cases hlast
      · exact rankText_ne_nil _ hlast
    · cases negative <;> exact List.all_eq_true.mp rfl
    · split
      · exact List.all_eq_true.mp rfl
      · exact numberChars_rank _

/-! ## 3. Where values begin and end -/

mutual
/-- The numbers in a value. -/
def numbers : Json → List Json
  | .null | .bool _ | .str _ => []
  | .int i => [.int i]
  | .real x => [.real x]
  | .arr items => itemNumbers items
  | .obj members => memberNumbers members

/-- The numbers in the items of a list. -/
def itemNumbers : List Json → List Json
  | [] => []
  | item :: items => item.numbers ++ itemNumbers items

/-- The numbers in the values of members. -/
def memberNumbers : List (String × Json) → List Json
  | [] => []
  | (_, value) :: members => value.numbers ++ memberNumbers members
end

theorem mem_memberNumbers {n : Json} : ∀ {ms : List (String × Json)},
    n ∈ memberNumbers ms ↔ ∃ m ∈ ms, n ∈ m.2.numbers
  | [] => by simp [memberNumbers]
  | (name, value) :: ms => by
    simp [memberNumbers, @mem_memberNumbers n ms, or_and_right, exists_or]

/-- **Numbers are told apart by their texts.** -/
def ToldApart (xs ys : List Json) : Prop :=
  ∀ x ∈ xs, ∀ y ∈ ys, x.compact = y.compact → x = y

/-- What may follow a value. -/
def Closes : List Char → Prop
  | [] => True
  | c :: _ => c = ',' ∨ c = ']' ∨ c = '\x7d'

/-- The sort of a value. -/
def sort : Json → Nat
  | .null => 0
  | .bool _ => 1
  | .int _ | .real _ => 2
  | .str _ => 3
  | .arr _ => 4
  | .obj _ => 5

/-- The sort of the values that begin with a character; no value begins with a bracket that
closes. -/
def sortOf (c : Char) : Nat :=
  if c = 'n' then 0
  else if c = 't' ∨ c = 'f' then 1
  else if isNumberChar c then 2
  else if c = '"' then 3
  else if c = '[' then 4
  else if c = '\x7b' then 5
  else 6

theorem sortOf_of_isNumberChar {c : Char} (h : isNumberChar c = true) : sortOf c = 2 := by
  have hn : ¬c = 'n' := by
    rintro rfl
    cases h
  have hb : ¬(c = 't' ∨ c = 'f') := by
    rintro (rfl | rfl) <;> cases h
  rw [sortOf, if_neg hn, if_neg hb, if_pos h]

/-- The characters of a number. -/
theorem chars_number {j : Json} (hp : j.Proper) (hs : j.sort = 2) : NumberText j.chars := by
  cases j with
  | int i =>
    rw [chars]
    exact numberText_int i
  | real x =>
    rw [chars]
    exact numberText_real hp
  | null | bool _ | str _ | arr _ | obj _ => cases hs

/-- A number is a number in itself. -/
theorem mem_numbers_of_sort {j : Json} (hs : j.sort = 2) : j ∈ j.numbers := by
  cases j with
  | int _ | real _ =>
    rw [numbers]
    exact List.mem_singleton_self _
  | null | bool _ | str _ | arr _ | obj _ => cases hs

/-- **The first character tells the sort.** -/
theorem chars_head {j : Json} (hp : j.Proper) :
    ∃ c cs, j.chars = c :: cs ∧ sortOf c = j.sort := by
  cases j with
  | null => exact ⟨_, _, by rw [chars]; rfl, by decide⟩
  | bool b => cases b <;> exact ⟨_, _, by rw [chars]; rfl, by decide⟩
  | int i | real x =>
    obtain ⟨hne, hall⟩ := chars_number hp rfl
    obtain ⟨c, cs, hcs⟩ := List.exists_cons_of_ne_nil hne
    rw [hcs] at hall
    exact ⟨c, cs, hcs, sortOf_of_isNumberChar (hall c List.mem_cons_self)⟩
  | str s => exact ⟨_, _, by rw [chars]; rfl, (by decide : sortOf '"' = 3)⟩
  | arr items => cases items <;> exact ⟨_, _, by rw [chars], (by decide : sortOf '[' = 4)⟩
  | obj ms =>
    cases ms with
    | nil => exact ⟨_, _, by rw [chars], by decide⟩
    | cons m ms => exact ⟨_, _, by rw [chars], (by decide : sortOf '\x7b' = 5)⟩

theorem sort_lt (j : Json) : j.sort < 6 := by
  cases j <;> simp only [sort] <;> omega

section Ends

variable {x y : Json} {r r' : List Char}

theorem sort_eq_of_chars (hx : x.Proper) (hy : y.Proper) (h : x.chars ++ r = y.chars ++ r') :
    x.sort = y.sort := by
  obtain ⟨c, cs, hc, hsx⟩ := chars_head hx
  obtain ⟨d, ds, hd, hsy⟩ := chars_head hy
  rw [hc, hd, List.cons_append, List.cons_append, List.cons.injEq] at h
  rw [← hsx, ← hsy, h.1]

/-- No value begins with a bracket that closes. -/
theorem ne_chars_append {c : Char} (hc : sortOf c = 6) (hy : y.Proper) :
    c :: r ≠ y.chars ++ r' := by
  intro h
  obtain ⟨d, ds, hd, hsy⟩ := chars_head hy
  rw [hd, List.cons_append, List.cons.injEq] at h
  rw [h.1, hsy] at hc
  exact Nat.ne_of_lt (sort_lt y) hc

/-- A number ends where its characters end. -/
theorem takeWhile_number {cs : List Char} (h : NumberText cs) (hr : Closes r) :
    (cs ++ r).takeWhile isNumberChar = cs := by
  have hnone : r.takeWhile isNumberChar = [] := by
    cases r with
    | nil => rfl
    | cons c r => rcases hr with rfl | rfl | rfl <;> rfl
  rw [List.takeWhile_append_of_pos h.2, hnone, List.append_nil]

/-- **Numbers are told apart.** -/
theorem number_inj (hx : x.Proper) (hy : y.Proper) (hsx : x.sort = 2) (hsy : y.sort = 2)
    (hnum : x.compact = y.compact → x = y) (hr : Closes r) (hr' : Closes r')
    (h : x.chars ++ r = y.chars ++ r') : x = y ∧ r = r' := by
  have hchars : x.chars = y.chars := by
    rw [← takeWhile_number (chars_number hx hsx) hr, h,
      takeWhile_number (chars_number hy hsy) hr']
  rw [hchars] at h
  refine ⟨hnum ?_, List.append_cancel_left h⟩
  rw [compact, compact, hchars]

theorem closes_itemChars (items : List Json) (r : List Char) : Closes (itemChars items ++ r) := by
  cases items <;> simp [itemChars, Closes]

theorem closes_memberChars (ms : List (String × Json)) (r : List Char) :
    Closes (memberChars ms ++ r) := by
  cases ms with
  | nil => simp [memberChars, Closes]
  | cons m ms => simp [memberChars, Closes]

/-- A list that is not empty is its items after the bracket, each but the first after a comma. -/
theorem itemChars_of_arr {xs ys : List Json} (hx : xs ≠ []) (hy : ys ≠ [])
    (h : (Json.arr xs).chars ++ r = (Json.arr ys).chars ++ r') :
    itemChars xs ++ r = itemChars ys ++ r' := by
  obtain ⟨x, xs, rfl⟩ := List.exists_cons_of_ne_nil hx
  obtain ⟨y, ys, rfl⟩ := List.exists_cons_of_ne_nil hy
  rw [chars, chars, List.cons_append, List.cons_append, List.cons.injEq] at h
  rw [itemChars, itemChars, List.cons_append, List.cons_append, h.2]

theorem memberChars_of_obj {ms ns : List (String × Json)} (hm : ms ≠ []) (hn : ns ≠ [])
    (h : (Json.obj ms).chars ++ r = (Json.obj ns).chars ++ r') :
    memberChars ms ++ r = memberChars ns ++ r' := by
  obtain ⟨⟨name, x⟩, ms, rfl⟩ := List.exists_cons_of_ne_nil hm
  obtain ⟨⟨name', y⟩, ns, rfl⟩ := List.exists_cons_of_ne_nil hn
  rw [chars, chars, List.cons_append, List.cons_append, List.cons.injEq] at h
  rw [memberChars, memberChars, List.cons_append, List.cons_append, h.2]

/-- **Empty containers** are told apart from the others. -/
theorem chars_arr_nil_ne {ys : List Json} (hne : ys ≠ []) (hy : (Json.arr ys).Proper) :
    (Json.arr []).chars ++ r ≠ (Json.arr ys).chars ++ r' := by
  intro h
  obtain ⟨y, ys, rfl⟩ := List.exists_cons_of_ne_nil hne
  rw [Proper, ProperItems] at hy
  simp only [chars, List.cons_append, List.append_assoc, List.cons.injEq, true_and] at h
  exact ne_chars_append (by decide) hy.1 h

theorem chars_obj_nil_ne {ns : List (String × Json)} (hne : ns ≠ []) :
    (Json.obj []).chars ++ r ≠ (Json.obj ns).chars ++ r' := by
  intro h
  obtain ⟨⟨name, y⟩, ns, rfl⟩ := List.exists_cons_of_ne_nil hne
  rw [chars, chars] at h
  cases h

theorem ToldApart.left {xs xs' ys ys' : List Json} (h : ToldApart (xs ++ xs') (ys ++ ys')) :
    ToldApart xs ys :=
  fun x hx y hy => h x (List.mem_append_left _ hx) y (List.mem_append_left _ hy)

theorem ToldApart.right {xs xs' ys ys' : List Json} (h : ToldApart (xs ++ xs') (ys ++ ys')) :
    ToldApart xs' ys' :=
  fun x hx y hy => h x (List.mem_append_right _ hx) y (List.mem_append_right _ hy)

end Ends

/-! ## 4. Values are told apart -/

mutual

/-- **No two values are written alike**, whatever follows them. -/
theorem chars_inj : ∀ (x : Json) {y : Json} {r r' : List Char}, x.Proper → y.Proper →
    ToldApart x.numbers y.numbers → Closes r → Closes r' → x.chars ++ r = y.chars ++ r' →
    x = y ∧ r = r'
  | .null, y, r, r', hx, hy, _, _, _, h => by
    have hs := sort_eq_of_chars hx hy h
    cases y with
    | null => exact ⟨rfl, List.append_cancel_left h⟩
    | bool _ | int _ | real _ | str _ | arr _ | obj _ => cases hs
  | .bool b, y, r, r', hx, hy, _, _, _, h => by
    have hs := sort_eq_of_chars hx hy h
    cases y with
    | bool b' =>
      rw [chars, chars] at h
      cases b <;> cases b' <;> first | exact ⟨rfl, List.append_cancel_left h⟩ | cases h
    | null | int _ | real _ | str _ | arr _ | obj _ => cases hs
  | .int _, y, r, r', hx, hy, hn, hr, hr', h | .real _, y, r, r', hx, hy, hn, hr, hr', h => by
    have hs := sort_eq_of_chars hx hy h
    have hnum := hn _ (mem_numbers_of_sort rfl) y (mem_numbers_of_sort hs.symm)
    exact number_inj hx hy rfl hs.symm hnum hr hr' h
  | .str s, y, r, r', hx, hy, _, _, _, h => by
    have hs := sort_eq_of_chars hx hy h
    cases y with
    | str t =>
      rw [chars, chars] at h
      obtain ⟨rfl, hr⟩ := stringChars_inj h
      exact ⟨rfl, hr⟩
    | null | bool _ | int _ | real _ | arr _ | obj _ => cases hs
  | .arr xs, y, r, r', hx, hy, hn, _, _, h => by
    have hs := sort_eq_of_chars hx hy h
    cases y with
    | arr ys =>
      by_cases hxs : xs = [] <;> by_cases hys : ys = []
      · subst hxs hys
        exact ⟨rfl, List.append_cancel_left h⟩
      · subst hxs
        exact absurd h (chars_arr_nil_ne hys hy)
      · subst hys
        exact absurd h.symm (chars_arr_nil_ne hxs hx)
      · rw [Proper] at hx hy
        rw [numbers, numbers] at hn
        obtain ⟨rfl, hr⟩ := itemChars_inj xs hx hy hn (itemChars_of_arr hxs hys h)
        exact ⟨rfl, hr⟩
    | null | bool _ | int _ | real _ | str _ | obj _ => cases hs
  | .obj ms, y, r, r', hx, hy, hn, _, _, h => by
    have hs := sort_eq_of_chars hx hy h
    cases y with
    | obj ns =>
      by_cases hms : ms = [] <;> by_cases hns : ns = []
      · subst hms hns
        exact ⟨rfl, List.append_cancel_left h⟩
      · subst hms
        exact absurd h (chars_obj_nil_ne hns)
      · subst hns
        exact absurd h.symm (chars_obj_nil_ne hms)
      · rw [Proper] at hx hy
        rw [numbers, numbers] at hn
        obtain ⟨rfl, hr⟩ := memberChars_inj ms hx.2 hy.2 hn (memberChars_of_obj hms hns h)
        exact ⟨rfl, hr⟩
    | null | bool _ | int _ | real _ | str _ | arr _ => cases hs

theorem itemChars_inj : ∀ (xs : List Json) {ys : List Json} {r r' : List Char}, ProperItems xs →
    ProperItems ys → ToldApart (itemNumbers xs) (itemNumbers ys) →
    itemChars xs ++ r = itemChars ys ++ r' → xs = ys ∧ r = r'
  | [], ys, r, r', _, _, _, h => by
    cases ys with
    | nil => exact ⟨rfl, List.append_cancel_left h⟩
    | cons y ys =>
      rw [itemChars, itemChars] at h
      cases h
  | x :: xs, ys, r, r', hx, hy, hn, h => by
    cases ys with
    | nil =>
      rw [itemChars, itemChars] at h
      cases h
    | cons y ys =>
      rw [ProperItems] at hx hy
      rw [itemNumbers, itemNumbers] at hn
      rw [itemChars, itemChars, List.cons_append, List.cons_append, List.cons.injEq,
        List.append_assoc, List.append_assoc] at h
      obtain ⟨rfl, hrest⟩ := chars_inj x hx.1 hy.1 hn.left (closes_itemChars xs r)
        (closes_itemChars ys r') h.2
      obtain ⟨rfl, hr⟩ := itemChars_inj xs hx.2 hy.2 hn.right hrest
      exact ⟨rfl, hr⟩

theorem memberChars_inj : ∀ (ms : List (String × Json)) {ns : List (String × Json)}
    {r r' : List Char}, ProperMembers ms → ProperMembers ns →
    ToldApart (memberNumbers ms) (memberNumbers ns) →
    memberChars ms ++ r = memberChars ns ++ r' → ms = ns ∧ r = r'
  | [], ns, r, r', _, _, _, h => by
    cases ns with
    | nil => exact ⟨rfl, List.append_cancel_left h⟩
    | cons n ns =>
      rw [memberChars, memberChars] at h
      cases h
  | (name, x) :: ms, ns, r, r', hx, hy, hn, h => by
    cases ns with
    | nil =>
      rw [memberChars, memberChars] at h
      cases h
    | cons n ns =>
      obtain ⟨name', y⟩ := n
      rw [ProperMembers] at hx hy
      rw [memberNumbers, memberNumbers] at hn
      rw [memberChars, memberChars, List.cons_append, List.cons_append, List.cons.injEq,
        List.append_assoc, List.append_assoc] at h
      obtain ⟨rfl, hvalue⟩ := stringChars_inj h.2
      rw [List.cons_append, List.cons_append, List.cons.injEq, List.append_assoc,
        List.append_assoc] at hvalue
      obtain ⟨rfl, hrest⟩ := chars_inj x hx.1 hy.1 hn.left (closes_memberChars ms r)
        (closes_memberChars ns r') hvalue.2
      obtain ⟨rfl, hr⟩ := memberChars_inj ms hx.2 hy.2 hn.right hrest
      exact ⟨rfl, hr⟩

end

/-- **Values that are written alike are the same.** -/
theorem compact_inj {x y : Json} (hx : x.Proper) (hy : y.Proper)
    (hn : ToldApart x.numbers y.numbers) (h : x.compact = y.compact) : x = y := by
  have hend : Closes [] := trivial
  have hchars : x.chars ++ [] = y.chars ++ [] := by
    rw [String.ofList_injective h]
  exact (chars_inj x hx hy hn hend hend hchars).1

/-! ## 5. Canonical texts -/

mutual

theorem numbers_normal : ∀ {j n : Json}, n ∈ j.normal.numbers → n ∈ j.numbers
  | .null, _, h | .bool _, _, h | .int _, _, h | .real _, _, h | .str _, _, h => by
    rw [normal] at h
    exact h
  | .arr items, _, h => by
    rw [normal, numbers] at h
    rw [numbers]
    exact itemNumbers_normal h
  | .obj ms, n, h => by
    have hmem : n ∈ memberNumbers (normalMembers ms) := by
      rw [normal, numbers, mem_memberNumbers] at h
      obtain ⟨m, hm, hn⟩ := h
      exact mem_memberNumbers.mpr ⟨m, mem_sortBy.mp hm, hn⟩
    rw [numbers]
    exact memberNumbers_normal hmem

theorem itemNumbers_normal : ∀ {items : List Json} {n : Json},
    n ∈ itemNumbers (normalItems items) → n ∈ itemNumbers items
  | [], _, h => by
    rw [normalItems] at h
    exact h
  | item :: items, n, h => by
    rw [normalItems, itemNumbers] at h
    rw [itemNumbers]
    rcases List.mem_append.mp h with h | h
    · exact List.mem_append_left _ (numbers_normal h)
    · exact List.mem_append_right _ (itemNumbers_normal h)

theorem memberNumbers_normal : ∀ {ms : List (String × Json)} {n : Json},
    n ∈ memberNumbers (normalMembers ms) → n ∈ memberNumbers ms
  | [], _, h => by
    rw [normalMembers] at h
    exact h
  | (name, value) :: ms, n, h => by
    rw [memberNumbers]
    cases hnull : value.isNull with
    | true =>
      simp only [normalMembers, hnull, if_true] at h
      exact List.mem_append_right _ (memberNumbers_normal h)
    | false =>
      simp only [normalMembers, hnull, Bool.false_eq_true, if_false, memberNumbers] at h
      rcases List.mem_append.mp h with h | h
      · exact List.mem_append_left _ (numbers_normal h)
      · exact List.mem_append_right _ (memberNumbers_normal h)

end

/-- **Canonical texts are equal exactly for alike values.** -/
theorem canonical_eq_iff {a b : Json} (ha : a.Proper) (hb : b.Proper)
    (hn : ToldApart a.numbers b.numbers) : a.canonical = b.canonical ↔ Alike a b := by
  rw [alike_iff ha]
  constructor
  · intro h
    refine compact_inj ha.normal hb.normal (fun x hx y hy => ?_) h
    exact hn x (numbers_normal hx) y (numbers_normal hy)
  · intro h
    rw [canonical, h, canonical]

end Curation.Json
