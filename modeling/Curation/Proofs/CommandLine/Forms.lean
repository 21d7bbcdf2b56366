/-
# Two forms of a script

The calls of a script are written as one list, or one on each line with blank lines anywhere.  Which
form a text has is guessed from its first character that is not blank: a bracket opens a list.  But
a call is an object, or itself a list that starts with the name of its action, so that a text of
lines may begin with a bracket too.

The two forms mean the same calls exactly if the first call is an object (`read_forms_iff`).  A
later call may be a list, for its line is read on its own.  A first one is taken for the list of
all calls, and never by luck for the right one: its first item is a name, and no call is a text
(`read?_of_quote`).

That the reader reads back what was written is assumed, of the calls and of their list
(`ReadsBack`).
-/
import Curation.CommandLine.Script
import Curation.Proofs.Json.Printed
import Curation.Session.Action

namespace Curation
namespace Json

/-- The reader reads back what was written. -/
def ReadsBack (v : Json) : Prop := read? v.compact = some v

/-! ## 1. A compact text is one line -/

/-- No control character. -/
def isShown (c : Char) : Bool := 0x20 ≤ c.toNat

theorem shown_control : ∀ n < 0x20,
    ['\\', 'u', '0', '0', Nat.digitChar (n / 16), Nat.digitChar (n % 16)].all isShown = true := by
  decide

/-- What is written for one character of a string holds no control character. -/
theorem shown_escapedChar (c : Char) : (escapedChar c).all isShown = true := by
  unfold escapedChar
  iterate 7
    split
    · decide
  split
  · next h => exact shown_control _ h
  · next h =>
    rw [List.all_cons, List.all_nil, Bool.and_true]
    exact decide_eq_true (Nat.not_lt.mp h)

theorem shown_stringChars (s : String) : (stringChars s).all isShown = true := by
  have hinside : (s.toList.flatMap escapedChar).all isShown = true := by
    rw [List.all_flatMap]
    exact List.all_eq_true.mpr fun c _ => shown_escapedChar c
  rw [stringChars, List.all_cons, List.all_append, hinside]
  decide

theorem shown_of_isNumberChar {c : Char} (h : isNumberChar c = true) : isShown c = true := by
  simp only [isNumberChar, Bool.or_eq_true, beq_iff_eq] at h
  obtain (((hdigit | rfl) | rfl) | rfl) | rfl := h
  · simp only [Char.isDigit, Bool.and_eq_true, decide_eq_true_eq] at hdigit
    exact decide_eq_true (Nat.le_trans (by decide) hdigit.1)
  all_goals decide

theorem shown_number {cs : List Char} (h : NumberText cs) : cs.all isShown = true :=
  List.all_eq_true.mpr fun c hc => shown_of_isNumberChar (h.2 c hc)

theorem shown_real (x : Binary64) : (realText x).toList.all isShown = true := by
  cases hx : x.isFinite with
  | true => exact shown_number (numberText_real hx)
  | false =>
    have hnull : realText x = "null" := if_neg (by rw [hx]; decide)
    rw [hnull]
    decide

mutual

/-- **A compact text holds no control character**, so it is one line. -/
theorem shown_chars : ∀ v : Json, v.chars.all isShown = true
  | .null => by rw [chars]; decide
  | .bool b => by rw [chars]; cases b <;> decide
  | .int i => by
    rw [chars]
    exact shown_number (numberText_int i)
  | .real x => by
    rw [chars]
    exact shown_real x
  | .str s => by
    rw [chars]
    exact shown_stringChars s
  | .arr [] => by rw [chars]; decide
  | .arr (item :: items) => by
    rw [chars, List.all_cons, List.all_append, shown_chars item, shown_itemChars items]
    decide
  | .obj [] => by rw [chars]; decide
  | .obj ((name, value) :: members) => by
    rw [chars, List.all_cons, List.all_append, List.all_cons, List.all_append,
      shown_stringChars name, shown_chars value, shown_memberChars members]
    decide

theorem shown_itemChars : ∀ items : List Json, (itemChars items).all isShown = true
  | [] => by rw [itemChars]; decide
  | item :: items => by
    rw [itemChars, List.all_cons, List.all_append, shown_chars item, shown_itemChars items]
    decide

theorem shown_memberChars : ∀ members : List (String × Json),
    (memberChars members).all isShown = true
  | [] => by rw [memberChars]; decide
  | (name, value) :: members => by
    rw [memberChars, List.all_cons, List.all_append, List.all_cons, List.all_append,
      shown_stringChars name, shown_chars value, shown_memberChars members]
    decide

end

theorem not_mem_chars {c : Char} (hc : isShown c = false) (v : Json) : c ∉ v.chars := by
  intro h
  rw [List.all_eq_true.mp (shown_chars v) c h] at hc
  cases hc

theorem toList_compact (v : Json) : v.compact.toList = v.chars := String.toList_ofList

/-- An object is written with a brace in front. -/
theorem chars_obj : ∀ members, ∃ cs, (obj members).chars = '\x7b' :: cs
  | [] => ⟨_, by rw [chars]⟩
  | (_, _) :: _ => ⟨_, by rw [chars]⟩

/-- A list that begins with a text is written with a bracket and a quote in front. -/
theorem chars_arr_str (s : String) (items : List Json) :
    ∃ cs, (arr (.str s :: items)).chars = '[' :: '"' :: cs :=
  ⟨_, by rw [chars, chars, stringChars, List.cons_append]⟩

/-! ## 2. A list that begins with a text -/

/-- The items that were seen stay in front. -/
theorem readItems_eq {fuel depth : Nat} : ∀ {seen : List Json} {cs rest : List Char} {v : Json},
    readItems fuel depth seen cs = some (v, rest) → ∃ more, v = .arr (seen.reverse ++ more) := by
  induction fuel with
  | zero => intro seen cs rest v h; cases h
  | succ fuel ih =>
    intro seen cs rest v h
    unfold readItems at h
    split at h
    · cases h
    · next item after _ =>
      split at h
      · obtain ⟨more, hv⟩ := ih h
        exact ⟨item :: more, by rw [hv, List.reverse_cons, List.append_assoc]; rfl⟩
      · cases h
        exact ⟨[item], by rw [List.reverse_cons]⟩
      · cases h

/-- A quote begins a text. -/
theorem readValue_of_quote {fuel depth : Nat} {cs rest : List Char} {v : Json}
    (h : readValue fuel depth ('"' :: cs) = some (v, rest)) : ∃ s, v = .str s := by
  cases fuel with
  | zero => cases h
  | succ fuel =>
    unfold readValue at h
    change ((readString [] cs).map fun found => (Json.str found.1, found.2)) = _ at h
    obtain ⟨found, -, hfound⟩ := Option.map_eq_some_iff.mp h
    exact ⟨found.1, (Prod.mk.inj hfound).1.symm⟩

theorem readItems_of_quote {fuel depth : Nat} {cs rest : List Char} {v : Json}
    (h : readItems fuel depth [] ('"' :: cs) = some (v, rest)) :
    ∃ s items, v = .arr (.str s :: items) := by
  cases fuel with
  | zero => cases h
  | succ fuel =>
    unfold readItems at h
    split at h
    · cases h
    · next item after hitem =>
      obtain ⟨s, rfl⟩ := readValue_of_quote hitem
      split at h
      · obtain ⟨more, rfl⟩ := readItems_eq h
        exact ⟨s, more, rfl⟩
      · cases h
        exact ⟨s, [], rfl⟩
      · cases h

/-- **A bracket and a quote** begin a list whose first item is a text, whatever follows. -/
theorem read?_of_quote {text : String} {cs : List Char} {v : Json}
    (htext : text.toList = '[' :: '"' :: cs) (h : read? text = some v) :
    ∃ s items, v = .arr (.str s :: items) := by
  unfold read? at h
  rw [htext] at h
  dsimp only at h
  split at h
  · next v' rest hread =>
    split at h
    · cases h
      unfold readValue at hread
      change readItems _ _ [] ('"' :: cs) = _ at hread
      exact readItems_of_quote hread
    · cases h
  · cases h

end Json

/-! ## 3. Calls -/

/-- **What a call looks like**: an object, or a list that starts with a name. -/
theorem Action.shape_of_decode {call : Json} {act : Action} (h : decode call = .ok act) :
    (∃ members, call = .obj members) ∨ ∃ s items, call = .arr (.str s :: items) := by
  unfold decode at h
  split at h
  · next members => exact .inl ⟨members, rfl⟩
  · cases h
  · next tag items =>
    cases tag with
    | str s => exact .inr ⟨s, items, rfl⟩
    | null | bool _ | int _ | real _ | arr _ | obj _ => cases h
  · cases h

/-- No call begins with a blank. -/
theorem Action.chars_of_decode {call : Json} {act : Action} (h : decode call = .ok act) :
    ∃ c cs, call.chars = c :: cs ∧ isBlank c = false := by
  obtain ⟨members, rfl⟩ | ⟨s, items, rfl⟩ := shape_of_decode h
  · obtain ⟨cs, hcs⟩ := Json.chars_obj members
    exact ⟨_, cs, hcs, by decide⟩
  · obtain ⟨cs, hcs⟩ := Json.chars_arr_str s items
    exact ⟨_, _, hcs, by decide⟩

/-! ## 4. Blanks and lines -/

theorem toList_trimStart (text : String) :
    (trimStart text).toList = text.toList.dropWhile isBlank := String.toList_ofList

/-- A carriage return is taken off where there is one. -/
theorem dropReturn_of_not_mem {line : List Char} (h : '\r' ∉ line) : dropReturn line = line := by
  unfold dropReturn
  split
  · next rest hrest =>
    have hmem : '\r' ∈ line.reverse := by
      rw [hrest]
      exact List.mem_cons_self
    exact absurd (List.mem_reverse.mp hmem) h
  · rfl

theorem mem_of_mem_dropReturn {line : List Char} {c : Char} (h : c ∈ dropReturn line) :
    c ∈ line := by
  unfold dropReturn at h
  split at h
  · next rest hrest =>
    refine List.mem_reverse.mp ?_
    rw [hrest]
    exact List.mem_cons_of_mem _ (List.mem_reverse.mp h)
  · exact h

/-- A line that ends is the first of the lines. -/
theorem linesFrom_append {line : List Char} (h : '\n' ∉ line) (run rest : List Char) :
    linesFrom run (line ++ '\n' :: rest) =
      dropReturn (run.reverse ++ line) :: linesFrom [] rest := by
  induction line generalizing run with
  | nil => rw [List.nil_append, linesFrom, if_pos rfl, List.append_nil]
  | cons c line ih =>
    obtain ⟨hc, hline⟩ := not_or.mp (List.mem_cons.not.mp h)
    rw [List.cons_append, linesFrom, if_neg (Ne.symm hc), ih hline, List.reverse_cons,
      List.append_assoc, List.singleton_append]

/-- A line that does not end is the only one. -/
theorem linesFrom_last {line : List Char} (h : '\n' ∉ line) (run : List Char) :
    linesFrom run line = if (run.reverse ++ line).isEmpty then [] else [run.reverse ++ line] := by
  induction line generalizing run with
  | nil => simp [linesFrom]
  | cons c line ih =>
    obtain ⟨hc, hline⟩ := not_or.mp (List.mem_cons.not.mp h)
    rw [linesFrom, if_neg (Ne.symm hc), ih hline, List.reverse_cons, List.append_assoc,
      List.singleton_append]

namespace CommandLine.Script

/-! ## 5. Scripts -/

/-- A line of a script: a call, or nothing but blanks. -/
inductive Line where
  | call (value : Json)
  | blank (text : String) (hblank : blankText text = true) (hline : '\n' ∉ text.toList)

/-- The text of a line. -/
def Line.text : Line → String
  | .call value => value.compact
  | .blank text _ _ => text

/-- The call on a line, if it is not blank. -/
def Line.call? : Line → Option Json
  | .call value => some value
  | .blank _ _ _ => none

/-- The calls on some lines. -/
def calls (lines : List Line) : List Json := lines.filterMap Line.call?

theorem calls_cons (line : Line) (lines : List Line) :
    calls (line :: lines) = line.call?.toList ++ calls lines := by
  cases h : line.call? <;> simp [calls, h]

/-- **The form with a call on each line.** -/
def ofLines (lines : List Line) : String := "\n".intercalate (lines.map Line.text)

theorem toList_ofLines_singleton (line : Line) :
    (ofLines [line]).toList = line.text.toList := by
  simp [ofLines]

theorem toList_ofLines_cons (line next : Line) (lines : List Line) :
    (ofLines (line :: next :: lines)).toList =
      line.text.toList ++ '\n' :: (ofLines (next :: lines)).toList := by
  simp [ofLines, String.toList_intercalate]

/-- **The form with one list.** -/
def ofCalls (calls : List Json) : String := (Json.arr calls).compact

/-- How the text of a line reads: as a value, or as nothing if it is blank. -/
def Reads (text : String) : Option Json → Prop
  | none => blankText text = true
  | some call => blankText text = false ∧ Json.read? text = some call

theorem readLines_cons {text : String} {call : Option Json} (h : Reads text call) {n : Nat}
    {more : List (String × Nat)} {rest : List Json} (hmore : readLines more = .ok rest) :
    readLines ((text, n) :: more) = .ok (call.toList ++ rest) := by
  cases call with
  | none =>
    have hblank : blankText text = true := h
    rw [readLines, if_pos hblank, hmore]
    rfl
  | some call =>
    obtain ⟨hblank, hread⟩ := h
    rw [readLines, if_neg (by rw [hblank]; decide), hread, hmore]
    rfl

theorem reads_of_call {call : Json} {act : Action} (hread : call.ReadsBack)
    (h : Action.decode call = .ok act) : Reads call.compact (some call) := by
  obtain ⟨c, cs, hchars, hc⟩ := Action.chars_of_decode h
  refine ⟨?_, hread⟩
  rw [blankText, Json.toList_compact, hchars, List.all_cons, hc, Bool.false_and]

namespace Line

/-- A line is one line. -/
theorem newline_not_mem : ∀ line : Line, '\n' ∉ line.text.toList
  | .call value => by
    rw [text, Json.toList_compact]
    exact Json.not_mem_chars (by decide) value
  | .blank _ _ hline => hline

/-- The call on a line is one that a session understands and the reader reads back. -/
def Sound (line : Line) : Prop :=
  ∀ call, line.call? = some call → call.ReadsBack ∧ ∃ act, Action.decode call = .ok act

variable {line : Line}

theorem reads (h : line.Sound) : Reads line.text line.call? := by
  cases line with
  | call value =>
    obtain ⟨hread, act, hact⟩ := h value rfl
    exact reads_of_call hread hact
  | blank text hblank hline => exact hblank

/-- A carriage return at the end of a line makes no difference. -/
theorem reads_dropReturn (h : line.Sound) :
    Reads (String.ofList (dropReturn line.text.toList)) line.call? := by
  cases line with
  | call value =>
    have hreturn : '\r' ∉ value.compact.toList := by
      rw [Json.toList_compact]
      exact Json.not_mem_chars (by decide) value
    rw [text, dropReturn_of_not_mem hreturn, String.ofList_toList]
    exact reads h
  | blank text hblank hline =>
    refine List.all_eq_true.mpr fun c hc => List.all_eq_true.mp hblank c ?_
    rw [String.toList_ofList] at hc
    exact mem_of_mem_dropReturn hc

end Line

/-- **Lines are read one by one.** -/
theorem readLines_ofLines : ∀ {lines : List Line}, (∀ line ∈ lines, line.Sound) → ∀ n,
    readLines ((textLines (ofLines lines)).zipIdx n) = .ok (calls lines)
  | [], _, _ => rfl
  | [line], h, n => by
    have hreads := Line.reads (h line (List.mem_singleton_self line))
    unfold textLines
    rw [toList_ofLines_singleton, linesFrom_last line.newline_not_mem, calls_cons]
    split
    · next hempty =>
      cases hcall : line.call? with
      | none => rfl
      | some call =>
        -- no call is written as nothing
        rw [hcall] at hreads
        have hblank : blankText line.text = true := by
          have hnil : line.text.toList = [] := List.isEmpty_iff.mp hempty
          simp [blankText, hnil]
        exact absurd hblank (by simp [hreads.1])
    · rw [List.reverse_nil, List.nil_append, List.map_cons, List.map_nil, String.ofList_toList]
      exact readLines_cons hreads rfl
  | line :: next :: lines, h, n => by
    obtain ⟨hline, hrest⟩ := List.forall_mem_cons.mp h
    have ih := readLines_ofLines hrest (n + 1)
    unfold textLines at ih ⊢
    rw [toList_ofLines_cons, linesFrom_append line.newline_not_mem, calls_cons]
    exact readLines_cons (Line.reads_dropReturn hline) ih

/-- **The first call comes after the blanks.** -/
theorem dropWhile_ofLines : ∀ {lines : List Line} {first : Json} {rest : List Json},
    (∀ line ∈ lines, line.Sound) → calls lines = first :: rest →
    ∃ more, (ofLines lines).toList.dropWhile isBlank = first.chars ++ more
  | [], _, _, _, h => by cases h
  | .call value :: lines, first, rest, hsound, h => by
    obtain ⟨rfl, -⟩ : value = first ∧ calls lines = rest := List.cons.inj h
    obtain ⟨-, act, hact⟩ := hsound _ List.mem_cons_self value rfl
    obtain ⟨c, cs, hchars, hc⟩ := Action.chars_of_decode hact
    have hfront : ∃ more, (ofLines (.call value :: lines)).toList = value.chars ++ more := by
      cases lines with
      | nil =>
        exact ⟨[], by
          rw [toList_ofLines_singleton, Line.text, Json.toList_compact, List.append_nil]⟩
      | cons next lines =>
        exact ⟨_, by rw [toList_ofLines_cons, Line.text, Json.toList_compact]⟩
    obtain ⟨more, hmore⟩ := hfront
    refine ⟨more, ?_⟩
    rw [hmore, hchars, List.cons_append, List.dropWhile_cons_of_neg (by rw [hc]; decide)]
  | .blank text hblank hline :: lines, first, rest, hsound, h => by
    have hcalls : calls lines = first :: rest := h
    obtain ⟨more, hmore⟩ := dropWhile_ofLines (fun l hl => hsound l (List.mem_cons_of_mem _ hl))
      hcalls
    cases lines with
    | nil => cases hcalls
    | cons next lines =>
      refine ⟨more, ?_⟩
      have hall : ∀ c ∈ (Line.blank text hblank hline).text.toList, isBlank c = true :=
        List.all_eq_true.mp hblank
      rw [toList_ofLines_cons, List.dropWhile_append_of_pos hall,
        List.dropWhile_cons_of_pos (by decide), hmore]

/-- A text whose first character is a bracket is read as one list. -/
theorem read_of_bracket {text : String} {cs : List Char}
    (h : text.toList.dropWhile isBlank = '[' :: cs) :
    read text = match Json.read? (trimStart text) with
      | some (.arr found) => .ok found
      | _ => .error (.undone .parseList) := by
  unfold read
  dsimp only
  rw [toList_trimStart, h]
  rfl

/-- A text whose first character is a brace is read line by line. -/
theorem read_of_brace {text : String} {cs : List Char}
    (h : text.toList.dropWhile isBlank = '\x7b' :: cs) :
    read text = readLines ((textLines text).zipIdx 1) := by
  unfold read
  dsimp only
  rw [toList_trimStart, h]
  rfl

/-- **The form with one list** reads as its calls. -/
theorem read_ofCalls {cs : List Json} (hread : (Json.arr cs).ReadsBack) :
    read (ofCalls cs) = .ok cs := by
  obtain ⟨rest, hchars⟩ : ∃ rest, (ofCalls cs).toList = '[' :: rest := by
    rw [ofCalls, Json.toList_compact]
    cases cs with
    | nil => exact ⟨_, by rw [Json.chars]⟩
    | cons c cs => exact ⟨_, by rw [Json.chars]⟩
  have hdrop : (ofCalls cs).toList.dropWhile isBlank = '[' :: rest := by
    rw [hchars, List.dropWhile_cons_of_neg (by decide)]
  have htrim : trimStart (ofCalls cs) = ofCalls cs := by
    rw [trimStart, hdrop, ← hchars, String.ofList_toList]
  have hback : Json.read? (ofCalls cs) = some (.arr cs) := hread
  rw [read_of_bracket hdrop, htrim, hback]

/-- A text that begins with a bracket and a quote reads as a list that begins with a text, if at
all. -/
theorem head_of_read {text : String} {cs : List Char}
    (h : text.toList.dropWhile isBlank = '[' :: '"' :: cs) {found : List Json}
    (hread : read text = .ok found) : ∃ s items, found = .str s :: items := by
  rw [read_of_bracket h] at hread
  split at hread
  · next calls hcalls =>
    cases hread
    obtain ⟨s, items, hv⟩ := Json.read?_of_quote ((toList_trimStart text).trans h) hcalls
    exact ⟨s, items, Json.arr.inj hv⟩
  · cases hread

/-- **The two forms of a script mean the same calls** exactly if the first call is an object.  The
form with one list always means them. -/
theorem read_forms_iff {lines : List Line} (hsome : calls lines ≠ [])
    (hdecode : ∀ call ∈ calls lines, ∃ act, Action.decode call = .ok act)
    (hread : ∀ v ∈ Json.arr (calls lines) :: calls lines, v.ReadsBack) :
    read (ofCalls (calls lines)) = .ok (calls lines) ∧
      (read (ofLines lines) = .ok (calls lines) ↔
        ∃ members rest, calls lines = .obj members :: rest) := by
  obtain ⟨hlist, heach⟩ := List.forall_mem_cons.mp hread
  refine ⟨read_ofCalls hlist, ?_⟩
  have hsound : ∀ line ∈ lines, line.Sound := fun line hline call hcall =>
    have hmem : call ∈ calls lines := List.mem_filterMap.mpr ⟨line, hline, hcall⟩
    ⟨heach call hmem, hdecode call hmem⟩
  obtain ⟨first, rest, hcalls⟩ := List.exists_cons_of_ne_nil hsome
  obtain ⟨act, hact⟩ := hdecode first (by rw [hcalls]; exact List.mem_cons_self)
  obtain ⟨more, hmore⟩ := dropWhile_ofLines hsound hcalls
  obtain ⟨members, rfl⟩ | ⟨s, items, rfl⟩ := Action.shape_of_decode hact
  · obtain ⟨cs, hcs⟩ := Json.chars_obj members
    rw [hcs, List.cons_append] at hmore
    rw [read_of_brace hmore, readLines_ofLines hsound 1]
    exact ⟨fun _ => ⟨members, rest, hcalls⟩, fun _ => rfl⟩
  · obtain ⟨cs, hcs⟩ := Json.chars_arr_str s items
    rw [hcs, List.cons_append, List.cons_append] at hmore
    constructor
    · intro h
      obtain ⟨s', items', hfound⟩ := head_of_read hmore h
      rw [hcalls] at hfound
      cases hfound
    · rintro ⟨members, rest', h⟩
      rw [hcalls] at h
      cases h

/-- A list-shaped call is read rightly where it comes second and wrongly where it comes first: its
name and its field are taken for two calls. -/
theorem read_forms_iff_search :
    let search : Json := .obj [("action", .str "search"), ("query", .str "tea")]
    let listed : Json := .arr [.str "search", .str "tea"]
    let lines : List Line := [.blank "" rfl (by decide), .call search,
      .blank " \t" rfl (by decide), .call listed, .blank "" rfl (by decide)]
    read (ofLines lines) = .ok [search, listed] ∧
      read (ofCalls [listed]) = .ok [listed] ∧ read (ofLines [.call listed]) ≠ .ok [listed] ∧
      read (ofLines [.call listed]) = .ok [.str "search", .str "tea"] := by
  intro search listed lines
  have hsearch : Action.decode search = .ok (.search "tea") := by decide +kernel
  have hlisted : Action.decode listed = .ok (.search "tea") := by decide +kernel
  obtain ⟨-, hboth⟩ := read_forms_iff (by decide : calls lines ≠ [])
    (List.forall_mem_cons.mpr ⟨⟨_, hsearch⟩, List.forall_mem_singleton.mpr ⟨_, hlisted⟩⟩)
    (by unfold Json.ReadsBack; decide +kernel)
  obtain ⟨hlist, hlines⟩ := read_forms_iff (by decide : calls [.call listed] ≠ [])
    (List.forall_mem_singleton.mpr ⟨_, hlisted⟩) (by unfold Json.ReadsBack; decide +kernel)
  refine ⟨hboth.mpr ⟨_, _, rfl⟩, hlist, fun h => ?_, by decide +kernel⟩
  obtain ⟨members, rest, hobj⟩ := hlines.mp h
  exact Json.noConfusion (List.cons.inj hobj).1

end CommandLine.Script
end Curation
