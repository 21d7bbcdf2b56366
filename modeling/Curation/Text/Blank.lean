/-
# Blanks, trimming and words

What counts as blank is the Unicode property of white space, which is larger than the
blanks of ASCII and does not include the zero-width characters.
-/

namespace Curation

/-- White space: tab to carriage return, space, next line, the no-break, ogham and
ideographic spaces, the typographic spaces, and the line and paragraph separators. -/
def isBlank (c : Char) : Bool :=
  let n := c.toNat
  (0x9 ≤ n && n ≤ 0xd) || n == 0x20 || n == 0x85 || n == 0xa0 || n == 0x1680 ||
    (0x2000 ≤ n && n ≤ 0x200a) || n == 0x2028 || n == 0x2029 || n == 0x202f || n == 0x205f ||
    n == 0x3000

/-- Without the blanks in front. -/
def trimStart (text : String) : String :=
  String.ofList (text.toList.dropWhile isBlank)

/-- Without the blanks behind. -/
def trimEnd (text : String) : String :=
  String.ofList ((text.toList.reverse.dropWhile isBlank).reverse)

/-- Without the blanks at either end. -/
def trim (text : String) : String :=
  trimEnd (trimStart text)

/-- Nothing but blanks. -/
def blankText (text : String) : Bool :=
  text.toList.all isBlank

/-- The runs of characters between blanks, in order, the current run being collected. -/
def wordsFrom (run : List Char) : List Char → List (List Char)
  | [] => if run.isEmpty then [] else [run.reverse]
  | c :: cs =>
    if isBlank c then
      (if run.isEmpty then wordsFrom [] cs else run.reverse :: wordsFrom [] cs)
    else wordsFrom (c :: run) cs

/-- The words of a text: its longest blank-free pieces. -/
def words (text : String) : List (List Char) :=
  wordsFrom [] text.toList

/-- Every blank that core's own class knows is a blank here. -/
theorem isBlank_of_isWhitespace (c : Char) (h : c.isWhitespace = true) : isBlank c = true := by
  simp only [Char.isWhitespace, Bool.or_eq_true, decide_eq_true_eq] at h
  rcases h with ((rfl | rfl) | rfl) | rfl <;> decide

end Curation
