/-
# Lines

A line ends at a line feed, which a carriage return may precede; a last line need not end.
-/

namespace Curation

/-- A line without the carriage return that belongs to its end. -/
def dropReturn (line : List Char) : List Char :=
  match line.reverse with
  | '\r' :: rest => rest.reverse
  | _ => line

/-- The lines of a text, the current one being collected backwards. -/
def linesFrom (run : List Char) : List Char → List (List Char)
  | [] => if run.isEmpty then [] else [run.reverse]
  | c :: cs => if c = '\n' then dropReturn run.reverse :: linesFrom [] cs else linesFrom (c :: run) cs

/-- The lines of a text. -/
def textLines (text : String) : List String :=
  (linesFrom [] text.toList).map String.ofList

/-- Blanks in front of a text up to a width. -/
def padLeft (width : Nat) (text : String) : String :=
  String.ofList (List.replicate (width - text.length) ' ') ++ text

/-- Blanks behind a text up to a width. -/
def padRight (width : Nat) (text : String) : String :=
  text ++ String.ofList (List.replicate (width - text.length) ' ')

/-- Zeros in front of a number up to a width. -/
def padZeros (width : Nat) (n : Nat) : String :=
  let digits := Nat.toDigits 10 n
  String.ofList (List.replicate (width - digits.length) '0' ++ digits)

end Curation
