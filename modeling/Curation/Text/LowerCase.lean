/-
# Lower case

Full lower-casing: one character may become two, and the capital sigma becomes the final
sigma at the end of a word.
-/
import Curation.Text.CaseTable

namespace Curation

/-- A character in lower case, without regard to its neighbours.  The dotted capital I keeps
its dot as a mark of its own. -/
def lowerChar (c : Char) : List Char :=
  let n := c.toNat
  if n < 0x80 then [c.toLower]
  else if n = 0x130 then ['i', '\u0307']
  else
    match CaseTable.lower.find? fun (first, last, step, _) =>
        decide (first ≤ n) && decide (n ≤ last) && (n - first) % step == 0 with
    | some (_, _, _, offset) => [Char.ofNat ((n : Int) + offset).toNat]
    | none => [c]

/-- Whether a cased letter comes first, once the ignorable characters are passed over. -/
def startsCased (cs : List Char) : Bool :=
  match cs.dropWhile CaseTable.ignorable.contains with
  | [] => false
  | c :: _ => CaseTable.cased.contains c

/-- Lower-casing with the text before (nearest first) at hand.  A capital sigma is final
when a letter comes before it and none after. -/
def lowerFrom (before : List Char) : List Char → List Char
  | [] => []
  | c :: cs =>
    (if c = 'Σ' then
      (if startsCased before && !startsCased cs then ['ς'] else ['σ'])
     else lowerChar c) ++ lowerFrom (c :: before) cs

/-- A text in lower case. -/
def lowerCase (cs : List Char) : List Char :=
  lowerFrom [] cs

/-- Whether `part` occurs somewhere in a text. -/
def occursIn (part : List Char) : List Char → Bool
  | [] => part.isEmpty
  | c :: cs => part.isPrefixOf (c :: cs) || occursIn part cs

end Curation
