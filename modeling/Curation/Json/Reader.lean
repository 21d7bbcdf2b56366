/-
# Reading JSON

The reader takes exactly one value, with blanks around it, and refuses everything else.
Nesting is limited, a number must fit, and a string must hold whole characters.  A name that
is given twice keeps its first place and its last value.
-/
import Curation.Json.Printer

namespace Curation.Json

/-! ## 1. Tokens -/

/-- The blanks of JSON. -/
def isGap (c : Char) : Bool :=
  c == ' ' || c == '\t' || c == '\n' || c == '\r'

/-- Past the blanks. -/
def skipGaps (cs : List Char) : List Char :=
  cs.dropWhile isGap

/-- The value of a hexadecimal digit. -/
def hexDigit? (c : Char) : Option Nat :=
  let n := c.toNat
  if '0' ≤ c ∧ c ≤ '9' then some (n - 48)
  else if 'a' ≤ c ∧ c ≤ 'f' then some (n - 87)
  else if 'A' ≤ c ∧ c ≤ 'F' then some (n - 55)
  else none

/-- The value of four hexadecimal digits. -/
def hexFour? (a b c d : Char) : Option Nat := do
  let a ← hexDigit? a
  let b ← hexDigit? b
  let c ← hexDigit? c
  let d ← hexDigit? d
  return ((a * 16 + b) * 16 + c) * 16 + d

/-- The first half of a surrogate pair. -/
def isHighHalf (n : Nat) : Bool := 0xd800 ≤ n && n < 0xdc00

/-- The second half of a surrogate pair. -/
def isLowHalf (n : Nat) : Bool := 0xdc00 ≤ n && n < 0xe000

/-- A character with a one-letter escape. -/
def shortEscape? (c : Char) : Option Char :=
  match c with
  | '"' => some '"'
  | '\\' => some '\\'
  | '/' => some '/'
  | 'b' => some '\x08'
  | 'f' => some '\x0c'
  | 'n' => some '\n'
  | 'r' => some '\r'
  | 't' => some '\t'
  | _ => none

/-- The rest of a string after its opening quote, with what follows the closing one.  The
characters read so far are collected backwards. -/
def readString (seen : List Char) : List Char → Option (String × List Char)
  | [] => none
  | '"' :: cs => some (String.ofList seen.reverse, cs)
  | '\\' :: 'u' :: a :: b :: c :: d :: '\\' :: 'u' :: e :: f :: g :: h :: cs =>
    match hexFour? a b c d with
    | none => none
    | some n =>
      if isHighHalf n then
        match hexFour? e f g h with
        | none => none
        | some m =>
          if isLowHalf m then
            readString (Char.ofNat (0x10000 + (n - 0xd800) * 0x400 + (m - 0xdc00)) :: seen) cs
          else none
      else if isLowHalf n then none
      else readString (Char.ofNat n :: seen) ('\\' :: 'u' :: e :: f :: g :: h :: cs)
  | '\\' :: 'u' :: a :: b :: c :: d :: cs =>
    match hexFour? a b c d with
    | none => none
    | some n =>
      if isHighHalf n || isLowHalf n then none else readString (Char.ofNat n :: seen) cs
  | '\\' :: c :: cs =>
    match shortEscape? c with
    | none => none
    | some x => readString (x :: seen) cs
  | c :: cs => if c.toNat < 0x20 ∨ c = '\\' then none else readString (c :: seen) cs

/-! ## 2. Numbers

A number that is not a whole one of 64 bits becomes a double in one step of arithmetic: a
significand of at most 64 bits is multiplied or divided by a power of ten.  Both are rounded
before, so the last place may differ from that of the nearest double. -/

/-- The exponent mark, sign and digits at the front of a text, if there are any. -/
def exponentLength (cs : List Char) : Option Nat :=
  match cs with
  | c :: rest =>
    if c = 'e' ∨ c = 'E' then
      let sign := match rest with
        | '+' :: _ | '-' :: _ => 1
        | _ => 0
      let digits := ((rest.drop sign).takeWhile Char.isDigit).length
      if digits = 0 then none else some (1 + sign + digits)
    else some 0
  | [] => some 0

/-- Digits read onto a significand as long as it fits 64 bits, and the digits that are left. -/
def fitDigits (significand : Nat) : List Char → Nat × List Char
  | [] => (significand, [])
  | c :: cs =>
    let next := readDigits significand [c]
    if next < twoTo 64 then fitDigits next cs else (significand, c :: cs)

/-- A significand never outgrows 64 bits. -/
theorem fitDigits_lt {significand : Nat} (h : significand < twoTo 64) (cs : List Char) :
    (fitDigits significand cs).1 < twoTo 64 := by
  induction cs generalizing significand with
  | nil => exact h
  | cons c cs ih =>
    simp only [fitDigits]
    split
    next fits => exact ih fits
    next => exact h

/-- The largest power of ten that is a double. -/
def topPower : Nat := 308

/-- A power of ten as a double. -/
def powerOfTen (exponent : Nat) : Binary64 := .ofNat (tenTo exponent)

/-- A double divided by a power of ten, the largest one first as often as it goes in. -/
def shrink (x : Binary64) (exponent : Nat) : Binary64 :=
  if topPower < exponent then
    (if x.isZero then x else shrink (x.div (powerOfTen topPower)) (exponent - topPower))
  else x.div (powerOfTen exponent)
termination_by exponent
decreasing_by simp only [topPower] at *; omega

/-- The double for a significand and a power of ten, unless it is too large. -/
def scale? (negative : Bool) (significand : Nat) (exponent : Int) : Option Binary64 :=
  let x := Binary64.ofRatio negative significand 1
  if exponent < 0 then some (shrink x (-exponent).toNat)
  else if x.isZero then some x
  else if topPower < exponent.toNat then none
  else
    let y := x.mul (powerOfTen exponent.toNat)
    if y.isFinite then some y else none

/-- A number without its sign: whole part, fraction, exponent.  A whole number that fits 64
bits stays whole; the negative zero and everything else is a double.  Digits that do not fit
the significand are passed over; those of the whole part still count for the power of ten. -/
def readNumber (negative : Bool) (cs : List Char) : Option (Json × List Char) :=
  let whole := cs.takeWhile Char.isDigit
  let rest := cs.dropWhile Char.isDigit
  if whole.isEmpty ∨ (whole.length > 1 ∧ whole.head? = some '0') then none
  else
    let fraction := match rest with
      | '.' :: r => r.takeWhile Char.isDigit
      | _ => []
    let pointed := rest.head? = some '.'
    let rest := if pointed then rest.drop (1 + fraction.length) else rest
    if pointed ∧ fraction.isEmpty then none
    else
      match exponentLength rest with
      | none => none
      | some n =>
        let (significand, past) := fitDigits 0 whole
        let isWhole := !pointed && n == 0 && past.isEmpty
        if isWhole ∧ !negative then some (.int significand, rest)
        else if isWhole ∧ 0 < significand ∧ significand ≤ twoTo 63 then
          some (.int (-(significand : Int)), rest)
        else
          match readExponent? (rest.take n) with
          | none => none
          | some e =>
            let (significand, unread) := fitDigits significand fraction
            let e := e + past.length - (fraction.length - unread.length : Nat)
            (scale? negative significand e).map fun x => (.real x, rest.drop n)

/-! ## 3. Values -/

/-- How deep containers may be nested. -/
def depthLimit : Nat := 127

mutual
/-- A value at the front of a text, blanks before it allowed. -/
def readValue : Nat → Nat → List Char → Option (Json × List Char)
  | 0, _, _ => none
  | fuel + 1, depth, cs =>
    match skipGaps cs with
    | 'n' :: 'u' :: 'l' :: 'l' :: rest => some (.null, rest)
    | 't' :: 'r' :: 'u' :: 'e' :: rest => some (.bool true, rest)
    | 'f' :: 'a' :: 'l' :: 's' :: 'e' :: rest => some (.bool false, rest)
    | '"' :: rest => (readString [] rest).map fun (s, rest) => (.str s, rest)
    | '-' :: rest => readNumber true rest
    | '[' :: rest =>
      match depth with
      | 0 => none
      | depth + 1 =>
        match skipGaps rest with
        | ']' :: rest => some (.arr [], rest)
        | rest => readItems fuel depth [] rest
    | '\x7b' :: rest =>
      match depth with
      | 0 => none
      | depth + 1 =>
        match skipGaps rest with
        | '\x7d' :: rest => some (.obj [], rest)
        | rest => readMembers fuel depth [] rest
    | rest => readNumber false rest

/-- The items of a list up to its closing bracket, collected backwards. -/
def readItems : Nat → Nat → List Json → List Char → Option (Json × List Char)
  | 0, _, _, _ => none
  | fuel + 1, depth, seen, cs =>
    match readValue fuel depth cs with
    | none => none
    | some (item, rest) =>
      match skipGaps rest with
      | ',' :: rest => readItems fuel depth (item :: seen) rest
      | ']' :: rest => some (.arr (item :: seen).reverse, rest)
      | _ => none

/-- The members of an object up to its closing brace. -/
def readMembers : Nat → Nat → List (String × Json) → List Char → Option (Json × List Char)
  | 0, _, _, _ => none
  | fuel + 1, depth, seen, cs =>
    match skipGaps cs with
    | '"' :: rest =>
      match readString [] rest with
      | none => none
      | some (name, rest) =>
        match skipGaps rest with
        | ':' :: rest =>
          match readValue fuel depth rest with
          | none => none
          | some (value, rest) =>
            let seen := setMember name value seen
            match skipGaps rest with
            | ',' :: rest => readMembers fuel depth seen rest
            | '\x7d' :: rest => some (.obj seen, rest)
            | _ => none
        | _ => none
    | _ => none
end

/-- **Reading a text.**  Every step but the first of a container takes a character, so twice
the length is fuel enough. -/
def read? (text : String) : Option Json :=
  let cs := text.toList
  match readValue (2 * cs.length + 2) depthLimit cs with
  | some (value, rest) => if (skipGaps rest).isEmpty then some value else none
  | none => none

end Curation.Json
