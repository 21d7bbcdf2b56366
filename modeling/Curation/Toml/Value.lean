/-
# TOML values

The right-hand sides of a TOML document: strings of four kinds, numbers, truth values, dates,
lists and inline tables.  Each reader takes the front of a list of characters and gives what
is left.
-/
import Curation.Toml.Table
import Curation.Json.Reader
import Curation.Time.Calendar

namespace Curation.Toml

/-- Reads the front of a list of characters. -/
abbrev Reader (α : Type) := List Char → Option (α × List Char)

/-! ## 1. Blanks, comments and line ends -/

/-- The blanks inside a line. -/
def isSpace (c : Char) : Bool := c == ' ' || c == '\t'

/-- Past the blanks of a line. -/
def skipSpaces (cs : List Char) : List Char := cs.dropWhile isSpace

/-- A character that may stand in a comment or a literal string: no control character but the
tab. -/
def isPlain (c : Char) : Bool := c == '\t' || (' ' ≤ c && c.toNat != 0x7f)

/-- One line end. -/
def readLineEnd : List Char → Option (List Char)
  | '\n' :: rest => some rest
  | '\r' :: '\n' :: rest => some rest
  | _ => none

/-- Past an optional comment. -/
def skipComment : List Char → List Char
  | '#' :: rest => rest.dropWhile isPlain
  | cs => cs

/-- Past blanks, comments and line ends. -/
def skipLines : Nat → List Char → List Char
  | 0, cs => cs
  | fuel + 1, cs =>
    let cs := skipComment (skipSpaces cs)
    match readLineEnd cs with
    | some rest => skipLines fuel rest
    | none => cs

/-! ## 2. Strings -/

/-- The value of some hexadecimal digits, all of them to be there, as a character. -/
def readCode (width : Nat) (cs : List Char) : Option (Char × List Char) := do
  let digits := cs.take width
  if digits.length < width then none
  let n ← digits.foldlM (fun n c => (Json.hexDigit? c).map (n * 16 + ·)) 0
  if n < 0xd800 ∨ (0xdfff < n ∧ n < 0x110000) then some (Char.ofNat n, cs.drop width) else none

/-- The character that an escape stands for, the backslash having been read. -/
def readEscape : Reader Char
  | 'b' :: rest => some ('\x08', rest)
  | 't' :: rest => some ('\t', rest)
  | 'n' :: rest => some ('\n', rest)
  | 'f' :: rest => some ('\x0c', rest)
  | 'r' :: rest => some ('\r', rest)
  | '"' :: rest => some ('"', rest)
  | '\\' :: rest => some ('\\', rest)
  | 'u' :: rest => readCode 4 rest
  | 'U' :: rest => readCode 8 rest
  | _ => none

/-- A string on one line between double quotes, the first having been read. -/
def readBasic : Nat → List Char → Reader String
  | 0, _, _ => none
  | _ + 1, run, '"' :: rest => some (String.ofList run.reverse, rest)
  | fuel + 1, run, '\\' :: rest =>
    match readEscape rest with
    | some (c, rest) => readBasic fuel (c :: run) rest
    | none => none
  | fuel + 1, run, c :: rest => if isPlain c then readBasic fuel (c :: run) rest else none
  | _ + 1, _, [] => none

/-- A string on one line between single quotes, the first having been read. -/
def readLiteral (cs : List Char) : Option (String × List Char) :=
  let body := cs.takeWhile fun c => isPlain c && c != '\x27'
  match cs.drop body.length with
  | '\x27' :: rest => some (String.ofList body, rest)
  | _ => none

/-- The quotes at a place inside a string of several lines: how many belong to the text, and
whether they end it.  Three or more end it, and up to two of them are text. -/
def quoteRun (count : Nat) : Nat × Bool :=
  if count < 3 then (count, false) else (min (count - 3) 2, true)

/-- Past the line end and the blanks that a backslash at the end of a line takes with it. -/
def skipJoined (fuel : Nat) (cs : List Char) : Option (List Char) := do
  let rest ← readLineEnd (skipSpaces cs)
  some (go fuel rest)
where
  /-- Past blanks and line ends. -/
  go : Nat → List Char → List Char
  | 0, cs => cs
  | fuel + 1, cs =>
    let cs := skipSpaces cs
    match readLineEnd cs with
    | some rest => go fuel rest
    | none => cs

/-- A string of several lines, the quotes in front having been read.  `escapes` says whether a
backslash means something. -/
def readLong (quote : Char) (escapes : Bool) : Nat → List Char → Reader String
  | 0, _, _ => none
  | _ + 1, _, [] => none
  | fuel + 1, run, c :: rest =>
    if c = quote then
      let count := ((c :: rest).takeWhile (· == quote)).length
      let (text, ends) := quoteRun count
      let run := List.replicate text quote ++ run
      if ends then some (String.ofList run.reverse, (c :: rest).drop (text + 3))
      else readLong quote escapes fuel run ((c :: rest).drop text)
    else
      match readLineEnd (c :: rest) with
      | some rest => readLong quote escapes fuel ('\n' :: run) rest
      | none =>
        if escapes ∧ c = '\\' then
          match readEscape rest with
          | some (e, rest) => readLong quote escapes fuel (e :: run) rest
          | none =>
            match skipJoined fuel rest with
            | some rest => readLong quote escapes fuel run rest
            | none => none
        else if isPlain c then readLong quote escapes fuel (c :: run) rest
        else none

/-- Past a line end right after the quotes in front. -/
def skipFirstLineEnd (cs : List Char) : List Char := (readLineEnd cs).getD cs

/-- Any string. -/
def readString (cs : List Char) : Option (String × List Char) :=
  let fuel := cs.length
  match cs with
  | '"' :: '"' :: '"' :: rest => readLong '"' true fuel [] (skipFirstLineEnd rest)
  | '"' :: rest => readBasic fuel [] rest
  | '\x27' :: '\x27' :: '\x27' :: rest => readLong '\x27' false fuel [] (skipFirstLineEnd rest)
  | '\x27' :: rest => readLiteral rest
  | _ => none

/-! ## 3. Numbers -/

/-- Digits with single underscores between them. -/
def readRun (isDigit : Char → Bool) : List Char → List Char × List Char
  | [] => ([], [])
  | [c] => if isDigit c then ([c], []) else ([], [c])
  | c :: d :: rest =>
    if isDigit c then
      if d = '_' then
        match rest with
        | e :: _ =>
          if isDigit e then
            let (ds, rest) := readRun isDigit rest
            (c :: ds, rest)
          else ([c], d :: rest)
        | [] => ([c], [d])
      else
        let (ds, rest) := readRun isDigit (d :: rest)
        (c :: ds, rest)
    else ([], c :: d :: rest)

/-- The digits of a decimal whole number; a zero in front stands alone. -/
def readWhole (cs : List Char) : Option (List Char × List Char) :=
  match cs with
  | '0' :: rest => some (['0'], rest)
  | _ =>
    match readRun Char.isDigit cs with
    | ([], _) => none
    | (ds, rest) => some (ds, rest)

/-- A whole number that must fit a signed word of 64 bits. -/
def fitted (n : Int) : Option Json :=
  if -9223372036854775808 ≤ n ∧ n ≤ 9223372036854775807 then some (.int n) else none

/-- A whole number in another base, the sign of the base having been read. -/
def readBased (base : Nat) (isDigit : Char → Bool) (cs : List Char) : Option (Json × List Char) :=
  match readRun isDigit cs with
  | ([], _) => none
  | (ds, rest) => do
    let n ← ds.foldlM (fun n c => (Json.hexDigit? c).map (n * base + ·)) 0
    let j ← fitted n
    some (j, rest)

/-- A whole number. -/
def readInteger : Reader Json
  | '0' :: 'x' :: rest => readBased 16 (fun c => (Json.hexDigit? c).isSome) rest
  | '0' :: 'o' :: rest => readBased 8 (fun c => '0' ≤ c && c ≤ '7') rest
  | '0' :: 'b' :: rest => readBased 2 (fun c => c == '0' || c == '1') rest
  | cs => do
    let (negative, rest) := readSign cs
    let (ds, rest) ← readWhole rest
    let n : Int := readDigits 0 ds
    let j ← fitted (if negative then -n else n)
    some (j, rest)

/-- An exponent, with the digits it has. -/
def readExponent : Reader Int
  | c :: cs =>
    if c = 'e' ∨ c = 'E' then
      let (negative, rest) := readSign cs
      match readRun Char.isDigit rest with
      | ([], _) => none
      | (ds, rest) =>
        let n : Int := readDigits 0 ds
        some (if negative then -n else n, rest)
    else none
  | [] => none

/-- The digits after a point. -/
def readFractionDigits : Reader (List Char)
  | '.' :: cs =>
    match readRun Char.isDigit cs with
    | ([], _) => none
    | (ds, rest) => some (ds, rest)
  | _ => none

/-- A number with a fraction, an exponent or both, or one of the words for infinity and for an
undefined number.  One that is too large is refused unless it is negative. -/
def readReal (cs : List Char) : Option (Json × List Char) :=
  let (negative, body) := readSign cs
  match body with
  | 'i' :: 'n' :: 'f' :: rest => some (.real (Binary64.infinity negative), rest)
  | 'n' :: 'a' :: 'n' :: rest => some (.real .nan, rest)
  | _ => do
    let (whole, rest) ← readWhole body
    let (fraction, exponent, rest) ←
      match readFractionDigits rest with
      | some (ds, rest) =>
        match readExponent rest with
        | some (e, rest) => some (ds, e, rest)
        | none => some (ds, 0, rest)
      | none => (readExponent rest).map fun (e, rest) => ([], e, rest)
    let x := Binary64.ofDecimal negative (readDigits (readDigits 0 whole) fraction)
      (exponent - fraction.length)
    if x = Binary64.infinity false then none else some (.real x, rest)

/-! ## 4. Dates and times -/

/-- Exactly so many digits, as a number. -/
def readFixed (width : Nat) (cs : List Char) : Option (Nat × List Char) :=
  let ds := cs.take width
  if ds.length = width ∧ ds.all Char.isDigit then some (readDigits 0 ds, cs.drop width) else none

/-- One expected character. -/
def readChar (mark : Char) : List Char → Option (List Char)
  | c :: rest => if c = mark then some rest else none
  | [] => none

/-- A date that exists. -/
def readDate (cs : List Char) : Option (List Char) := do
  let (year, cs) ← readFixed 4 cs
  let cs ← readChar '-' cs
  let (month, cs) ← readFixed 2 cs
  let cs ← readChar '-' cs
  let (day, cs) ← readFixed 2 cs
  if 1 ≤ month ∧ month ≤ 12 ∧ 1 ≤ day ∧ day ≤ Date.monthLength year month then some cs else none

/-- A time of day, with an optional fraction. -/
def readTime (cs : List Char) : Option (List Char) := do
  let (hour, cs) ← readFixed 2 cs
  let cs ← readChar ':' cs
  let (minute, cs) ← readFixed 2 cs
  let cs ← readChar ':' cs
  let (second, cs) ← readFixed 2 cs
  if 23 < hour ∨ 59 < minute ∨ 60 < second then none
  match cs with
  | '.' :: rest =>
    let ds := rest.takeWhile Char.isDigit
    if ds.isEmpty then none else some (rest.drop ds.length)
  | _ => some cs

/-- The distance from universal time. -/
def readZone (cs : List Char) : Option (List Char) :=
  match cs with
  | 'Z' :: rest | 'z' :: rest => some rest
  | c :: rest =>
    if c = '+' ∨ c = '-' then do
      let (hour, rest) ← readFixed 2 rest
      let rest ← readChar ':' rest
      let (minute, rest) ← readFixed 2 rest
      if 23 < hour ∨ 59 < minute then none else some rest
    else none
  | [] => none

/-- The time of day that may follow a date, and the distance that may follow it. -/
def readDayTime (cs : List Char) : List Char :=
  match cs with
  | c :: rest =>
    if c = 'T' ∨ c = 't' ∨ c = ' ' then
      match readTime rest with
      | some rest => (readZone rest).getD rest
      | none => cs
    else cs
  | [] => []

/-- The name under which a date stands where a table is expected. -/
def dateKey : String := "date-time"

/-- A date, a time or both. -/
def readMoment (cs : List Char) : Option (Json × List Char) :=
  let rest? :=
    match readDate cs with
    | some rest => some (readDayTime rest)
    | none => readTime cs
  rest?.map fun rest =>
    (.obj [(dateKey, .str (String.ofList (cs.take (cs.length - rest.length))))], rest)

/-! ## 5. Keys -/

/-- A character of a key without quotes. -/
def isBare (c : Char) : Bool := Char.isAlphanum c || c == '-' || c == '_'

/-- One part of a key. -/
def readKeyPart (cs : List Char) : Option (String × List Char) :=
  match cs with
  | '"' :: rest => readBasic cs.length [] rest
  | '\x27' :: rest => readLiteral rest
  | _ =>
    let body := cs.takeWhile isBare
    if body.isEmpty then none else some (String.ofList body, cs.drop body.length)

/-- How deep values may be nested, and how many parts a key may have. -/
def depthLimit : Nat := 79

/-- The parts of a key: they stand between points, the blanks around them skipped. -/
def readKeyParts : Nat → Reader (List String)
  | 0, _ => none
  | fuel + 1, cs =>
    match readKeyPart (skipSpaces cs) with
    | none => none
    | some (part, rest) =>
      match skipSpaces rest with
      | '.' :: rest => (readKeyParts fuel rest).map fun (parts, rest) => (part :: parts, rest)
      | rest => some ([part], rest)

/-- A key. -/
def readKey (cs : List Char) : Option (List String × List Char) := do
  let (parts, rest) ← readKeyParts (cs.length + 1) cs
  if depthLimit < parts.length then none else some (parts, rest)

/-! ## 6. Values -/

/-- A value that holds no others. -/
def readScalar (cs : List Char) : Option (Json × List Char) :=
  match cs with
  | '"' :: _ | '\x27' :: _ => (readString cs).map fun (s, rest) => (.str s, rest)
  | 't' :: 'r' :: 'u' :: 'e' :: rest => some (.bool true, rest)
  | 'f' :: 'a' :: 'l' :: 's' :: 'e' :: rest => some (.bool false, rest)
  | _ => (readMoment cs).orElse fun _ => (readReal cs).orElse fun _ => readInteger cs

mutual
/-- A value. -/
def readValue : Nat → Nat → Reader Json
  | 0, _, _ => none
  | fuel + 1, depth, '[' :: rest =>
    match depth with
    | 0 => none
    | depth + 1 => readItems fuel depth [] (skipLines rest.length rest)
  | fuel + 1, depth, '\x7b' :: rest =>
    match depth with
    | 0 => none
    | depth + 1 =>
      match skipSpaces rest with
      | '\x7d' :: rest => some (.obj [], rest)
      | rest => readPairs fuel depth [] rest
  | _ + 1, _, cs => readScalar cs

/-- The items of a list and its end; a comma may stand before the end. -/
def readItems : Nat → Nat → List Json → Reader Json
  | 0, _, _, _ => none
  | _ + 1, _, items, ']' :: rest => some (.arr items.reverse, rest)
  | fuel + 1, depth, items, cs =>
    match readValue fuel depth cs with
    | none => none
    | some (item, rest) =>
      match skipLines rest.length rest with
      | ',' :: rest => readItems fuel depth (item :: items) (skipLines rest.length rest)
      | ']' :: rest => some (.arr (item :: items).reverse, rest)
      | _ => none

/-- The pairs of an inline table and its end, all on one line. -/
def readPairs : Nat → Nat → List (String × Node) → Reader Json
  | 0, _, _, _ => none
  | fuel + 1, depth, members, cs =>
    match readKey cs with
    | none => none
    | some (key, rest) =>
      match rest with
      | '=' :: rest =>
        match readValue fuel depth (skipSpaces rest) with
        | none => none
        | some (value, rest) =>
          match insertPair key value members with
          | none => none
          | some members =>
            match skipSpaces rest with
            | ',' :: rest => readPairs fuel depth members rest
            | '\x7d' :: rest => some (.obj (membersJson members), rest)
            | _ => none
      | _ => none
end

end Curation.Toml
