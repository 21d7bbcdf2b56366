/-
# The calendar

Instants as dates and times of day in universal time, in the notation of RFC 3339.  The
calendar is the Gregorian one carried on in both directions.
-/
import Curation.Time.Instant
import Curation.Text.Blank
import Curation.Text.Lines
import Curation.Number.Decimal

namespace Curation

/-! ## 1. Days and dates -/

/-- A date. -/
structure Date where
  year : Int
  month : Nat
  day : Nat
  deriving DecidableEq

namespace Date

/-- **The date of a day number**, day zero being the first of 1970.  Years are counted from
March so that the odd day of a leap year comes last, in cycles of 400 years. -/
def ofDays (days : Int) : Date :=
  let z := days + 719468
  let era := z.fdiv 146097
  let dayOfEra := (z.fmod 146097).toNat
  let yearOfEra :=
    (dayOfEra - dayOfEra / 1460 + dayOfEra / 36524 - dayOfEra / 146096) / 365
  let dayOfYear := dayOfEra - (365 * yearOfEra + yearOfEra / 4 - yearOfEra / 100)
  let shifted := (5 * dayOfYear + 2) / 153
  let day := dayOfYear - (153 * shifted + 2) / 5 + 1
  let month := if shifted < 10 then shifted + 3 else shifted - 9
  let year : Int := yearOfEra + era * 400
  ⟨if month ≤ 2 then year + 1 else year, month, day⟩

/-- The day number of a date. -/
def days (d : Date) : Int :=
  let year := if d.month ≤ 2 then d.year - 1 else d.year
  let era := year.fdiv 400
  let yearOfEra := (year.fmod 400).toNat
  let shifted := if 2 < d.month then d.month - 3 else d.month + 9
  let dayOfYear := (153 * shifted + 2) / 5 + d.day - 1
  let dayOfEra := yearOfEra * 365 + yearOfEra / 4 - yearOfEra / 100 + dayOfYear
  era * 146097 + dayOfEra - 719468

/-- The number of days in a month. -/
def monthLength (year : Int) (month : Nat) : Nat :=
  if month = 2 then
    (if year.fmod 4 = 0 ∧ (year.fmod 100 ≠ 0 ∨ year.fmod 400 = 0) then 29 else 28)
  else if month = 4 ∨ month = 6 ∨ month = 9 ∨ month = 11 then 30
  else 31

/-- A year in four digits, with a sign outside of them. -/
def yearText (year : Int) : String :=
  if 0 ≤ year ∧ year ≤ 9999 then padZeros 4 year.toNat
  else (if year < 0 then "-" else "+") ++ padZeros 4 year.natAbs

end Date

/-! ## 2. Writing instants -/

namespace Instant

/-- The date of an instant. -/
def date (t : Instant) : Date :=
  Date.ofDays (t.seconds.fdiv 86400)

/-- The time of day, with a separator between date and time. -/
def dayText (separator : String) (t : Instant) : String :=
  let d := t.date
  let s := (t.seconds.fmod 86400).toNat
  let leap := t.nanos / perSecond
  Date.yearText d.year ++ "-" ++ padZeros 2 d.month ++ "-" ++ padZeros 2 d.day ++ separator ++
    padZeros 2 (s / 3600) ++ ":" ++ padZeros 2 (s / 60 % 60) ++ ":" ++ padZeros 2 (s % 60 + leap)

/-- The fraction of the second in as few groups of three digits as it needs. -/
def fractionText (nanos : Nat) : String :=
  let n := nanos % perSecond
  if n = 0 then ""
  else if n % 1000000 = 0 then "." ++ padZeros 3 (n / 1000000)
  else if n % 1000 = 0 then "." ++ padZeros 6 (n / 1000)
  else "." ++ padZeros 9 n

/-- The full notation, in universal time. -/
def text (t : Instant) : String :=
  t.dayText "T" ++ fractionText t.nanos ++ "Z"

/-- To the second, as listings show it. -/
def shortText (t : Instant) : String :=
  t.dayText " "

end Instant

/-! ## 3. Reading instants -/

/-- Why a text is not an instant. -/
inductive TimeError where
  | tooShort
  | badCharacter
  | tooLong
  | outOfRange
  /-- Moved to universal time it leaves the calendar. -/
  | impossible
  deriving DecidableEq

/-- The wording of a time error. -/
def TimeError.message : TimeError → String
  | .tooShort => "premature end of input"
  | .badCharacter => "input contains invalid characters"
  | .tooLong => "trailing input"
  | .outOfRange => "input is out of range"
  | .impossible => "no possible date and time matching input"

namespace Instant

/-- A number of at most `width` digits. -/
def readNumber (width : Nat) (cs : List Char) : Except TimeError (Nat × List Char) :=
  let digits := (cs.take width).takeWhile Char.isDigit
  if cs.isEmpty then .error .tooShort
  else if digits.isEmpty then .error .badCharacter
  else .ok (readDigits 0 digits, cs.drop digits.length)

/-- A number of at most two digits in a range, blanks before it allowed; one outside of the
range is refused before anything after it is looked at. -/
def readField (low high : Nat) (cs : List Char) : Except TimeError (Nat × List Char) := do
  let (n, rest) ← readNumber 2 (cs.dropWhile isBlank)
  if n < low ∨ high < n then throw .outOfRange
  return (n, rest)

/-- One expected character, blanks before it allowed. -/
def readMark (mark : Char) (cs : List Char) : Except TimeError (List Char) :=
  match cs.dropWhile isBlank with
  | [] => .error .tooShort
  | c :: rest => if c = mark then .ok rest else .error .badCharacter

/-- A year of four digits, or of any number of digits right after a sign, blanks before it all
allowed; it must fit 32 bits. -/
def readYear (cs : List Char) : Except TimeError (Int × List Char) := do
  let (year, rest) ← match cs.dropWhile isBlank with
    | '-' :: rest => do
      let (n, rest) ← readNumber rest.length rest
      pure (-(n : Int), rest)
    | '+' :: rest => do
      let (n, rest) ← readNumber rest.length rest
      pure ((n : Int), rest)
    | rest => do
      let (n, rest) ← readNumber 4 rest
      pure ((n : Int), rest)
  if year < -2147483648 ∨ 2147483647 < year then throw .outOfRange
  return (year, rest)

/-- An optional fraction of a second, cut to nanoseconds. -/
def readFraction (cs : List Char) : Except TimeError (Nat × List Char) :=
  match cs with
  | '.' :: rest =>
    let digits := rest.takeWhile Char.isDigit
    if rest.isEmpty then .error .tooShort
    else if digits.isEmpty then .error .badCharacter
    else
      let kept := digits.take 9
      .ok (readDigits 0 kept * tenTo (9 - kept.length), rest.drop digits.length)
  | _ => .ok (0, cs)

/-- Exactly two digits. -/
def readTwo (cs : List Char) : Except TimeError (Nat × List Char) :=
  match cs with
  | a :: b :: rest =>
    if a.isDigit ∧ b.isDigit then .ok (readDigits 0 [a, b], rest) else .error .badCharacter
  | [a] => .error (if a.utf8Size = 1 then .tooShort else .badCharacter)
  | [] => .error .tooShort

/-- The distance from universal time in seconds: hours and minutes, colons and blanks between
them allowed, or a letter or word that stands for none. -/
def readOffset (cs : List Char) : Except TimeError (Int × List Char) :=
  match cs.dropWhile isBlank with
  | [] => .error .tooShort
  | c :: rest =>
    if c = 'Z' ∨ c = 'z' then .ok (0, rest)
    else if ['u', 't', 'c'].isPrefixOf ((c :: rest).map Char.toLower) then .ok (0, rest.drop 2)
    else if c = '+' ∨ c = '-' ∨ c = '\u2212' then do
      let (hours, rest) ← readTwo rest
      let (minutes, rest) ← readTwo (rest.dropWhile fun c => c = ':' || isBlank c)
      if 59 < minutes then throw .outOfRange
      let distance : Int := hours * 3600 + minutes * 60
      return (if c = '+' then distance else -distance, rest)
    else .error .badCharacter

/-- The first and the last year of the calendar. -/
def years : Int × Int := (-262143, 262142)

/-- **Reading an instant.**  A date, a `T` or a blank, a time of day with an optional
fraction, and the distance from universal time.  The sixtieth second is a leap second. -/
def read (text : String) : Except TimeError Instant := do
  let (year, cs) ← readYear text.toList
  let cs ← readMark '-' cs
  let (month, cs) ← readField 1 12 cs
  let cs ← readMark '-' cs
  let (day, cs) ← readField 1 31 cs
  let cs ← match cs with
    | [] => .error TimeError.tooShort
    | c :: rest =>
      if c = 'T' ∨ c = 't' ∨ c = ' ' then .ok rest else .error TimeError.badCharacter
  let (hour, cs) ← readField 0 23 cs
  let cs ← readMark ':' cs
  let (minute, cs) ← readField 0 59 cs
  let cs ← readMark ':' cs
  let (second, cs) ← readField 0 60 cs
  let (fraction, cs) ← readFraction cs
  let (offset, cs) ← readOffset cs
  if !(cs.dropWhile isBlank).isEmpty then throw .tooLong
  if Date.monthLength year month < day ∨ year < years.1 ∨ years.2 < year ∨
      86400 ≤ offset.natAbs then
    throw .outOfRange
  let (second, nanos) := if second = 60 then (59, fraction + perSecond) else (second, fraction)
  let days := (Date.mk year month day).days
  let seconds := days * 86400 + (hour * 3600 + minute * 60 + second : Nat) - offset
  let found := (Date.ofDays (seconds.fdiv 86400)).year
  if found < years.1 ∨ years.2 < found then throw .impossible
  return ⟨seconds, nanos⟩

end Instant
end Curation
