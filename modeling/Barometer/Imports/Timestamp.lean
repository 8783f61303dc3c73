import Barometer.Text.Blank

/-!
# Timestamps

Instants in universal time by day, second of the day and fraction.  A leap second is the second
before it with a fraction of at least one second, so that instants are ordered by their parts.
-/

namespace Barometer

/-- An instant: days since 1970-01-01, seconds since midnight, nanoseconds. -/
structure Timestamp where
  day : Int
  second : Nat
  nano : Nat
deriving DecidableEq, Repr

namespace Timestamp

/-- Midnight of 1970-01-01. -/
def epoch : Timestamp := { day := 0, second := 0, nano := 0 }

/-- Whether an instant is earlier than another. -/
def before (a b : Timestamp) : Bool :=
  decide (a.day < b.day) || decide (a.day = b.day) &&
    (decide (a.second < b.second) || decide (a.second = b.second) && decide (a.nano < b.nano))

def isLeap (year : Int) : Bool :=
  decide (year % 4 = 0) && (!decide (year % 100 = 0) || decide (year % 400 = 0))

def monthLength (year : Int) (month : Nat) : Nat :=
  if month = 2 then (if isLeap year then 29 else 28)
  else if month = 4 ∨ month = 6 ∨ month = 9 ∨ month = 11 then 30 else 31

/-- Days from 0001-01-01 to 1970-01-01. -/
def epochDay : Int := 719162

/-- Days from 1970-01-01 to the first day of a year. -/
def daysToYear (year : Int) : Int :=
  let past := year - 1
  365 * past + past.fdiv 4 - past.fdiv 100 + past.fdiv 400 - epochDay

/-- Days from the first day of a year to the first day of a month. -/
def daysToMonth (year : Int) (month : Nat) : Nat :=
  (List.range (month - 1)).foldl (fun days m ↦ days + monthLength year (m + 1)) 0

/-- The day of a date; none if there is no such date. -/
def dayOf? (year : Int) (month day : Nat) : Option Int :=
  if 1 ≤ month ∧ month ≤ 12 ∧ 1 ≤ day ∧ day ≤ monthLength year month ∧
      -262143 ≤ year ∧ year ≤ 262142 then
    some (daysToYear year + daysToMonth year month + (day - 1 : Nat))
  else none

/-- The year of a day, and how many days of the year have passed.  Years are counted in cycles of
400, 100, 4 and 1; the last century of a long cycle and the last year of a short one are a day
longer. -/
def yearOf (day : Int) : Int × Nat :=
  let cycle := (day + epochDay).fdiv 146097
  let inCycle := ((day + epochDay).fmod 146097).toNat
  let century := min (inCycle / 36524) 3
  let inCentury := inCycle - century * 36524
  let inFour := inCentury % 1461
  let year := min (inFour / 365) 3
  (400 * cycle + (100 * century + 4 * (inCentury / 1461) + year + 1 : Nat), inFour - year * 365)

/-- The month and the day of the month after a number of days of a year, from a month on. -/
def monthOf (year : Int) (month : Nat) (days : Nat) : Nat → Nat × Nat
  | 0 => (month, days + 1)
  | left + 1 =>
    if days < monthLength year month then (month, days + 1)
    else monthOf year (month + 1) (days - monthLength year month) left

/-- Year, month and day of the month. -/
def date (t : Timestamp) : Int × Nat × Nat :=
  let (year, days) := yearOf t.day
  (year, monthOf year 1 days 11)

def padded (width n : Nat) : String :=
  let digits := Nat.toDigits 10 n
  String.ofList (List.replicate (width - digits.length) '0' ++ digits)

/-- Years beyond four digits have a sign. -/
def yearText (year : Int) : String :=
  if 0 ≤ year ∧ year ≤ 9999 then padded 4 year.natAbs
  else (if year < 0 then "-" else "+") ++ padded 4 year.natAbs

def dateText (t : Timestamp) : String :=
  let (year, month, day) := t.date
  yearText year ++ "-" ++ padded 2 month ++ "-" ++ padded 2 day

/-- Hour, minute and second; a leap second is the sixtieth. -/
def clockText (t : Timestamp) : String :=
  let second := t.second % 60 + t.nano / 1000000000
  padded 2 (t.second / 3600) ++ ":" ++ padded 2 (t.second / 60 % 60) ++ ":" ++ padded 2 second

/-- Whole seconds, with a space between date and clock. -/
def storedText (t : Timestamp) : String := t.dateText ++ " " ++ t.clockText

/-- All nine digits of the fraction. -/
def fullText (t : Timestamp) : String :=
  t.dateText ++ "T" ++ t.clockText ++ "." ++ padded 9 (t.nano % 1000000000)

/-- As many digits of the fraction as are needed, by threes. -/
def fractionText (nano : Nat) : String :=
  if nano = 0 then ""
  else if nano % 1000000 = 0 then "." ++ padded 3 (nano / 1000000)
  else if nano % 1000 = 0 then "." ++ padded 6 (nano / 1000)
  else "." ++ padded 9 nano

/-- The form with a zone, which is always the universal one. -/
def universalText (t : Timestamp) : String :=
  t.dateText ++ "T" ++ t.clockText ++ fractionText (t.nano % 1000000000) ++ "Z"

/-- The parts of a written instant. -/
structure Fields where
  year : Int
  month : Nat
  day : Nat
  hour : Nat
  minute : Nat
  second : Nat
  nano : Nat

/-- The instant of the parts, if there is such a date and such a time of the day. -/
def ofFields? (f : Fields) : Option Timestamp := do
  let day ← dayOf? f.year f.month f.day
  if 23 < f.hour ∨ 59 < f.minute ∨ 60 < f.second then none
  else
    let leap := f.second = 60
    return {
      day
      second := f.hour * 3600 + f.minute * 60 + (if leap then 59 else f.second)
      nano := f.nano + (if leap then 1000000000 else 0) }

/-- The instant a number of seconds earlier. -/
def minusSeconds (t : Timestamp) (seconds : Int) : Timestamp :=
  let total := (t.second : Int) - seconds
  { t with day := t.day + total.fdiv 86400, second := (total.fmod 86400).toNat }

/-- A number of `least` to `most` digits. -/
def readNumber? (least most : Nat) (s : List Char) : Option (Nat × List Char) :=
  let digits := (s.take most).takeWhile Char.isDigit
  if digits.length < least then none
  else some (digits.foldl (fun n c ↦ 10 * n + (c.toNat - 48)) 0, s.drop digits.length)

def readChar? (c : Char) (s : List Char) : Option (List Char) :=
  match s with
  | d :: rest => if c = d then some rest else none
  | [] => none

/-- Nanoseconds after a point, cut after nine digits; none are needed without a point. -/
def readFraction? (s : List Char) : Option (Nat × List Char) :=
  match s with
  | '.' :: rest => do
    let (n, after) ← readNumber? 1 9 rest
    let width := rest.length - after.length
    return (n * Nat.pow 10 (9 - width), after.dropWhile Char.isDigit)
  | _ => some (0, s)

/-- Seconds east of Greenwich. -/
def readOffset? (s : List Char) : Option (Int × List Char) :=
  match s with
  | 'Z' :: rest => some (0, rest)
  | 'z' :: rest => some (0, rest)
  | sign :: rest => do
    if sign ≠ '+' ∧ sign ≠ '-' ∧ sign ≠ '−' then none
    else
      let (hours, s) ← readNumber? 2 2 rest
      let s ← readChar? ':' s
      let (minutes, s) ← readNumber? 2 2 s
      if 23 < hours ∨ 59 < minutes then none
      else
        let seconds : Int := (hours * 60 + minutes) * 60
        return (if sign = '+' then seconds else -seconds, s)
  | [] => none

/-- The strict form with a zone: two digits for each part and four for the year. -/
def readZoned? (s : List Char) : Option Timestamp := do
  let (year, s) ← readNumber? 4 4 s
  let s ← readChar? '-' s
  let (month, s) ← readNumber? 2 2 s
  let s ← readChar? '-' s
  let (day, s) ← readNumber? 2 2 s
  let s ← (readChar? 'T' s).or ((readChar? 't' s).or (readChar? ' ' s))
  let (hour, s) ← readNumber? 2 2 s
  let s ← readChar? ':' s
  let (minute, s) ← readNumber? 2 2 s
  let s ← readChar? ':' s
  let (second, s) ← readNumber? 2 2 s
  let (nano, s) ← readFraction? s
  let (offset, rest) ← readOffset? s
  if rest.isEmpty then
    return (← ofFields? { year, month, day, hour, minute, second, nano }).minusSeconds offset
  else none

/-- A number that may have blanks before it. -/
def readLoose? (most : Nat) (s : List Char) : Option (Nat × List Char) :=
  readNumber? 1 most (s.dropWhile Text.isBlank)

/-- A year of up to four digits, or of any number of digits after a sign. -/
def readYear? (s : List Char) : Option (Int × List Char) :=
  match s.dropWhile Text.isBlank with
  | '-' :: rest => (readNumber? 1 rest.length rest).map fun (n, after) ↦ (-(n : Int), after)
  | '+' :: rest => (readNumber? 1 rest.length rest).map fun (n, after) ↦ ((n : Int), after)
  | digits => (readNumber? 1 4 digits).map fun (n, after) ↦ ((n : Int), after)

/-- The loose form without a zone; `separator` reads what stands between date and clock. -/
def readLocal? (separator : List Char → Option (List Char)) (s : List Char) :
    Option Timestamp := do
  let (year, s) ← readYear? s
  let s ← readChar? '-' s
  let (month, s) ← readLoose? 2 s
  let s ← readChar? '-' s
  let (day, s) ← readLoose? 2 s
  let s ← separator s
  let (hour, s) ← readLoose? 2 s
  let s ← readChar? ':' s
  let (minute, s) ← readLoose? 2 s
  let s ← readChar? ':' s
  let (second, s) ← readLoose? 2 s
  let (nano, rest) ← readFraction? s
  if rest.isEmpty then ofFields? { year, month, day, hour, minute, second, nano } else none

/-- A character with blanks before it. -/
def readSpaced? (c : Char) (s : List Char) : Option (List Char) :=
  readChar? c (s.dropWhile Text.isBlank)

/-- Seconds east of Greenwich; any colons and blanks may stand between hours and minutes. -/
def readLooseOffset? (s : List Char) : Option (Int × List Char) :=
  match s with
  | sign :: rest =>
    if sign = 'Z' ∨ sign = 'z' then some (0, rest)
    else if (s.take 3).map Char.toUpper = ['U', 'T', 'C'] then some (0, s.drop 3)
    else if sign ≠ '+' ∧ sign ≠ '-' ∧ sign ≠ '−' then none
    else do
      let (hours, s) ← readNumber? 2 2 rest
      let (minutes, s) ← readNumber? 2 2 (s.dropWhile fun c ↦ c == ':' || Text.isBlank c)
      if 23 < hours ∨ 59 < minutes then none
      else
        let seconds : Int := (hours * 60 + minutes) * 60
        return (if sign = '+' then seconds else -seconds, s)
  | [] => none

/-- The loose form with a zone: blanks may stand around each part. -/
def readSpacedZoned? (s : List Char) : Option Timestamp := do
  let (year, s) ← readYear? s
  let s ← readSpaced? '-' s
  let (month, s) ← readLoose? 2 s
  let s ← readSpaced? '-' s
  let (day, s) ← readLoose? 2 s
  let s ← (readChar? 'T' s).or ((readChar? 't' s).or (readChar? ' ' s))
  let (hour, s) ← readLoose? 2 s
  let s ← readSpaced? ':' s
  let (minute, s) ← readLoose? 2 s
  let s ← readSpaced? ':' s
  let (second, s) ← readLoose? 2 s
  let (nano, s) ← readFraction? s
  let (offset, rest) ← readLooseOffset? (s.dropWhile Text.isBlank)
  if rest.all Text.isBlank then
    return (← ofFields? { year, month, day, hour, minute, second, nano }).minusSeconds offset
  else none

/-- Reads an instant that must have a zone. -/
def ofZonedText? (text : String) : Option Timestamp := readSpacedZoned? text.toList

/-- Reads a written instant, with a zone or without. -/
def ofText? (text : String) : Option Timestamp :=
  let s := Text.trimBlanks text.toList
  (readZoned? s).or ((readLocal? (fun s ↦ some (s.dropWhile Text.isBlank)) s).or
    (readLocal? (readChar? 'T') s))

end Timestamp

end Barometer
