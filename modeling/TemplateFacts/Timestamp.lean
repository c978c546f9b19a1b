import TemplateFacts.Text.Digits

/-!
The Gregorian calendar, and points in time as text.

Two grammars of date-times are told apart: the one for stamps given by hand, which admits a space
before the time and any leap second, and the one of the contract, which admits a leap second only
at the end of a day in universal time. Stamps made from file times belong to both.
-/

namespace TemplateFacts.Calendar

/-- A year of 366 days. -/
def isLeap (year : Int) : Bool :=
  -- Of the centuries only every fourth is one.
  year % 4 == 0 && (year % 100 != 0 || year % 400 == 0)

/-- The number of days of a month, none for a month that does not exist. -/
def daysInMonth (year : Int) (month : Nat) : Nat :=
  -- February depends on the year.
  match month with
  | 2 => if isLeap year then 29 else 28
  | 4 | 6 | 9 | 11 => 30
  | 1 | 3 | 5 | 7 | 8 | 10 | 12 => 31
  | _ => 0

/-- A day exists. -/
def isDay (year : Int) (month day : Nat) : Bool :=
  -- Days are counted from one.
  1 ≤ day && day ≤ daysInMonth year month

/-- A day of the calendar. -/
structure Date where
  year : Int
  month : Nat
  day : Nat
deriving DecidableEq, Repr

/-- The date that lies the given number of days after the first of January 1970. -/
def dateOfDays (days : Int) : Date :=
  -- Years are counted from March, so that the leap day comes last.
  let shifted := days + 719468
  let era := Int.fdiv shifted 146097
  let dayOfEra := (shifted - era * 146097).toNat
  let yearOfEra :=
    (dayOfEra - dayOfEra / 1460 + dayOfEra / 36524 - dayOfEra / 146096) / 365
  let dayOfYear := dayOfEra - (365 * yearOfEra + yearOfEra / 4 - yearOfEra / 100)
  let marchMonth := (5 * dayOfYear + 2) / 153
  let month := if marchMonth < 10 then marchMonth + 3 else marchMonth - 9
  { year := era * 400 + yearOfEra + (if month ≤ 2 then 1 else 0)
    month
    day := dayOfYear - (153 * marchMonth + 2) / 5 + 1 }

end TemplateFacts.Calendar

namespace TemplateFacts.Timestamp

open Text (isDigit)

/-- The value of two digits. -/
def twoDigits? (a b : Char) : Option Nat :=
  -- Both must be digits.
  if isDigit a && isDigit b then some ((a.toNat - 48) * 10 + (b.toNat - 48)) else none

/-- The clock part of a date-time, up to the second. -/
structure Clock where
  hour : Nat
  minute : Nat
  second : Nat
deriving DecidableEq, Repr

/-- Reads a day of the calendar and gives what follows it. -/
def readDate? : List Char → Option (Calendar.Date × List Char)
  -- Four, two and two digits are separated by dashes.
  | y1 :: y2 :: y3 :: y4 :: '-' :: m1 :: m2 :: '-' :: d1 :: d2 :: rest => do
    let century ← twoDigits? y1 y2
    let year ← twoDigits? y3 y4
    let month ← twoDigits? m1 m2
    let day ← twoDigits? d1 d2
    let year : Int := century * 100 + year
    if Calendar.isDay year month day then some (⟨year, month, day⟩, rest) else none
  | _ => none

/-- Reads a clock time, the second going up to sixty, and gives what follows it. -/
def readClock? : List Char → Option (Clock × List Char)
  -- Pairs of digits are separated by colons.
  | h1 :: h2 :: ':' :: m1 :: m2 :: ':' :: s1 :: s2 :: rest => do
    let hour ← twoDigits? h1 h2
    let minute ← twoDigits? m1 m2
    let second ← twoDigits? s1 s2
    if hour < 24 && minute < 60 && second ≤ 60 then some (⟨hour, minute, second⟩, rest) else none
  | _ => none

/-- Passes a fraction of a second, if there is one. -/
def skipFraction? : List Char → Option (List Char)
  -- A point must be followed by a digit.
  | '.' :: c :: rest => if isDigit c then some (rest.dropWhile isDigit) else none
  | ['.'] => none
  | rest => some rest

/-- Reads an offset from universal time in minutes, which must end the text. -/
def readOffset? (isMinus : Char → Bool) : List Char → Option Int
  -- Universal time has a letter of its own.
  | ['Z'] => some 0
  | ['z'] => some 0
  | [sign, h1, h2, ':', m1, m2] => do
    let hours ← twoDigits? h1 h2
    let minutes ← twoDigits? m1 m2
    if hours < 24 && minutes < 60 then
      if sign == '+' then some (hours * 60 + minutes)
      else if isMinus sign then some (-(hours * 60 + minutes : Int))
      else none
    else none
  | _ => none

/-- A date-time with its parts. -/
structure Reading where
  date : Calendar.Date
  clock : Clock
  offset : Int
deriving DecidableEq, Repr

/-- Reads a date-time, given which characters separate date and time, and which are minus signs. -/
def read? (isSeparator isMinus : Char → Bool) (cs : List Char) : Option Reading :=
  -- The parts stand in a fixed order, and only the fraction may be absent.
  match readDate? cs with
  | some (date, separator :: rest) =>
    if isSeparator separator then do
      let (clock, rest) ← readClock? rest
      let rest ← skipFraction? rest
      let offset ← readOffset? isMinus rest
      return ⟨date, clock, offset⟩
    else none
  | _ => none

/-- The letter between date and time, in either case. -/
def isTimeLetter (c : Char) : Bool := c == 'T' || c == 't'

/-- A text that is accepted as a stamp given by hand. -/
def isStamp (s : String) : Bool :=
  -- A space may stand for the letter, and the true minus sign for the hyphen.
  (read? (fun c => isTimeLetter c || c == ' ') (fun c => c == '-' || c == '\u2212')
    s.toList).isSome

/-- The second is not a leap second, or one at the end of a day in universal time. -/
def Reading.leapIsRight (r : Reading) : Bool :=
  -- The offset is taken from the clock, modulo a day.
  r.clock.second < 60 ||
    (r.clock.hour * 60 + r.clock.minute - r.offset : Int) % 1440 == 1439

/-- A text that is a date-time of the contract. -/
def isDateTime (s : String) : Bool :=
  -- Date and time are joined by the letter, and the minus sign is the hyphen.
  match read? isTimeLetter (· == '-') s.toList with
  | some r => r.leapIsRight
  | none => false

/-- A text that is a day of the calendar. -/
def isDate (s : String) : Bool :=
  -- Nothing follows the day.
  match readDate? s.toList with
  | some (_, rest) => rest.isEmpty
  | none => false

/-- A text that is a time of a day with its offset from universal time. -/
def isTime (s : String) : Bool :=
  -- The day does not matter to the leap second.
  let reading? : Option Reading := do
    let (clock, rest) ← readClock? s.toList
    let rest ← skipFraction? rest
    let offset ← readOffset? (· == '-') rest
    return ⟨⟨0, 1, 1⟩, clock, offset⟩
  reading?.any Reading.leapIsRight

/-- A point in time: seconds since the beginning of 1970, and nanoseconds counted upward. -/
structure Instant where
  seconds : Int
  nanoseconds : Nat
deriving DecidableEq, Repr, Inhabited

/-- The last digits of a number, with zeros in front. -/
def padded (width n : Nat) : String :=
  -- Longer numbers are kept whole.
  let digits := Nat.toDigits 10 n
  String.ofList (List.replicate (width - digits.length) '0' ++ digits)

/-- A year, with a sign when it does not fit four digits. -/
def yearText (year : Int) : String :=
  -- Years before zero have a minus sign.
  if 0 ≤ year && year ≤ 9999 then padded 4 year.toNat
  else (if year < 0 then "-" else "+") ++ padded 4 year.natAbs

/-- The point in time in universal time, cut to milliseconds. -/
def Instant.text (instant : Instant) : String :=
  -- The day is found first, and the clock is what remains.
  let days := Int.fdiv instant.seconds 86400
  let ofDay := (instant.seconds - days * 86400).toNat
  let date := Calendar.dateOfDays days
  yearText date.year ++ "-" ++ padded 2 date.month ++ "-" ++ padded 2 date.day
    ++ "T" ++ padded 2 (ofDay / 3600) ++ ":" ++ padded 2 (ofDay / 60 % 60)
    ++ ":" ++ padded 2 (ofDay % 60)
    ++ "." ++ padded 3 (instant.nanoseconds / 1000000) ++ "Z"

end TemplateFacts.Timestamp
