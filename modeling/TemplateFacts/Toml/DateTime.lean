import TemplateFacts.Timestamp
import TemplateFacts.Toml.Lexeme

/-! Dates and times of a TOML document, which are taken for texts. -/

namespace TemplateFacts.Toml

open Timestamp (twoDigits? padded)

/-- Passes a word, which must be there. -/
def skipWord? (cs : List Char) : Option (List Char) := (word? cs).map Prod.snd

/-- The characters behind the time of day, given those behind its hour, at the first colon. -/
def skipTime? (cs : List Char) : Option (List Char) := do
  -- A fraction and an offset may follow the seconds.
  let cs ← skipWord? cs
  let cs ← expect? ':' cs
  let cs ← skipWord? cs
  let cs ← match cs with
    | '.' :: cs => skipWord? cs
    | cs => some cs
  let cs ← match cs with
    | '+' :: cs => skipWord? cs
    | cs => some cs
  match cs with
  | ':' :: cs => skipWord? cs
  | cs => some cs

/-- The characters behind a date or a time, given those behind its first word. -/
def skipDateTime? (colonPassed : Bool) (cs : List Char) : Option (List Char) :=
  -- A single space may stand between the date and the time.
  let cs := match cs with
    | ' ' :: rest =>
      if (rest.head?.map isSpace).getD false then cs else (skipWord? rest).getD cs
    | cs => cs
  if colonPassed then skipTime? cs
  else match cs with
    | ':' :: rest => skipTime? rest
    | cs => some cs

/-- Reads a day, whatever the length of its month, as it is written. -/
def dateText? : List Char → Option (String × List Char)
  -- Months go to twelve and days to thirty-one.
  | y1 :: y2 :: y3 :: y4 :: '-' :: m1 :: m2 :: '-' :: d1 :: d2 :: rest => do
    let century ← twoDigits? y1 y2
    let year ← twoDigits? y3 y4
    let month ← twoDigits? m1 m2
    let day ← twoDigits? d1 d2
    if 1 ≤ month && month ≤ 12 && 1 ≤ day && day ≤ 31 then
      some (padded 2 century ++ padded 2 year ++ "-" ++ padded 2 month ++ "-" ++ padded 2 day, rest)
    else none
  | _ => none

/-- The text of a fraction of a second, cut to nanoseconds and without zeros at its end. -/
def fractionText (digits : List Char) : String :=
  -- A fraction of nothing is left out.
  let kept := ((digits.take 9).reverse.dropWhile (· == '0')).reverse
  if kept.isEmpty then "" else "." ++ String.ofList kept

/-- Reads a time of day as it is written. -/
def timeText? : List Char → Option (String × List Char)
  -- Hours go to twenty-four here.
  | h1 :: h2 :: ':' :: m1 :: m2 :: ':' :: s1 :: s2 :: rest => do
    let hour ← twoDigits? h1 h2
    let minute ← twoDigits? m1 m2
    let second ← twoDigits? s1 s2
    let clock := padded 2 hour ++ ":" ++ padded 2 minute ++ ":" ++ padded 2 second
    if hour ≤ 24 && minute ≤ 59 && second ≤ 59 then
      match rest with
      | '.' :: rest =>
        let digits := rest.takeWhile Text.isDigit
        if digits.isEmpty then none
        else some (clock ++ fractionText digits, rest.dropWhile Text.isDigit)
      | rest => some (clock, rest)
    else none
  | _ => none

/-- The text of an offset that ends a date-time. -/
def offsetText? : List Char → Option String
  -- No offset is needed.
  | [] => some ""
  | ['Z'] => some "Z"
  | ['z'] => some "Z"
  | [sign, h1, h2, ':', m1, m2] => do
    let hours ← twoDigits? h1 h2
    let minutes ← twoDigits? m1 m2
    if sign == '+' || (sign == '-' && hours == 0) then
      some ("+" ++ padded 2 hours ++ ":" ++ padded 2 minutes)
    else if sign == '-' then some ("-" ++ padded 2 hours ++ ":" ++ padded 2 minutes)
    else none
  | _ => none

/-- The text of a date, a time, or both. -/
def dateTimeText? (cs : List Char) : Option String :=
  -- Only a date with a time has an offset.
  match cs with
  | _ :: _ :: ':' :: _ =>
    match timeText? cs with
    | some (time, []) => some time
    | _ => none
  | _ =>
    match dateText? cs with
    | none => none
    | some (date, []) => some date
    | some (date, c :: rest) =>
      if c == 'T' || c == 't' || c == ' ' then do
        let (time, rest) ← timeText? rest
        let offset ← offsetText? rest
        return date ++ "T" ++ time ++ offset
      else none

/-- Reads a date, a time, or both, given the characters from its beginning. -/
def dateTime? (colonPassed : Bool) (cs behindWord : List Char) : Part String :=
  -- Its end is found first, and then all of it must be right.
  match skipDateTime? colonPassed behindWord with
  | none => none
  | some rest => (dateTimeText? (cs.take (cs.length - rest.length))).map fun text => (text, rest)

end TemplateFacts.Toml
