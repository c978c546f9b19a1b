import TemplateFacts.Binary64.Read
import TemplateFacts.Json.Basic
import TemplateFacts.Toml.Lexeme

/-! Numbers of a TOML document. -/

namespace TemplateFacts.Toml

/-- A number of a document. -/
inductive Number where
  | int (n : Int)
  | float (x : Binary64)
deriving DecidableEq, Repr

/-- The value of a digit, in any base up to sixteen. -/
def digitValue (c : Char) : Nat :=
  -- Other characters have a value beyond every base.
  if Text.isDigit c then c.toNat - 48
  else if 'a' ≤ c && c ≤ 'f' then c.toNat - 87
  else if 'A' ≤ c && c ≤ 'F' then c.toNat - 55
  else 99

/-- What is known of the digits read so far. -/
structure DigitsSoFar where
  none : Bool
  zeroFirst : Bool
  underscoreLast : Bool

/-- Reads digits of a base with single underscores between them. -/
def digits? (base : Nat) (zerosFirst : Bool) (seen : DigitsSoFar) : List Char → Part (List Char)
  -- Only some numbers may begin with a zero that is not all of them.
  | [] => if seen.none || seen.underscoreLast then Option.none else some ([], [])
  | c :: cs =>
    let stop : Part (List Char) :=
      if seen.none || seen.underscoreLast then Option.none else some ([], c :: cs)
    let push (part : Part (List Char)) : Part (List Char) :=
      part.map fun (digits, rest) => (c :: digits, rest)
    if c == '0' && seen.none then
      push (digits? base zerosFirst ⟨false, true, seen.underscoreLast⟩ cs)
    else if digitValue c < base then
      if !seen.none && seen.zeroFirst && !zerosFirst then Option.none
      else push (digits? base zerosFirst ⟨false, seen.zeroFirst, false⟩ cs)
    else if c == '_' then
      if seen.none then Option.none
      else if seen.underscoreLast then stop
      else digits? base zerosFirst { seen with underscoreLast := true } cs
    else stop

/-- Reads digits from the beginning. -/
def digitsFrom? (base : Nat) (zerosFirst : Bool) (cs : List Char) : Part (List Char) :=
  digits? base zerosFirst ⟨true, false, false⟩ cs

/-- Reads digits of base ten behind a sign, if there is one. -/
def signedDigits? (zerosFirst : Bool) (cs : List Char) : Part (Bool × List Char) :=
  let (negative, cs) := Binary64.readSign cs
  (digitsFrom? 10 zerosFirst cs).map fun (digits, rest) => ((negative, digits), rest)

/-- The number that digits of a base write. -/
def valueOf (base : Nat) (digits : List Char) : Nat :=
  digits.foldl (fun n c => n * base + digitValue c) 0

/-- The integer, if it fits a machine word. -/
def fitting? (n : Int) : Option Number :=
  if Json.leastInt ≤ n && n ≤ Json.greatestSigned then some (.int n) else none

/-- Reads an integer without a sign that is all of a word. -/
def based? (base : Nat) (word : List Char) : Option Number :=
  match digitsFrom? base true word with
  | some (digits, []) => fitting? (valueOf base digits)
  | _ => none

/-- Reads an integer of base ten that is all of a word. -/
def integer? (word : List Char) : Option Number :=
  match signedDigits? false word with
  | some ((negative, digits), []) =>
    let n : Int := valueOf 10 digits
    fitting? (if negative then -n else n)
  | _ => none

/-- Reads the exponent behind its letter, and gives what follows the number. -/
def exponent? (suffix rest : List Char) : Part Int :=
  -- A plus sign ends a word, and so the exponent may be in the next one.
  let finish (negative : Bool) (rest : List Char) : Part (List Char) → Part Int
    | some (digits, []) =>
      let n : Int := valueOf 10 digits
      some (if negative then -n else n, rest)
    | _ => none
  match suffix with
  | [] => none
  | [_] =>
    let rest := match rest with
      | '+' :: rest => rest
      | rest => rest
    match word? rest with
    | some (word, rest) => finish false rest (digitsFrom? 10 true word)
    | none => none
  | _ :: '-' :: cs => finish true rest (digitsFrom? 10 true cs)
  | _ :: cs => finish false rest (digitsFrom? 10 true cs)

/-- Reads a float, given the word before its point and the word behind it, if there is a point. -/
def float? (word : List Char) (afterPoint : Option (List Char)) (rest : List Char) :
    Part Number :=
  -- A number out of range is refused.
  match signedDigits? false word with
  | none => none
  | some ((negative, whole), suffix) =>
    let parts := match afterPoint with
      | none => some ([], suffix)
      | some after => if suffix.isEmpty then digitsFrom? 10 true after else none
    match parts with
    | none => none
    | some (fraction, suffix) =>
      let power : Part Int := match suffix with
        | [] => some (0, rest)
        | c :: _ => if c == 'e' || c == 'E' then exponent? suffix rest else none
      match power with
      | none => none
      | some (power, rest) =>
        let x := Binary64.ofDigits negative (whole ++ fraction) (power - fraction.length)
        if x.isFinite then some (.float x, rest) else none

/-- Reads a number whose first word is given. -/
def number? (word rest : List Char) : Part Number :=
  -- Bases are told by two letters, and names stand for what has no digits.
  let whole (n : Option Number) : Part Number := n.map fun n => (n, rest)
  match word with
  | '0' :: 'x' :: digits => whole (based? 16 digits)
  | '0' :: 'o' :: digits => whole (based? 8 digits)
  | '0' :: 'b' :: digits => whole (based? 2 digits)
  | _ =>
    if word.contains 'e' || word.contains 'E' then float? word none rest
    else match rest with
      | '.' :: rest =>
        match word? rest with
        | some (after, rest) => float? word (some after) rest
        | none => none
      | _ =>
        if word == ['i', 'n', 'f'] then whole (some (.float (.infinite false)))
        else if word == ['-', 'i', 'n', 'f'] then whole (some (.float (.infinite true)))
        else if word == ['n', 'a', 'n'] || word == ['-', 'n', 'a', 'n'] then
          whole (some (.float .nan))
        else whole (integer? word)

end TemplateFacts.Toml
