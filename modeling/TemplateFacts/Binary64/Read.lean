import TemplateFacts.Binary64.Basic
import TemplateFacts.Text.Case
import TemplateFacts.Text.Digits

/-! Double-precision numbers written in decimal, or by name. -/

namespace TemplateFacts.Binary64

/-- The number of decimal places beyond which every number is infinite or zero. -/
def greatestPlaces : Int := 400

/-- The number that digits and a power of ten write. -/
def ofDigits (negative : Bool) (digits : List Char) (power : Int) : Binary64 :=
  -- Powers far out of range need not be raised.
  let n := Text.digitsValue digits
  if n == 0 then zero negative
  else if (digits.length : Int) + power < -greatestPlaces then zero negative
  else if greatestPlaces < power then .infinite negative
  else ofDecimal negative n power

/-- Reads a sign, if there is one. -/
def readSign : List Char → Bool × List Char
  -- A plus sign changes nothing.
  | '-' :: cs => (true, cs)
  | '+' :: cs => (false, cs)
  | cs => (false, cs)

/-- Reads an exponent to the end, or nothing at all. -/
def readExponent? : List Char → Option Int
  -- The letter must be followed by digits.
  | [] => some 0
  | e :: cs =>
    if e == 'e' || e == 'E' then
      let (negative, cs) := readSign cs
      (Text.readNat? cs).map fun n => if negative then -(n : Int) else n
    else none

/-- Reads a number without a sign, which has a digit before or behind its point. -/
def readUnsigned? (negative : Bool) (cs : List Char) : Option Binary64 :=
  -- The digits behind the point lower the power of ten.
  let whole := cs.takeWhile Text.isDigit
  let (fraction, rest) := match cs.dropWhile Text.isDigit with
    | '.' :: rest => (rest.takeWhile Text.isDigit, rest.dropWhile Text.isDigit)
    | rest => ([], rest)
  if whole.isEmpty && fraction.isEmpty then none
  else (readExponent? rest).map fun power =>
    ofDigits negative (whole ++ fraction) (power - fraction.length)

/-- The number that a text writes, in decimal or by name. -/
def ofText? (s : String) : Option Binary64 :=
  -- Names are accepted in any case.
  let (negative, cs) := readSign s.toList
  let name := Text.asciiLower (String.ofList cs)
  if name == "inf" || name == "infinity" then some (.infinite negative)
  else if name == "nan" then some .nan
  else readUnsigned? negative cs

end TemplateFacts.Binary64
