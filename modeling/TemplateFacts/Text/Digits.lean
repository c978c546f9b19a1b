/-! Natural numbers written in decimal digits, and hexadecimal digits and what they write. -/

namespace TemplateFacts.Text

/-- A decimal digit. -/
def isDigit (c : Char) : Bool := '0' ≤ c && c ≤ '9'

/-- The number that decimal digits write. -/
def digitsValue (cs : List Char) : Nat :=
  -- Each digit moves those before it one place up.
  cs.foldl (fun n c => n * 10 + (c.toNat - 48)) 0

/-- The number that a text of decimal digits writes. -/
def readNat? (cs : List Char) : Option Nat :=
  -- There is at least one digit, and nothing else.
  if cs.isEmpty || !cs.all isDigit then none else some (digitsValue cs)

/-- The number that decimal digits write, with or without a plus sign before them. -/
def readSignedNat? : List Char → Option Nat
  -- One sign is accepted.
  | '+' :: cs => readNat? cs
  | cs => readNat? cs

/-- The value of a hexadecimal digit. -/
def hexValue? (c : Char) : Option Nat :=
  -- Letters of either case count from ten.
  if '0' ≤ c && c ≤ '9' then some (c.toNat - 48)
  else if 'a' ≤ c && c ≤ 'f' then some (c.toNat - 87)
  else if 'A' ≤ c && c ≤ 'F' then some (c.toNat - 55)
  else none

/-- The number that hexadecimal digits write, other characters being passed over. -/
def hexNumber (cs : List Char) : Nat :=
  (cs.filterMap hexValue?).foldl (fun n digit => n * 16 + digit) 0

/-- The byte that two hexadecimal digits write. -/
def hexByte? (a b : Char) : Option UInt8 := do
  -- The first digit weighs sixteen.
  return (16 * (← hexValue? a) + (← hexValue? b)).toUInt8

end TemplateFacts.Text
