import TemplateFacts.Text.Case
import TemplateFacts.Text.PrintableTable

/-! Texts quoted for people: what cannot be seen is shown by its code point. -/

namespace TemplateFacts.Text

/-- The lower-case hexadecimal digit of a number below sixteen. -/
def hexDigit (n : Nat) : Char :=
  -- Ten digits are followed by six letters.
  if n < 10 then Char.ofNat (0x30 + n) else Char.ofNat (0x57 + n)

/-- The lower-case hexadecimal digits of a number, without leading zeros. -/
def hexDigits (n : Nat) : List Char :=
  -- The last digit is the remainder by sixteen.
  if n < 16 then [hexDigit n] else hexDigits (n / 16) ++ [hexDigit (n % 16)]
termination_by n

/-- A character as it stands inside double quotes. -/
def quotedChar (c : Char) : List Char :=
  -- Characters that combine with the one before them would change its look.
  if c == '\x00' then ['\\', '0']
  else if c == '\t' then ['\\', 't']
  else if c == '\r' then ['\\', 'r']
  else if c == '\n' then ['\\', 'n']
  else if c == '"' then ['\\', '"']
  else if c == '\\' then ['\\', '\\']
  else if c.toNat < 0x7F && 0x20 ≤ c.toNat then [c]
  else if inRanges graphemeExtendRanges c || inRanges unprintableRanges c then
    ['\\', 'u', '\x7b'] ++ hexDigits c.toNat ++ ['\x7d']
  else [c]

/-- The text between double quotes. -/
def quoted (s : String) : String :=
  -- Each character is shown on its own.
  String.ofList ('"' :: s.toList.flatMap quotedChar ++ ['"'])

end TemplateFacts.Text
