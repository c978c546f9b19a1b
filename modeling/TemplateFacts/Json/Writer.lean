import TemplateFacts.Binary64.Text
import TemplateFacts.Json.Basic
import TemplateFacts.Text.Quoted

/-!
Documents written as text: on one line, with two spaces of indentation per level, or in the canonical
form, which has the members in order of their names at every level.
-/

namespace TemplateFacts.Json

/-- A character as it stands inside a written text. -/
def escapedChar (c : Char) : List Char :=
  -- Only the quote, the backslash and control characters are escaped.
  if c == '"' then ['\\', '"']
  else if c == '\\' then ['\\', '\\']
  else if c.toNat < 0x20 then
    if c.toNat == 0x08 then ['\\', 'b']
    else if c.toNat == 0x0C then ['\\', 'f']
    else if c == '\n' then ['\\', 'n']
    else if c == '\r' then ['\\', 'r']
    else if c == '\t' then ['\\', 't']
    else ['\\', 'u', '0', '0', Text.hexDigit (c.toNat / 16), Text.hexDigit (c.toNat % 16)]
  else [c]

/-- A text as it is written. -/
def textChars (s : String) : List Char :=
  -- Each character is escaped on its own.
  '"' :: (s.toList.flatMap escapedChar ++ ['"'])

/-- An integer as it is written. -/
def intChars (n : Int) : List Char :=
  -- The digits of the magnitude follow the sign.
  if n < 0 then '-' :: Nat.toDigits 10 n.natAbs else Nat.toDigits 10 n.natAbs

mutual
/-- A document on one line, without blanks. -/
def compactChars : Json → List Char
  -- Composite documents are enclosed, with commas between their parts.
  | .null => ['n', 'u', 'l', 'l']
  | .bool true => ['t', 'r', 'u', 'e']
  | .bool false => ['f', 'a', 'l', 's', 'e']
  | .int n => intChars n
  | .float x => x.documentText.toList
  | .text s => textChars s
  | .list [] => ['[', ']']
  | .list (x :: xs) => '[' :: (compactChars x ++ compactItems xs)
  | .object [] => ['\x7b', '\x7d']
  | .object (m :: ms) => '\x7b' :: (compactMember m ++ compactMembers ms)
termination_by structural j => j

/-- The items behind the first one, and the closing bracket. -/
def compactItems : List Json → List Char
  -- Each item brings the comma before it.
  | [] => [']']
  | x :: xs => ',' :: (compactChars x ++ compactItems xs)
termination_by structural j => j

/-- The members behind the first one, and the closing brace. -/
def compactMembers : List (String × Json) → List Char
  -- Each member brings the comma before it.
  | [] => ['\x7d']
  | m :: ms => ',' :: (compactMember m ++ compactMembers ms)
termination_by structural j => j

/-- A member: its name, a colon and its value. -/
def compactMember : String × Json → List Char
  -- No blank follows the colon.
  | (name, x) => textChars name ++ ':' :: compactChars x
termination_by structural j => j
end

/-- A new line with the indentation of a level. -/
def indentation (level : Nat) : List Char :=
  -- Each level takes two spaces.
  '\n' :: List.replicate (2 * level) ' '

mutual
/-- A document over several lines, each item or member on a line of its own. -/
def prettyChars (level : Nat) : Json → List Char
  -- Empty composite documents stay on one line.
  | .null => ['n', 'u', 'l', 'l']
  | .bool true => ['t', 'r', 'u', 'e']
  | .bool false => ['f', 'a', 'l', 's', 'e']
  | .int n => intChars n
  | .float x => x.documentText.toList
  | .text s => textChars s
  | .list [] => ['[', ']']
  | .list (x :: xs) =>
    '[' :: (indentation (level + 1) ++ prettyChars (level + 1) x ++ prettyItems level xs)
  | .object [] => ['\x7b', '\x7d']
  | .object (m :: ms) =>
    '\x7b' :: (indentation (level + 1) ++ prettyMember (level + 1) m ++ prettyMembers level ms)
termination_by structural j => j

/-- The items behind the first one, and the closing bracket. -/
def prettyItems (level : Nat) : List Json → List Char
  -- The bracket returns to the level of the list.
  | [] => indentation level ++ [']']
  | x :: xs => ',' :: (indentation (level + 1) ++ prettyChars (level + 1) x ++ prettyItems level xs)
termination_by structural j => j

/-- The members behind the first one, and the closing brace. -/
def prettyMembers (level : Nat) : List (String × Json) → List Char
  -- The brace returns to the level of the object.
  | [] => indentation level ++ ['\x7d']
  | m :: ms =>
    ',' :: (indentation (level + 1) ++ prettyMember (level + 1) m ++ prettyMembers level ms)
termination_by structural j => j

/-- A member: its name, a colon, a space and its value. -/
def prettyMember (level : Nat) : String × Json → List Char
  -- The value stands on the level of the member.
  | (name, x) => textChars name ++ ':' :: ' ' :: prettyChars level x
termination_by structural j => j
end

/-- The document as a text on one line. -/
def compact (j : Json) : String := String.ofList (compactChars j)

/-- The document as a text over several lines. -/
def pretty (j : Json) : String := String.ofList (prettyChars 0 j)

/-- A member stands no later than another when its name is not greater. -/
def memberLe (a b : String × Json) : Bool :=
  -- Names are compared by code points, which is the order of their bytes.
  decide (a.1 ≤ b.1)

mutual
/-- The document with the members of every object sorted by name. -/
def canonicalize : Json → Json
  -- Lists keep their order.
  | .list xs => .list (canonicalItems xs)
  | .object ms => .object ((canonicalMembers ms).mergeSort memberLe)
  | .null => .null
  | .bool b => .bool b
  | .int n => .int n
  | .float x => .float x
  | .text s => .text s
termination_by structural j => j

/-- The canonical forms of the items. -/
def canonicalItems : List Json → List Json
  -- Length and order are kept.
  | [] => []
  | x :: xs => canonicalize x :: canonicalItems xs
termination_by structural j => j

/-- The members with canonical values, in the given order. -/
def canonicalMembers : List (String × Json) → List (String × Json)
  -- Names are kept.
  | [] => []
  | m :: ms => canonicalMember m :: canonicalMembers ms
termination_by structural j => j

/-- The member with a canonical value. -/
def canonicalMember : String × Json → String × Json
  -- The name is kept.
  | (name, x) => (name, canonicalize x)
termination_by structural j => j
end

/-- The canonical text of a document, which ends with a line feed. -/
def canonicalText (j : Json) : String :=
  -- One document has one text.
  pretty (canonicalize j) ++ "\n"

end TemplateFacts.Json
