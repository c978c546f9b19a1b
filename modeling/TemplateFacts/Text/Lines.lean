/-! Texts cut at separators and put together again. -/

namespace TemplateFacts.Text

/-- The pieces between the characters for which the test holds, empty ones included. -/
def splitChars (test : Char → Bool) : List Char → List (List Char)
  -- A separator opens a new piece in front of those that follow it.
  | [] => [[]]
  | c :: rest =>
    if test c then [] :: splitChars test rest
    else match splitChars test rest with
      | piece :: pieces => (c :: piece) :: pieces
      | [] => [[c]]

/-- The pieces of a text between the occurrences of a character, empty ones included. -/
def split (separator : Char) (s : String) : List String :=
  -- A text without the separator is its only piece.
  (splitChars (· == separator) s.toList).map String.ofList

/-- A list of characters occurs somewhere in another. -/
def occursIn (piece : List Char) : List Char → Bool
  -- Either it stands at the front or further on.
  | [] => piece.isEmpty
  | c :: rest => piece.isPrefixOf (c :: rest) || occursIn piece rest

/-- A text contains another. -/
def contains (s piece : String) : Bool :=
  -- Characters decide, and they are encoded uniquely.
  occursIn piece.toList s.toList

/-- A text ends with another. -/
def endsWith (s ending : String) : Bool :=
  -- Characters decide, and they are encoded uniquely.
  ending.toList.isSuffixOf s.toList

/-- A text begins with another. -/
def startsWith (s beginning : String) : Bool :=
  -- Characters decide, and they are encoded uniquely.
  beginning.toList.isPrefixOf s.toList

/-- The rest of a text after a beginning that it has. -/
def dropStart? (s beginning : String) : Option String :=
  -- Nothing is cut from a text that begins otherwise.
  if startsWith s beginning then some (String.ofList (s.toList.drop beginning.length)) else none

/-- The part of a text before an ending that it has. -/
def dropEnd? (s ending : String) : Option String :=
  -- Nothing is cut from a text that ends otherwise.
  if endsWith s ending then
    some (String.ofList (s.toList.take (s.length - ending.length)))
  else none

/-- The texts one after the other with a separator between neighbours. -/
def join (separator : String) (pieces : List String) : String :=
  -- An empty list gives the empty text.
  String.intercalate separator pieces

/-- The lower-case hexadecimal form of bytes, two digits each. -/
def hexOfBytes (digit : Nat → Char) (bytes : List UInt8) : String :=
  -- The high half of a byte is written first.
  String.ofList (bytes.flatMap fun b => [digit (b.toNat / 16), digit (b.toNat % 16)])

end TemplateFacts.Text
