import TemplateFacts.Settings.Value
import TemplateFacts.Text.Digits

/-! Keys that lead into tables and lists, and setting a value under such a key. -/

namespace TemplateFacts.Settings

/-- A step into a value. -/
inductive KeyStep where
  | name (s : String)
  /-- An item by its place, counted from the end when negative. -/
  | item (place : Int)
deriving DecidableEq, Repr

/-- A key: the name it begins with, and the steps from there. -/
structure Key where
  first : String
  rest : List KeyStep
deriving DecidableEq, Repr

namespace Key

/-- A character of a name within a key. -/
def isNameChar (c : Char) : Bool :=
  -- The blank is one of them.
  ('a' ≤ c && c ≤ 'z') || ('A' ≤ c && c ≤ 'Z') || Text.isDigit c || c == ' ' || c == '_' || c == '-'

/-- A blank around the number of an item. -/
def isPadding (c : Char) : Bool := c == ' ' || c == '\t'

/-- Reads a name. -/
def readName? (cs : List Char) : Option (String × List Char) :=
  -- A name has at least one character.
  let name := cs.takeWhile isNameChar
  if name.isEmpty then none else some (String.ofList name, cs.dropWhile isNameChar)

/-- Reads the place of an item and the bracket behind it. -/
def readPlace? (cs : List Char) : Option (Int × List Char) :=
  -- Blanks may stand on both sides.
  let cs := cs.dropWhile isPadding
  let (negative, cs) := match cs with
    | '-' :: cs => (true, cs)
    | cs => (false, cs)
  match Text.readNat? (cs.takeWhile Text.isDigit), (cs.dropWhile Text.isDigit).dropWhile isPadding with
  | some n, ']' :: rest =>
    let place : Int := if negative then -(n : Int) else n
    if Json.leastInt ≤ place && place ≤ Json.greatestSigned then some (place, rest) else none
  | _, _ => none

/-- Reads the steps behind the first name to the end. -/
def readSteps? : (fuel : Nat) → List Char → Option (List KeyStep)
  -- Each step takes at least one character.
  | _, [] => some []
  | 0, _ => none
  | fuel + 1, '.' :: cs =>
    match readName? cs with
    | some (name, rest) => (readSteps? fuel rest).map (.name name :: ·)
    | none => none
  | fuel + 1, '[' :: cs =>
    match readPlace? cs with
    | some (place, rest) => (readSteps? fuel rest).map (.item place :: ·)
    | none => none
  | _ + 1, _ :: _ => none

/-- The key that a text writes; a text that writes none is a single name. -/
def ofText (s : String) : Key :=
  -- Either the whole text is a key or nothing of it.
  match readName? s.toList with
  | some (first, rest) =>
    match readSteps? rest.length rest with
    | some steps => ⟨first, steps⟩
    | none => ⟨s, []⟩
  | none => ⟨s, []⟩

end Key

/-- The place in a list of so many items, counted from the front. -/
def placeFrom (count : Nat) (place : Int) : Nat :=
  if place < 0 then ((count : Int) + place).toNat else place.toNat

/-- Changes the value under a key of a table, nothing being there before if it is new. -/
def changeKey (key : String) (change : Value → Value) (target : Value) : Value :=
  -- What is no table becomes one.
  let table := target.asTable
  .table (putEntry key (change ((table.get? key).getD .nothing)) table.entries) table.origin

/-- Changes an item of a list, which grows to hold it. -/
def changeItem (place : Int) (change : Value → Value) (target : Value) : Value :=
  -- What is no list becomes one, and new places are empty.
  let items := target.items
  let place := placeFrom items.length place
  let padded := items ++ List.replicate (place + 1 - items.length) .nothing
  .list (padded.set place (change ((padded[place]?).getD .nothing)))
    (match target with
      | .list _ origin => origin
      | _ => none)

/-- Sets the value that some steps lead to. -/
def setSteps (v : Value) : List KeyStep → Value → Value
  -- Tables and lists are made on the way.
  | [], _ => v
  | [.name key], target => setKey key target.asTable v
  | .name key :: rest, target => changeKey key (setSteps v rest) target
  | .item place :: rest, target => changeItem place (setSteps v rest) target

/-- Sets the value of a key. -/
def setAt (key : Key) (v : Value) (target : Value) : Value :=
  setSteps v (.name key.first :: key.rest) target

end TemplateFacts.Settings
