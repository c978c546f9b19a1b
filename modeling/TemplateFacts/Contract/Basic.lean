import TemplateFacts.Contract.Format
import TemplateFacts.Json.Writer
import TemplateFacts.Text.Lines

/-! Contracts: what is demanded of a document, and what is said when a demand is not met. -/

namespace TemplateFacts

namespace Contract

/-- A kind of document, in the alphabetical order of the names. -/
inductive Kind where
  | array
  | boolean
  | integer
  | null
  | number
  | object
  | string
deriving DecidableEq, Repr

/-- The name of a kind. -/
def Kind.text : Kind → String
  | .array => "array"
  | .boolean => "boolean"
  | .integer => "integer"
  | .null => "null"
  | .number => "number"
  | .object => "object"
  | .string => "string"

/-- Every kind in the alphabetical order of the names. -/
def Kind.alphabetical : List Kind :=
  [.array, .boolean, .integer, .null, .number, .object, .string]

/-- The kind of a name. -/
def Kind.ofText? (s : String) : Option Kind := Kind.alphabetical.find? (·.text == s)

end Contract

/-- A demand on documents. -/
inductive Contract where
  /-- No document is allowed. -/
  | never
  /-- Every part is demanded. -/
  | all (parts : List Contract)
  /-- At least one of the choices is demanded. -/
  | anyOf (choices : List Contract)
  /-- The contract of a name is demanded. -/
  | ref (target : String)
  /-- The document is of one of the kinds. -/
  | kinds (allowed : List Contract.Kind)
  /-- The document equals a given one. -/
  | const (value : Json)
  /-- The document equals one of the given ones. -/
  | enum (values : List Json)
  /-- An object has these members. -/
  | required (names : List String)
  /-- Members of an object satisfy the contracts of their names. -/
  | properties (known : List (String × Contract))
  /-- So do they, and the object has no other members. -/
  | closed (known : List (String × Contract))
  /-- So do they, and every other member satisfies one more contract. -/
  | others (known : List (String × Contract)) (other : Contract)
  /-- An object has no members. -/
  | noMembers
  /-- The names of the members of an object satisfy a contract. -/
  | memberNames (name : Contract)
  /-- The items of a list satisfy a contract. -/
  | items (item : Contract)
  /-- The first items of a list satisfy one contract each. -/
  | firstItems (first : List Contract)
  /-- A list has at least so many items. -/
  | minItems (count : Nat)
  /-- No two items of a list are equal. -/
  | uniqueItems
  /-- A text has at least so many characters. -/
  | minLength (count : Nat)
  /-- A number is at least so great. -/
  | minimum (least : Int)
  /-- A number is greater. -/
  | above (bound : Int)
  /-- A pattern matches somewhere in a text. -/
  | pattern (matcher : Contract.Matcher) (source : String)
  /-- A text is of a format. -/
  | ofFormat (format : Contract.Format)
deriving Inhabited

namespace Contract

/-- A contract that every document satisfies. -/
def always : Contract := .all []

/-- A step from a document to one inside it. -/
inductive Step where
  | member (name : String)
  | item (index : Nat)
deriving DecidableEq, Repr

/-- What is wrong at a place of a document. -/
inductive Problem where
  | wrongKind (allowed : List Kind)
  | notConst (value : Json)
  | notInEnum (values : List Json)
  | missing (name : String)
  | unexpected (names : List String)
  | tooFewItems (count : Nat)
  | notUnique
  | tooShort (count : Nat)
  | tooSmall (least : Int)
  | notAbove (bound : Int)
  | noMatch (source : String)
  /-- Whether a pattern matches could not be found out. -/
  | gaveUp (excess : Machine.Excess)
  | notFormat (format : Format)
  | noChoice
  | forbidden
deriving DecidableEq

/-- A demand that is not met: where, by which document, and why. -/
structure Violation where
  place : List Step
  subject : Json
  problem : Problem
deriving DecidableEq

/-- A name in a pointer, with its tildes and slashes escaped. -/
def escapeName (name : String) : String :=
  -- The tilde introduces the escapes.
  String.ofList (name.toList.flatMap fun c =>
    if c == '~' then ['~', '0'] else if c == '/' then ['~', '1'] else [c])

/-- A step as a part of a pointer. -/
def Step.text : Step → String
  -- Items are counted from zero.
  | .member name => "/" ++ escapeName name
  | .item index => s!"/{index}"

/-- The pointer to a place. -/
def pointer (place : List Step) : String := Text.join "" (place.map Step.text)

/-- A document as it is shown in a message. -/
def shown (j : Json) : String := Json.compact (Json.canonicalize j)

/-- A name between double quotes. -/
def quotedName (name : String) : String := "\"" ++ name ++ "\""

/-- A count with its noun. -/
def counted (count : Nat) (singular plural : String) : String :=
  let noun := if count == 1 then singular else plural
  s!"{count} {noun}"

/-- The problem with a document in words. -/
def Problem.message (subject : Json) : Problem → String
  -- The document is shown first in most messages.
  | .wrongKind [kind] => s!"{shown subject} is not of type " ++ quotedName kind.text
  | .wrongKind several =>
    let names := (Kind.alphabetical.filter several.contains).map fun kind => quotedName kind.text
    s!"{shown subject} is not of types " ++ Text.join ", " names
  | .notConst value => s!"{shown value} was expected"
  | .notInEnum values => s!"{shown subject} is not one of {shown (.list values)}"
  | .missing name => shown (.text name) ++ " is a required property"
  | .unexpected names =>
    let verb := if names.length == 1 then "was" else "were"
    let list := Text.join ", " (names.map fun name => "'" ++ name ++ "'")
    s!"Additional properties are not allowed ({list} {verb} unexpected)"
  | .tooFewItems count => s!"{shown subject} has less than " ++ counted count "item" "items"
  | .notUnique => s!"{shown subject} has non-unique elements"
  | .tooShort count => s!"{shown subject} is shorter than " ++ counted count "character" "characters"
  | .tooSmall least => s!"{shown subject} is less than the minimum of {least}"
  | .notAbove bound => s!"{shown subject} is less than or equal to the minimum of {bound}"
  | .noMatch source => s!"{shown subject} does not match " ++ quotedName source
  | .gaveUp excess => excess.message
  | .notFormat format => s!"{shown subject} is not a " ++ quotedName format.text
  | .noChoice =>
    s!"{shown subject} is not valid under any of the schemas listed in the 'anyOf' keyword"
  | .forbidden => s!"False schema does not allow {shown subject}"

/-- The problem of a violation in words. -/
def Violation.message (violation : Violation) : String :=
  violation.problem.message violation.subject

/-- A violation with its place in words. -/
def Violation.text (violation : Violation) : String :=
  -- The pointer to the whole document is empty.
  pointer violation.place ++ " " ++ violation.message

end Contract

end TemplateFacts
