import TemplateFacts.Text.CharClass
import TemplateFacts.Text.PropertyTable
import TemplateFacts.Text.ScriptTable

/-! Classes of characters that are known by name. -/

namespace TemplateFacts.Text

/-- The class of a category. -/
def Category.toClass (category : Category) : CharClass := writtenClass category.written

/-- The class of some categories. -/
def classOf (categories : List Category) : CharClass := .anyOf (categories.map Category.toClass)

/-- The class of a property. -/
def Property.toClass (property : Property) : CharClass :=
  -- The exceptions turn the rule around.
  .onlyOne (classOf property.usual) (writtenClass property.exceptions)

/-- Names of several categories together. -/
def categoryGroups : List (List String × List Category) := [
  (["c", "other"], [.control, .format, .privateUse, .unassigned]),
  (["l", "letter"], [.upper, .lower, .title, .modifierLetter, .otherLetter]),
  (["lc", "casedletter"], [.upper, .lower, .title]),
  (["m", "mark", "combiningmark"], [.nonspacing, .spacing, .enclosing]),
  (["n", "number"], [.decimal, .letterNumber, .otherNumber]),
  (["p", "punctuation", "punct"],
    [.connector, .dash, .opening, .closing, .initial, .final, .otherPunctuation]),
  (["s", "symbol"], [.math, .currency, .modifierSymbol, .otherSymbol]),
  (["z", "separator"], [.space, .lineSeparator, .paragraphSeparator])]

/-- The class of the categories of a name. -/
def categoryClass? (name : String) : Option CharClass :=
  -- Three names cut across the categories.
  if name == "any" then some .all
  else if name == "ascii" then some (.ranges [(0, 0x7F)])
  else if name == "assigned" then some (.outside (Category.toClass .unassigned))
  else match categoryGroups.find? (·.1.contains name) with
    | some (_, categories) => some (classOf categories)
    | none => (Category.all.find? (·.names.contains name)).map Category.toClass

/-- The class of the characters that belong to a script alone. -/
def scriptClass? (name : String) : Option CharClass :=
  (scripts.find? (·.names.contains name)).map fun script => writtenClass script.own

/-- The class of the characters that are used in a script. -/
def usedScriptClass? (name : String) : Option CharClass :=
  -- What is used in some script is taken away from those that stand for no script.
  (scripts.find? (·.names.contains name)).map fun script =>
    let own := writtenClass script.own
    if script.names.contains "common" || script.names.contains "inherited" then
      .without own (.anyOf (scripts.map fun other => writtenClass other.shared))
    else .either own (writtenClass script.shared)

/-- The class of a property. -/
def propertyClass? (name : String) : Option CharClass :=
  (properties.find? (·.names.contains name)).map Property.toClass

/-- A name in small letters, without what may stand between its words and without the word before it. -/
def plainName (name : List Char) : String :=
  -- A lone letter C keeps the word, since the two make up another name.
  let hasIs (cs : List Char) : Bool := match cs with
    | i :: s :: _ => i.toLower == 'i' && s.toLower == 's'
    | _ => false
  let starts := hasIs name
  let body := if starts then name.drop 2 else name
  let kept := body.filter fun c => c.toNat ≤ 0x7F && c != ' ' && c != '_' && c != '-'
  let plain := String.ofList (kept.map Char.toLower)
  if starts && plain == "c" then "isc" else plain

/-- The class of a name: a property, the categories or a script. -/
def namedClass? (name : List Char) : Option CharClass :=
  -- Properties come first.
  let plain := plainName name
  propertyClass? plain <|> categoryClass? plain <|> scriptClass? plain

/-- The class of a value of a property that has many. -/
def valueClass? (name value : List Char) : Option CharClass :=
  -- Only categories and scripts are values here.
  let name := plainName name
  let value := plainName value
  if name == "gc" || name == "generalcategory" then categoryClass? value
  else if name == "sc" || name == "script" then scriptClass? value
  else if name == "scx" || name == "scriptextensions" then usedScriptClass? value
  else none

/-- The letters of all alphabets. -/
def letterClass : CharClass := (propertyClass? "alphabetic").getD .none

/-- The letters of all alphabets, and all numbers. -/
def alphanumericClass : CharClass :=
  .either letterClass (classOf [.decimal, .letterNumber, .otherNumber])

/-- The characters of words. -/
def wordClass : CharClass :=
  -- Marks, digits, and what joins letters count too.
  .either letterClass (.either (classOf [.nonspacing, .spacing, .enclosing, .decimal, .connector])
    ((propertyClass? "joincontrol").getD .none))

/-- A character is a letter of some alphabet. -/
def isLetter (c : Char) : Bool :=
  -- ASCII is settled without a search.
  if c.toNat < 0x80 then c.isAlpha else letterClass.holds c

/-- A character is a letter or a number. -/
def isAlphanumeric (c : Char) : Bool :=
  if c.toNat < 0x80 then c.isAlphanum else alphanumericClass.holds c

/-- A character belongs to a word. -/
def isWordChar (c : Char) : Bool :=
  if c.toNat < 0x80 then c.isAlphanum || c == '_' else wordClass.holds c

end TemplateFacts.Text
