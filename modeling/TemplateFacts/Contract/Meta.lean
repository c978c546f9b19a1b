import TemplateFacts.Contract.Schema
import TemplateFacts.Text.Lines
import TemplateFacts.Uri.Basic

/-!
The grammars of contracts, and the contract for contracts.

Contracts inside a contract are referred to by a name. Formats count only where a contract itself
refers to the contract for contracts.
-/

namespace TemplateFacts.Contract

/-- A grammar of contracts. -/
inductive Draft where
  | fourth
  | sixth
  | seventh
  | of2019
  | of2020
deriving DecidableEq, Repr

namespace Draft

/-- Every grammar. -/
def all : List Draft := [.fourth, .sixth, .seventh, .of2019, .of2020]

/-- The place below which the documents about a grammar are known to be. -/
def folder (draft : Draft) : Uri :=
  -- The older grammars are counted, and the newer ones are dated.
  let (scheme, path) := match draft with
    | .fourth => ("http", "/draft-04/")
    | .sixth => ("http", "/draft-06/")
    | .seventh => ("http", "/draft-07/")
    | .of2019 => ("https", "/draft/2019-09/")
    | .of2020 => ("https", "/draft/2020-12/")
  ⟨some scheme, some ⟨none, "json-schema.org", none⟩, path, none, none⟩

/-- The place of a document about a grammar. -/
def place (draft : Draft) (name : String) : Uri :=
  { draft.folder with path := draft.folder.path ++ name }

/-- The grammar that a text stands for. -/
def ofText? (s : String) : Option Draft := all.find? fun draft => (draft.place "schema").text == s

/-- The grammar keeps its vocabularies apart. -/
def hasVocabularies : Draft → Bool
  | .of2019 => true
  | .of2020 => true
  | _ => false

end Draft

/-- A text without the number signs at its end. -/
def withoutSigns (s : String) : String :=
  -- The end is reached by turning the list around.
  String.ofList ((s.toList.reverse.dropWhile (· == '#')).reverse)

/-- A version of the contract for contracts: how contracts inside are named, and if formats count. -/
structure Meta where
  name : String
  asserted : Bool

namespace Meta

/-- The contract for a contract inside. -/
def inner (version : Meta) : Contract := .ref version.name

/-- The contract for texts of a format. -/
def textOf (version : Meta) (format : Format) : Contract :=
  .all ((if version.asserted then [.ofFormat format] else []) ++ [.kinds [.string]])

/-- The contract for objects whose members are contracts. -/
def contracts (version : Meta) : Contract := .all [.others [] version.inner, .kinds [.object]]

/-- The contract for objects whose members are contracts and whose names are patterns. -/
def contractsOfPatterns (version : Meta) : Contract :=
  .all ([.others [] version.inner]
    ++ (if version.asserted then [.memberNames (.ofFormat .regex)] else []) ++ [.kinds [.object]])

/-- The contract for lists of contracts. -/
def contractList (version : Meta) : Contract :=
  .all [.items version.inner, .minItems 1, .kinds [.array]]

end Meta

/-- The contract for counts. -/
def countContract : Contract := .all [.minimum 0, .kinds [.integer]]

/-- The contract for lists of names. -/
def namesContract : Contract := .all [.items (.kinds [.string]), .kinds [.array], .uniqueItems]

/-- The contract for the name of a kind. -/
def kindContract : Contract := .enum (Kind.alphabetical.map fun kind => .text kind.text)

/-- The contract for one kind or for several. -/
def kindsContract : Contract :=
  .anyOf [kindContract, .all [.items kindContract, .minItems 1, .kinds [.array], .uniqueItems]]

/-- The contract for truth values. -/
def flagContract : Contract := .kinds [.boolean]

/-- The contract for texts. -/
def stringContract : Contract := .kinds [.string]

/-- The contract for numbers. -/
def numberContract : Contract := .kinds [.number]

/-- The contract for lists. -/
def listContract : Contract := .kinds [.array]

/-- The contract for names of places in a contract. -/
def anchorContract : Contract :=
  -- A letter or an underscore comes first.
  let first := Text.CharClass.ranges [(0x41, 0x5A), (0x5F, 0x5F), (0x61, 0x7A)]
  let others := Text.CharClass.ranges
    [(0x2D, 0x2E), (0x30, 0x39), (0x41, 0x5A), (0x5F, 0x5F), (0x61, 0x7A)]
  let pattern : Pattern :=
    .seq .textStart (.seq (.char first) (.seq (.repeated (.char others) 0 none true) .textEnd))
  .all [.pattern (.plain pattern) "^[A-Za-z_][-A-Za-z0-9._]*$", stringContract]

/-- The demand that a text names no part of a resource. -/
def noFragmentContract : Contract :=
  -- A number sign may only be the last character.
  let sign := Text.CharClass.single '#'
  let pattern : Pattern :=
    .seq .textStart (.seq (.repeated (.char (.outside sign)) 0 none true)
      (.seq (.repeated (.char sign) 0 (some 1) true) .textEnd))
  .pattern (.plain pattern) "^[^#]*#?$"

/-- Contracts for some members of an object, if the document is no plain truth value. -/
def vocabulary (known : List (String × Contract)) : Contract :=
  .all [.properties known, .kinds [.object, .boolean]]

namespace Meta

/-- The members that name a contract and refer to others. -/
def core (version : Meta) : Contract :=
  vocabulary [
    ("$anchor", anchorContract),
    ("$comment", stringContract),
    ("$defs", version.contracts),
    ("$dynamicAnchor", anchorContract),
    ("$dynamicRef", version.textOf .reference),
    ("$id", .all [version.textOf .reference, noFragmentContract]),
    ("$ref", version.textOf .reference),
    ("$schema", version.textOf .uri),
    ("$vocabulary", .all ([.others [] flagContract]
      ++ (if version.asserted then [.memberNames (version.textOf .uri)] else [])
      ++ [.kinds [.object]]))]

/-- The members that apply contracts to parts of a document. -/
def applicator (version : Meta) : Contract :=
  vocabulary [
    ("additionalProperties", version.inner),
    ("allOf", version.contractList),
    ("anyOf", version.contractList),
    ("contains", version.inner),
    ("dependentSchemas", version.contracts),
    ("else", version.inner),
    ("if", version.inner),
    ("items", version.inner),
    ("not", version.inner),
    ("oneOf", version.contractList),
    ("patternProperties", version.contractsOfPatterns),
    ("prefixItems", version.contractList),
    ("properties", version.contracts),
    ("propertyNames", version.inner),
    ("then", version.inner)]

/-- The members that apply contracts to what no other member has looked at. -/
def unevaluated (version : Meta) : Contract :=
  vocabulary [
    ("unevaluatedItems", version.inner),
    ("unevaluatedProperties", version.inner)]

/-- The members that make demands of their own. -/
def validation (version : Meta) : Contract :=
  vocabulary [
    ("dependentRequired", .all [.others [] namesContract, .kinds [.object]]),
    ("enum", listContract),
    ("exclusiveMaximum", numberContract),
    ("exclusiveMinimum", numberContract),
    ("maxContains", countContract),
    ("maxItems", countContract),
    ("maxLength", countContract),
    ("maxProperties", countContract),
    ("maximum", numberContract),
    ("minContains", countContract),
    ("minItems", countContract),
    ("minLength", countContract),
    ("minProperties", countContract),
    ("minimum", numberContract),
    ("multipleOf", .all [.above 0, numberContract]),
    ("pattern", version.textOf .regex),
    ("required", namesContract),
    ("type", kindsContract),
    ("uniqueItems", flagContract)]

/-- The members that describe. -/
def description : Contract :=
  vocabulary [
    ("deprecated", flagContract),
    ("description", stringContract),
    ("examples", listContract),
    ("readOnly", flagContract),
    ("title", stringContract),
    ("writeOnly", flagContract)]

/-- The member that names a format. -/
def formatting : Contract := vocabulary [("format", stringContract)]

/-- The members about documents inside texts. -/
def content (version : Meta) : Contract :=
  vocabulary [
    ("contentEncoding", stringContract),
    ("contentMediaType", stringContract),
    ("contentSchema", version.inner)]

/-- The contract for contracts, vocabulary by vocabulary. -/
def whole (version : Meta) : Contract :=
  -- The last members are those of older contracts.
  .all [
    .all [version.core, version.applicator, version.unevaluated, version.validation, description,
      formatting, version.content],
    .properties [
      ("$recursiveAnchor", anchorContract),
      ("$recursiveRef", version.textOf .reference),
      ("definitions", version.contracts),
      ("dependencies", .others [] (.anyOf [version.inner, namesContract]))],
    .kinds [.object, .boolean]]

/-- The contract for older contracts. -/
def older (version : Meta) : Contract :=
  vocabulary [
    ("$comment", stringContract),
    ("$id", version.textOf .reference),
    ("$ref", version.textOf .reference),
    ("$schema", version.textOf .uri),
    ("additionalItems", version.inner),
    ("additionalProperties", version.inner),
    ("allOf", version.contractList),
    ("anyOf", version.contractList),
    ("contains", version.inner),
    ("contentEncoding", stringContract),
    ("contentMediaType", stringContract),
    ("definitions", version.contracts),
    ("dependencies",
      .all [.others [] (.anyOf [version.inner, namesContract]), .kinds [.object]]),
    ("description", stringContract),
    ("else", version.inner),
    ("enum", listContract),
    ("examples", listContract),
    ("exclusiveMaximum", numberContract),
    ("exclusiveMinimum", numberContract),
    ("format", stringContract),
    ("if", version.inner),
    ("items", .anyOf [version.inner, version.contractList]),
    ("maxItems", countContract),
    ("maxLength", countContract),
    ("maxProperties", countContract),
    ("maximum", numberContract),
    ("minItems", countContract),
    ("minLength", countContract),
    ("minProperties", countContract),
    ("minimum", numberContract),
    ("multipleOf", .all [.above 0, numberContract]),
    ("not", version.inner),
    ("oneOf", version.contractList),
    ("pattern", version.textOf .regex),
    ("patternProperties", version.contractsOfPatterns),
    ("properties", version.contracts),
    ("propertyNames", version.inner),
    ("readOnly", flagContract),
    ("required", namesContract),
    ("then", version.inner),
    ("title", stringContract),
    ("type", kindsContract),
    ("uniqueItems", flagContract)]

end Meta

/-- The contract for contracts with its own name. -/
def documentSchema : Schema :=
  -- Formats do not count.
  let name := "#meta"
  { root := .ref name, definitions := [(name, Meta.whole ⟨name, false⟩)] }

/-- The contracts for contracts, and for parts of them, by the places where they are known to be. -/
def knownContracts : List (Uri × (Meta → Contract)) :=
  -- Only the newest grammar has a document for each vocabulary.
  [(Draft.of2020.place "schema", Meta.whole),
    (Draft.of2020.place "meta/core", Meta.core),
    (Draft.of2020.place "meta/applicator", Meta.applicator),
    (Draft.of2020.place "meta/unevaluated", Meta.unevaluated),
    (Draft.of2020.place "meta/validation", Meta.validation),
    (Draft.of2020.place "meta/meta-data", fun _ => Meta.description),
    (Draft.of2020.place "meta/format-annotation", fun _ => Meta.formatting),
    (Draft.of2020.place "meta/content", Meta.content),
    (Draft.of2019.place "schema", Meta.whole),
    (Draft.seventh.place "schema", Meta.older),
    (Draft.sixth.place "schema", Meta.older),
    (Draft.fourth.place "schema", Meta.older)]

/-- The contract at a place where one is known to be, under the name of the place. -/
def knownContract? (place : Uri) : Option Contract :=
  (knownContracts.lookup place).map fun contract => contract ⟨place.text, true⟩

end TemplateFacts.Contract
