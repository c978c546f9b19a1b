import TemplateFacts.Contract.Fault
import TemplateFacts.Contract.Meta
import TemplateFacts.Text.Digits
import TemplateFacts.Uri.Resolve

/-!
The documents that the contracts of a document refer to, and what their references lead to.

A document is looked through for contracts inside. Each may have a place of its own and names for
parts of it, and may refer to other documents. These are fetched and looked through in turn.
-/

namespace TemplateFacts.Contract

mutual
/-- The number of parts of a document. -/
def size : Json → Nat
  -- A document is a part of itself.
  | .list xs => sizeOfItems xs + 1
  | .object ms => sizeOfMembers ms + 1
  | _ => 1
termination_by structural j => j

/-- The number of parts of the items. -/
def sizeOfItems : List Json → Nat
  -- Items are added up.
  | [] => 0
  | x :: xs => size x + sizeOfItems xs
termination_by structural xs => xs

/-- The number of parts of the members. -/
def sizeOfMembers : List (String × Json) → Nat
  -- Members are added up.
  | [] => 0
  | m :: ms => sizeOfMember m + sizeOfMembers ms
termination_by structural ms => ms

/-- The number of parts of a member. -/
def sizeOfMember : String × Json → Nat
  -- The name does not count.
  | (_, x) => size x
termination_by structural m => m
end

/-- The number of parts of documents with their places. -/
def sizeOfAll (documents : List (Uri × Json)) : Nat :=
  documents.foldl (fun parts entry => parts + size entry.2) 0

/-- A place that stands beside nothing. -/
def nowhereBase : Uri := ⟨some "json-schema", some ⟨none, "", none⟩, "/", none, none⟩

/-- The place that a text writes. -/
def placeOf (s : String) : Except Fault Uri := do
  -- Without a scheme it is seen from the place that stands beside nothing.
  let uri ← (Uri.ofText s).mapError (.badReference s)
  let uri := uri.normalize
  if uri.scheme.isSome then return uri
  else (nowhereBase.resolve uri).mapError (.unresolved s nowhereBase)

/-- The place that a text writes, seen from a base. -/
def placeFrom (base : Uri) (s : String) : Except Fault Uri :=
  -- A part that the base names already is the base itself.
  if Text.startsWith s "#" && Text.endsWith base.text s then .ok base
  else do
    let uri ← (Uri.ofText s).mapError (.badReference s)
    let found ← (base.resolve uri).mapError (.unresolved s base)
    return found.normalize

/-- The text of a member of a document. -/
def textMember? (j : Json) (name : String) : Option String := (j.get? name).bind (·.asText?)

/-- The place that a document claims for itself, as it is written. -/
def idOf? (j : Json) : Option String := (textMember? j "$id").map withoutSigns

/-- The base inside a document, given the one around it. -/
def baseInside (base : Uri) (j : Json) : Except Fault Uri :=
  match idOf? j with
  | some id => placeFrom base id
  | none => .ok base

/-- The members of which each holds one contract. -/
def isHolder (name : String) : Bool :=
  ["additionalProperties", "contains", "contentSchema", "else", "if", "items", "not",
    "propertyNames", "then", "unevaluatedItems", "unevaluatedProperties"].contains name

/-- The members of which each holds a list of contracts. -/
def isListHolder (name : String) : Bool :=
  ["allOf", "anyOf", "oneOf", "prefixItems"].contains name

/-- The members of which each holds contracts with names. -/
def isNamedHolder (name : String) : Bool :=
  ["$defs", "definitions", "dependentSchemas", "patternProperties", "properties"].contains name

/-- The contracts that a member holds. -/
def heldBy : String × Json → List Json
  -- What holds something of another kind holds nothing.
  | (name, j) =>
    if isHolder name then [j]
    else if isListHolder name then (j.asList?).getD []
    else if isNamedHolder name then ((j.asObject?).getD []).map (·.2)
    else []

/-- The contracts that stand in a document. -/
def partsOf (j : Json) : List Json := ((j.asObject?).getD []).flatMap heldBy

/-- A name of a pointer with its escapes resolved. -/
def unescapeName : List Char → List Char
  -- A tilde introduces an escape.
  | '~' :: '0' :: rest => '~' :: unescapeName rest
  | '~' :: '1' :: rest => '/' :: unescapeName rest
  | c :: rest => c :: unescapeName rest
  | [] => []

/-- The member or item that a name of a pointer selects. -/
def select? (j : Json) (name : String) : Option Json :=
  -- A number has neither a sign nor zeros in front.
  match j with
  | .object members => members.lookup (String.ofList (unescapeName name.toList))
  | .list xs =>
    if name.length != 1 && Text.startsWith name "0" then none
    else (Text.readNat? name.toList).bind (xs[·]?)
  | _ => none

/-- The part of a document that a pointer leads to. -/
def at? (j : Json) (pointer : String) : Option Json :=
  -- The empty pointer leads to the whole document.
  if pointer == "" then some j
  else if Text.startsWith pointer "/" then
    ((Text.split '/' pointer).drop 1).foldlM select? j
  else none

/-- The documents that contracts refer to, and the names of parts of them. -/
structure Registry where
  documents : List (Uri × Json)
  anchors : List ((Uri × String) × Json)
deriving Inhabited

namespace Registry

/-- Puts a document at a place. -/
def put (place : Uri) (document : Json) (registry : Registry) : Registry :=
  -- The last document at a place is found first.
  { registry with documents := (place, document) :: registry.documents }

/-- Gives a name to a part of the document at a place. -/
def name (place : Uri) (part : Json) (anchor : String) (registry : Registry) : Registry :=
  { registry with anchors := ((place, anchor), part) :: registry.anchors }

/-- A document is known to be at a place. -/
def knows (registry : Registry) (place : Uri) : Bool :=
  (registry.documents.lookup place).isSome || (knownContracts.lookup place).isSome

/-- The number of parts of all documents. -/
def partCount (registry : Registry) : Nat := sizeOfAll registry.documents

end Registry

/-- What has been found so far by looking through documents. -/
structure Survey where
  registry : Registry
  /-- The references that were met, with their bases. -/
  met : List (Uri × String)
  /-- The places of documents that are referred to. -/
  wanted : List Uri

namespace Survey

/-- A reference that leads to a known place, or to the document that it stands in. -/
def leadsToKnown (target : String) : Bool :=
  target == "#" || Draft.all.any fun draft => Text.startsWith target draft.folder.text

/-- The place of a reference to another document. -/
def placeOfOther (base : Uri) (target : String) : Except Fault Uri :=
  -- A base that names a part is seen as the whole, and the part is named by the reference alone.
  if base.fragment.isNone then placeFrom base target
  else
    let (path, rest) := target.toList.span (· != '#')
    let part := if rest.isEmpty then none else some (String.ofList (rest.drop 1))
    (placeFrom base.whole (String.ofList path)).map fun place => { place with fragment := part }

/-- Notes what a document refers to, following references to parts of it so many times. -/
def note (base : Uri) : (fuel : Nat) → Json → Survey → Except Fault Survey
  -- Each reference is noted once for each base.
  | 0, _, survey => .ok survey
  | fuel + 1, document, survey =>
    ["$ref", "$schema"].foldlM (fun survey member =>
      match textMember? document member with
      | none => .ok survey
      | some target =>
        if survey.met.contains (base, target) then .ok survey
        else
          let survey := { survey with met := (base, target) :: survey.met }
          if leadsToKnown target then .ok survey
          else if Text.startsWith target "#" then
            match at? document (String.ofList (target.toList.dropWhile (· == '#'))) with
            | some part => note base fuel part survey
            | none => .ok survey
          else do
            let place ← placeOfOther base target
            return { survey with wanted := survey.wanted ++ [place] }) survey

/-- Notes what a document refers to, unless its place is only a name. -/
def noteAll (base : Uri) (document : Json) (survey : Survey) : Except Fault Survey :=
  -- Nothing can be found beside a mere name.
  if base.scheme == some "urn" then .ok survey
  else note base (size document + 1) document survey

/-- The fault of a document that is written in an unknown grammar. -/
def checkDraft (document : Json) : Except Fault Unit :=
  match (textMember? document "$schema").map withoutSigns with
  | some name => if (Draft.ofText? name).isSome then .ok () else .error (.unknownDraft name)
  | none => .ok ()

/-- Looks through a document, and gives the contracts in it with their base. -/
def visit (around : Uri) (document : Json) (survey : Survey) :
    Except Fault (List (Uri × Json) × Survey) := do
  -- The names of parts come first, and the place that the document claims comes last.
  let base ← baseInside around document
  let anchors := ["$anchor", "$dynamicAnchor"].filterMap (textMember? document)
  let registry := anchors.foldl (fun registry anchor => registry.name base document anchor)
    survey.registry
  let survey ← noteAll base document { survey with registry }
  let parts := partsOf document
  let survey ← parts.foldlM (fun survey part => do
    checkDraft part
    noteAll (← baseInside base part) part survey) survey
  let registry := if (idOf? document).isSome then survey.registry.put base document
    else survey.registry
  return (parts.map fun part => (base, part), { survey with registry })

/-- Looks through the documents of a queue, and the contracts in them, at most so many in all. -/
def visitAll : (fuel : Nat) → (queue : List (Uri × Json)) → Survey → Except Fault Survey
  -- Contracts inside wait behind what waits already.
  | 0, _, survey => .ok survey
  | _ + 1, [], survey => .ok survey
  | fuel + 1, (base, document) :: queue, survey => do
    let (parts, survey) ← visit base document survey
    visitAll fuel (queue ++ parts) survey

/-- Fetches a document that is referred to, and puts it behind those that wait. -/
def fetch (get : Uri → Except Absence Json) (wanted : Uri)
    (queue : List (Uri × Json)) (survey : Survey) :
    Except Fault (List (Uri × Json) × Survey) :=
  -- The part that is referred to is looked through on its own too.
  let place := wanted.whole
  if survey.registry.knows place then .ok (queue, survey)
  else do
    let document ← (get place).mapError (.absent place)
    checkDraft document
    let part? := wanted.fragment.bind (at? document)
    match part? with
    | some part => checkDraft part
    | none => .ok ()
    let waiting := (part?.toList.map fun part => (wanted, part)) ++ [(place, document)]
    return (queue ++ waiting, { survey with registry := survey.registry.put place document })

/-- Fetches all documents that are referred to. -/
def fetchAll (get : Uri → Except Absence Json) (survey : Survey) :
    Except Fault (List (Uri × Json) × Survey) :=
  -- The first failure ends it.
  survey.wanted.foldlM (fun (queue, survey) wanted => fetch get wanted queue survey)
    ([], { survey with wanted := [] })

/-- Looks through documents and fetches others, so many times in turn. -/
def complete (get : Uri → Except Absence Json) :
    (rounds : Nat) → (queue : List (Uri × Json)) → Survey → Except Fault Registry
  -- It ends when nothing is wanted.
  | 0, _, survey => .ok survey.registry
  | rounds + 1, queue, survey => do
    let survey ← visitAll (sizeOfAll queue) queue survey
    if survey.wanted.isEmpty then return survey.registry
    else
      let (queue, survey) ← fetchAll get survey
      complete get rounds queue survey

end Survey

/-- The greatest number of times that documents are fetched in turn. -/
def greatestRounds : Nat := 4096

/-- The documents that the contracts of a document refer to. -/
def Registry.ofDocument (get : Uri → Except Absence Json) (place : Uri) (document : Json) :
    Except Fault Registry :=
  -- The document itself is at its place.
  let registry : Registry := { documents := [(place, document)], anchors := [] }
  Survey.complete get greatestRounds [(place, document)] { registry, met := [], wanted := [] }

/-- What a reference leads to. -/
inductive Target where
  /-- A part of a document, in which references are seen from a base. -/
  | part (base : Uri) (document : Json)
  /-- A contract that is known to be at a place. -/
  | known (place : Uri) (contract : Contract)

/-- Steps from one contract lead to another one that stands in it. -/
def leadsInside : List Step → Bool
  -- Between the two stand only members that hold contracts.
  | [] => true
  | .item _ :: rest => leadsInside rest
  | .member name :: rest =>
    if isHolder name then leadsInside rest
    else if isListHolder name || isNamedHolder name then
      match rest with
      | [] => false
      | _ :: rest => leadsInside rest
    else false

/-- The step of a pointer, and what it leads to. -/
def stepInto (pointer : String) (j : Json) (name : String) : Except Fault (Step × Json) :=
  -- Items are counted, and the number may have a sign.
  match j with
  | .list xs =>
    match Text.readSignedNat? name.toList with
    | none => .error (.badIndex name pointer)
    | some index =>
      if Json.greatestInt < index then .error (.badIndex name pointer)
      else match xs[index]? with
        | some x => .ok (.item index, x)
        | none => .error (.nowhere pointer)
  | j =>
    let name := String.ofList (unescapeName name.toList)
    match j.get? name with
    | some x => .ok (.member name, x)
    | none => .error (.nowhere pointer)

/-- Follows a pointer, given the steps since the base was found. -/
def followPointer (pointer : String) (base : Uri) (steps : List Step) (j : Json) :
    List String → Except Fault Target
  -- A contract on the way may have a place of its own.
  | [] => .ok (.part base j)
  | name :: rest => do
    let (step, j) ← stepInto pointer j name
    let steps := steps ++ [step]
    let inside ← if leadsInside steps then baseInside base j else .ok base
    followPointer pointer inside (if inside = base then steps else []) j rest

/-- What a pointer into a document leads to. -/
def ofPointer (place : Uri) (document : Json) (pointer : String) : Except Fault Target :=
  -- The slash at the front is no part of the first name.
  match Uri.unescape? (String.ofList (pointer.toList.drop 1)) with
  | none => .error (.badEscape pointer)
  | some names => followPointer pointer place [] document (Text.split '/' names)

/-- What a name of a part leads to. -/
def ofAnchor (registry : Registry) (place : Uri) (document : Json) (anchor : String) :
    Except Fault Target := do
  -- The document may be known by the place that it claims.
  match registry.anchors.lookup (place, anchor) with
  | some part => return .part place part
  | none =>
    let claimed ← match idOf? document with
      | some id => (placeOf id).map fun claimed => registry.anchors.lookup (claimed, anchor)
      | none => .ok none
    match claimed with
    | some part => return .part place part
    | none => .error (if Text.contains anchor "/" then .badAnchor anchor else .noAnchor anchor)

/-- The place of a reference, and what is named in it. -/
def placeAndPart (base : Uri) (target : String) : Except Fault (Uri × String) :=
  -- The last number sign separates the two.
  match target.toList with
  | '#' :: part => .ok (base, String.ofList part)
  | cs =>
    let part := (cs.reverse.takeWhile (· != '#')).reverse
    if part.length == cs.length then (placeFrom base target).map fun place => (place, "")
    else
      let path := String.ofList (cs.take (cs.length - part.length - 1))
      (placeFrom base path).map fun place => (place, String.ofList part)

/-- What a reference leads to, seen from a base. -/
def Registry.find (registry : Registry) (base : Uri) (target : String) : Except Fault Target := do
  -- Known contracts are found as a whole only.
  let (place, part) ← placeAndPart base target
  match registry.documents.lookup place with
  | some document =>
    if Text.startsWith part "/" then ofPointer place document part
    else if part == "" then return .part place document
    else ofAnchor registry place document part
  | none =>
    match knownContract? place with
    | some contract => return .known place contract
    | none => .error (.absent place .late)

end TemplateFacts.Contract
