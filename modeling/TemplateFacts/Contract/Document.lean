import TemplateFacts.Contract.Registry
import TemplateFacts.FileTree.Walk
import TemplateFacts.Json.Reader

/-!
Contracts written as documents, and contracts in files.

The demands are read off the members in the order of their names. What a reference leads to is read
where the reference is met first.
-/

namespace TemplateFacts.Contract

/-- Where a part of a document stands. -/
structure Standing where
  /-- The place from which references are seen. -/
  base : Uri
  /-- All members count, and not only references and formats. -/
  full : Bool

/-- What has been read so far by following references. -/
structure Progress where
  /-- The places that references led to. -/
  met : List Uri
  definitions : List (String × Contract)

/-- A step of reading, which follows references. -/
abbrev Reading := StateT Progress (Except Fault)

/-- Reads the demands that a part of a document writes. -/
abbrev PartReader := Standing → Json → Reading Contract

/-- Refuses a part of a document. -/
def refuse {α : Type} (subject : Json) (problem : Problem) : Reading α :=
  throw (.refused subject problem)

/-- Refuses a part of a document that is of another kind than it should be. -/
def refuseKind {α : Type} (subject : Json) (allowed : List Kind) : Reading α :=
  refuse subject (.wrongKind allowed)

/-- All members of a document count. -/
def isFull (document : Json) : Bool :=
  -- The older grammars have no vocabularies.
  match (textMember? document "$schema").bind fun name => Draft.ofText? (withoutSigns name) with
  | some draft => draft.hasVocabularies
  | none => true

/-- A count that is written as an integer or as a whole float. -/
def countOf (j : Json) : Reading Nat :=
  -- What is below zero counts as zero.
  match j with
  | .int n => return n.toNat
  | .float x =>
    if isWhole x then return (x.toIntClamped 0 Json.greatestInt).toNat
    else refuseKind j [.integer]
  | _ => refuseKind j [.integer]

/-- The kind that a single name stands for. -/
def kindOf (j : Json) : Reading Kind :=
  match j with
  | .text s => match Kind.ofText? s with
    | some kind => return kind
    | none => throw .unknownKind
  | _ => refuseKind j [.string]

/-- The kind that a name among others stands for. -/
def kindAmong (j : Json) : Reading Kind :=
  match j with
  | .text s => match Kind.ofText? s with
    | some kind => return kind
    | none => refuse j (.notInEnum (Kind.alphabetical.map fun kind => .text kind.text))
  | _ => refuseKind j [.string]

/-- The kinds that are named alone or in a list. -/
def kindsOf (j : Json) : Reading (List Kind) :=
  match j with
  | .text _ => return [← kindOf j]
  | .list [x] => return [← kindOf x]
  | .list xs => xs.mapM kindAmong
  | _ => refuseKind j [.array, .string]

/-- A text. -/
def textOf (j : Json) : Reading String :=
  match j with
  | .text s => return s
  | _ => refuseKind j [.string]

/-- The items of a list. -/
def listItems (j : Json) : Reading (List Json) :=
  match j with
  | .list xs => return xs
  | _ => refuseKind j [.array]

/-- The demand that a pattern matches. -/
def patternOf (j : Json) : Reading Contract := do
  -- The text must be a pattern.
  let source ← textOf j
  match Matcher.ofText? source with
  | some matcher => return .pattern matcher source
  | none => refuse j (.notFormat .regex)

/-- Reads a contract inside, which may have a place of its own. -/
def readInside (read : PartReader) (standing : Standing) (j : Json) : Reading Contract := do
  -- References inside are seen from that place.
  let base ← baseInside standing.base j
  read { standing with base } j

/-- Reads the contracts of the known members. -/
def readKnown (read : PartReader) (standing : Standing) (j : Json) :
    Reading (List (String × Contract)) :=
  match j with
  | .object members => members.mapM fun (name, x) => return (name, ← readInside read standing x)
  | _ => refuseKind j [.object]

/-- Reads the demand on members that are not known, together with those on the known ones. -/
def readOthers (read : PartReader) (standing : Standing) (known? : Option Json) (j : Json) :
    Reading (List Contract) :=
  -- Without a demand the known members are left to themselves.
  match j with
  | .bool true => return []
  | .bool false => match known? with
    | some known => return [.closed (← readKnown read standing known)]
    | none => return [.noMembers]
  | j => do
    let known ← match known? with
      | some known => readKnown read standing known
      | none => pure []
    return [.others known (← readInside read standing j)]

/-- Reads the demands on the items of a list. -/
def readItems (read : PartReader) (standing : Standing) (j : Json) : Reading (List Contract) :=
  -- A list has a contract for each of the first items.
  match j with
  | .list xs => return [.firstItems (← xs.mapM (readInside read standing))]
  | .object _ => return [.items (← readInside read standing j)]
  | .bool false => return [.items .never]
  | _ => return []

/-- Follows a reference, and reads what it leads to if it is met for the first time. -/
def readReference (registry : Registry) (read : PartReader) (standing : Standing)
    (target : String) : Reading Contract := do
  -- The place is noted before it is read, since it may refer to itself.
  let place ← placeFrom standing.base target
  let progress ← get
  if progress.met.contains place then return .ref place.text
  set { progress with met := place :: progress.met }
  let contract ← match ← registry.find standing.base target with
    | .part base document => read { base, full := isFull document } document
    | .known home contract => do
      modify fun progress =>
        { progress with definitions := (home.text, contract) :: progress.definitions }
      pure contract
  modify fun progress =>
    { progress with definitions := (place.text, contract) :: progress.definitions }
  return .ref place.text

/-- Reads the demands of a member, given the members beside it. -/
def readMember (registry : Registry) (read : PartReader) (standing : Standing)
    (siblings : List (String × Json)) (name : String) (j : Json) : Reading (List Contract) := do
  -- Members without a demand are passed over.
  match name with
  | "$ref" => return [← readReference registry read standing (← textOf j)]
  | "format" => return ((Format.ofText? (← textOf j)).map .ofFormat).toList
  | _ =>
    if !standing.full then return []
    else match name with
      | "additionalProperties" => readOthers read standing (siblings.lookup "properties") j
      | "const" => return [.const j]
      | "enum" => return [.enum (← listItems j)]
      | "items" => readItems read standing j
      | "minItems" => return [.minItems (← countOf j)]
      | "minLength" => return [.minLength (← countOf j)]
      | "pattern" => return [← patternOf j]
      | "properties" => match siblings.lookup "additionalProperties" with
        | some (.bool false) => return []
        | some (.object _) => return []
        | _ => return [.properties (← readKnown read standing j)]
      | "required" => return [.required (← (← listItems j).mapM textOf)]
      | "type" => return [.kinds (← kindsOf j)]
      | "uniqueItems" => match j with
        | .bool true => return [.uniqueItems]
        | .bool false => return []
        | _ => refuseKind j [.boolean]
      | _ => return []

/-- Reads the demands that a part of a document writes, at most so many levels deep. -/
def readPart (registry : Registry) : (fuel : Nat) → PartReader
  -- A truth value allows everything or nothing.
  | 0, _, _ => return always
  | _ + 1, _, .bool true => return always
  | _ + 1, _, .bool false => return .never
  | fuel + 1, standing, .object members => do
    let demands ← members.mapM fun (name, j) =>
      readMember registry (readPart registry fuel) standing members name j
    return .all demands.flatten
  | _ + 1, _, j => refuseKind j [.boolean, .object]

/-- The number of levels that always suffices to read the documents of a registry. -/
def levelsFor (registry : Registry) : Nat :=
  -- Every reference is followed once from every base, and leads at most to the innermost part.
  let parts := registry.partCount + 1
  parts * parts * parts

/-- The contract that a document at a place writes. -/
def ofDocument (registry : Registry) (place : Uri) (document : Json) : Except Fault Schema := do
  -- What references led to is read together with the document.
  let standing : Standing := { base := place, full := isFull document }
  let reading := readInside (readPart registry (levelsFor registry)) standing document
  let (root, progress) ← reading.run { met := [], definitions := [] }
  return { root, definitions := progress.definitions }

end TemplateFacts.Contract

namespace TemplateFacts.Schema

/-- The contract that a document writes, given how other documents are fetched. -/
def ofJson (get : Uri → Except Contract.Absence Json) (document : Json) :
    Except Contract.Fault Schema := do
  -- The first violation of the contract for contracts is the fault.
  let place ← match Contract.idOf? document with
    | some id => Contract.placeOf id
    | none => .ok Contract.nowhereBase
  let registry ← Contract.Registry.ofDocument get place document
  match Contract.documentSchema.violations document with
  | violation :: _ => .error (.refused violation.subject violation.problem)
  | [] => Contract.ofDocument registry place document

/-- The contract that a text writes, given how other documents are fetched. -/
def ofText (get : Uri → Except Contract.Absence Json) (s : String) :
    Except Contract.Fault Schema :=
  -- A text that is no document is told apart.
  match Json.ofText s with
  | .error fault => .error (.notJson fault)
  | .ok document => ofJson get document

end TemplateFacts.Schema

namespace TemplateFacts

namespace Contract

/-- A place as it is asked for over a network. -/
def requested (place : Uri) : Uri :=
  -- An empty path is that of the root, and the usual port need not be said.
  let usual := if place.scheme == some "https" then "443" else "80"
  { place with
    path := if place.path == "" then "/" else place.path
    authority := place.authority.map fun authority =>
      { authority with port := authority.port.filter (· != usual) } }

/-- Fetches the document at a place. -/
def fetch (cwd : Path) (tree : FileTree) (place : Uri) : Except Absence Json :=
  -- Only files are at hand, and nobody answers over the network.
  match place.scheme with
  | some "file" =>
    match tree.fileAt cwd ⟨place.path⟩ with
    | .error e => .error (.unreadable e)
    | .ok (bytes, _) => (Json.ofBytes bytes).mapError .malformed
  | some "http" => .error (.unanswered (requested place))
  | some "https" => .error (.unanswered (requested place))
  | scheme => .error (.unknownScheme (scheme.getD ""))

end Contract

namespace Schema

/-- The contract that a text writes, other documents being those of a tree. -/
def read (cwd : Path) (tree : FileTree) (s : String) : Except Error Schema :=
  -- The fault is told in words.
  (ofText (Contract.fetch cwd tree) s).mapError fun fault => .schema fault.message

/-- The contract that a file writes. -/
def load (cwd file : Path) (tree : FileTree) : Except Error Schema :=
  -- The file is named only when it cannot be read.
  match tree.textAt cwd file with
  | .error fault => .error (.schema s!"cannot read {file.text}: {fault.message}")
  | .ok text => read cwd tree text

end Schema

end TemplateFacts
