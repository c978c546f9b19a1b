import TemplateFacts.Json.Reader

/-!
Shapes of records: what a document must look like to be read as a record of known fields.

A shape is applied to a document, or straight to a text. Both give the document restricted to the
known fields, or the same cause of failure.
-/

namespace TemplateFacts.Json

/-- What stands for a field that is absent. -/
inductive Absence where
  /-- The field must be present. -/
  | refused
  /-- The record is left without the field. -/
  | omitted
  /-- A document takes the place of the field. -/
  | replaced (value : Json)
deriving Inhabited

/-- The form of a document. -/
inductive Shape where
  /-- Any document. -/
  | any
  | text
  | flag
  /-- An integer of 64 bits with a sign. -/
  | integer
  /-- Either null or a document of the shape. -/
  | optional (inner : Shape)
  | list (items : Shape)
  /-- An object of any members. -/
  | table
  /-- An object with known fields, or a list of their values in order. -/
  | record (name : String) (fields : List (String × (Absence × Shape)))
deriving Inhabited

/-- What a shape expects, in words. -/
def Shape.expected : Shape → String
  -- An optional document is missed as what it would be if present.
  | .any => "any value"
  | .text => "a string"
  | .flag => "a boolean"
  | .integer => "i64"
  | .optional inner => inner.expected
  | .list _ => "a sequence"
  | .table => "a map"
  | .record name _ => s!"struct {name}"

/-- How a list that is too short for a record is refused. -/
def recordLength (name : String) (count : Nat) : String :=
  -- One field is an element, and any other number of them are elements.
  let noun := if count == 1 then "element" else "elements"
  s!"struct {name} with {count} {noun}"

/-- Gives the absent fields of a record their stand-ins, in the order of the fields. -/
def completeRecord {α : Type} (seen : List (String × Json)) :
    List (String × (Absence × α)) → Except Cause (List (String × Json))
  -- The first missing field is reported.
  | [] => .ok []
  | (name, absence, _) :: fields =>
    match seen.lookup name, absence with
    | some value, _ => (completeRecord seen fields).map ((name, value) :: ·)
    | none, .refused => .error (.missingField name)
    | none, .omitted => completeRecord seen fields
    | none, .replaced value => (completeRecord seen fields).map ((name, value) :: ·)

/-- What a document is found to be. -/
def found : Json → Found
  -- Composite documents are only named.
  | .null => .null
  | .bool b => .bool b
  | .int n => .int n
  | .float x => .float x
  | .text s => .text s
  | .list _ => .list
  | .object _ => .object

/-- A document fits where an integer of 64 bits is expected. -/
def fitInteger (j : Json) : Except Cause Json :=
  -- Integers above the range are refused by value, and all else by type.
  match j with
  | .int n => if n ≤ greatestSigned then .ok j else .error (.invalidValue (.int n) "i64")
  | j => .error (.invalidType (found j) "i64")

/-- Applies a check to each document of a list. -/
def fitItems (check : Json → Except Cause Json) : List Json → Except Cause (List Json)
  -- The first failure is reported.
  | [] => .ok []
  | x :: xs => do
    let y ← check x
    let ys ← fitItems check xs
    return y :: ys

/-- A check of a document against what a field expects. -/
abbrev FieldCheck := String × (Absence × (Json → Except Cause Json))

/-- Applies the checks of known fields to the members of an object, in their order. -/
def fitMembers (checks : List FieldCheck) (seen : List (String × Json)) :
    List (String × Json) → Except Cause (List (String × Json))
  -- Unknown members are passed over.
  | [] => .ok seen
  | (name, x) :: members =>
    match checks.lookup name with
    | none => fitMembers checks seen members
    | some (_, check) =>
      if (seen.lookup name).isSome then .error (.duplicateField name)
      else do
        let y ← check x
        fitMembers checks (seen ++ [(name, y)]) members

/-- Applies the checks of known fields to the items of a list, in the order of the fields. -/
def fitSequence (record : String) (count index : Nat) :
    List FieldCheck → List Json → Except Cause (List (String × Json) × List Json)
  -- Items behind the last field are left over.
  | [], items => .ok ([], items)
  | (name, _, check) :: checks, x :: items => do
    let y ← check x
    let (fitted, rest) ← fitSequence record count (index + 1) checks items
    return ((name, y) :: fitted, rest)
  | (name, absence, _) :: checks, [] =>
    match absence with
    | .refused => .error (.invalidLength index (recordLength record count))
    | .omitted => fitSequence record count (index + 1) checks []
    | .replaced value =>
      (fitSequence record count (index + 1) checks []).map fun (fitted, rest) =>
        ((name, value) :: fitted, rest)

/-- Applies the checks of a record to a document. -/
def fitRecord (name : String) (checks : List FieldCheck) (j : Json) : Except Cause Json :=
  -- The whole length of a list that is too long is reported.
  match j with
  | .object members => do
    let seen ← fitMembers checks [] members
    let complete ← completeRecord seen checks
    return .object complete
  | .list items => do
    let (fitted, rest) ← fitSequence name checks.length 0 checks items
    if rest.isEmpty then return .object fitted
    else .error (.invalidLength items.length "fewer elements in array")
  | j => .error (.invalidType (found j) s!"struct {name}")

mutual
/-- The document restricted to what the shape knows, or the first cause why it does not fit. -/
def Shape.fit : Shape → Json → Except Cause Json
  -- Composite documents are taken apart in order.
  | .any => fun j => .ok j
  | .text => fun j => match j with
    | .text s => .ok (.text s)
    | j => .error (.invalidType (found j) "a string")
  | .flag => fun j => match j with
    | .bool b => .ok (.bool b)
    | j => .error (.invalidType (found j) "a boolean")
  | .integer => fitInteger
  | .optional inner => fun j => match j with
    | .null => .ok .null
    | j => inner.fit j
  | .list items => fun j => match j with
    | .list xs => (fitItems items.fit xs).map .list
    | j => .error (.invalidType (found j) "a sequence")
  | .table => fun j => match j with
    | .object members => .ok (.object members)
    | j => .error (.invalidType (found j) "a map")
  | .record name fields => fitRecord name (Shape.fitFields fields)
termination_by structural shape => shape

/-- The checks of the fields. -/
def Shape.fitFields : List (String × (Absence × Shape)) → List FieldCheck
  -- Each field is checked against its own shape.
  | [] => []
  | field :: fields => Shape.fitField field :: Shape.fitFields fields
termination_by structural fields => fields

/-- The check of a field. -/
def Shape.fitField : String × (Absence × Shape) → FieldCheck
  -- The name is kept.
  | (name, rest) => (name, Shape.fitPresence rest)
termination_by structural field => field

/-- The check of a field behind its name. -/
def Shape.fitPresence : Absence × Shape → Absence × (Json → Except Cause Json)
  -- What stands for an absent field is kept.
  | (absence, shape) => (absence, shape.fit)
termination_by structural field => field
end

/-- Reads a document of a shape at a place, given the depth that is left. -/
abbrev Reader := (depth : Nat) → Cursor → Except Fault (Json × Cursor)

/-- A reader of what a field expects. -/
abbrev FieldReader := String × (Absence × Reader)

/-- Refuses what stands at a place, where something else is expected. -/
def refuse (expected : String) (c : Cursor) : Fault :=
  -- Scalars are read to be shown, and brackets stay unread.
  match c.rest with
  | [] => c.fault .expectedValue
  | b :: _ =>
    if b == 0x5B then c.fault (.invalidType .list expected)
    else if b == 0x7B then c.fault (.invalidType .object expected)
    else match readScalar c with
      | .ok (j, c) => c.fault (.invalidType (found j) expected)
      | .error fault => fault

/-- Reads a scalar of the accepted first bytes, and refuses all else. -/
def readKind (starts : UInt8 → Bool) (check : Json → Except Cause Json) (expected : String)
    (c : Cursor) : Reading Json :=
  -- A scalar that does not fit is refused behind it.
  let c := c.skipSpace
  match c.rest with
  | [] => c.fail .endOfValue
  | b :: _ =>
    if starts b then
      match readScalar c with
      | .error fault => .error fault
      | .ok (j, c) =>
        match check j with
        | .ok j => .ok (j, c)
        | .error cause => c.fail cause
    else .error (refuse expected c)

/-- The place behind the closing byte if it is next, and else behind the blanks before it. -/
def skipCloser (closer : UInt8) (c : Cursor) : Cursor :=
  -- A record that is refused is still read to its end when the end is near.
  let c := c.skipSpace
  match c.rest with
  | b :: _ => if b == closer then c.next else c
  | [] => c

/-- Reads the members of a record whose brace has been read, up to the closing brace. -/
def readFields (total : Nat) (readers : List FieldReader) (depth : Nat) :
    (budget : Nat) → (first : Bool) → (seen : List (String × Json)) → Cursor →
      Except Fault (List (String × Json) × Cursor)
  -- A known field that comes twice is refused right behind its second name.
  | 0, _, _, c => c.fail .endOfObject
  | budget + 1, first, seen, c => do
    let (name?, c) ← nextName first c
    match name? with
    | none => return (seen, c)
    | some name =>
      match readers.lookup name with
      | none =>
        let c ← readColon c
        let c ← skipValue total c
        readFields total readers depth budget false seen c
      | some (_, read) =>
        if (seen.lookup name).isSome then (skipCloser 0x7D c).fail (.duplicateField name)
        else
          let c ← readColon c
          let (x, c) ← read depth c
          readFields total readers depth budget false (seen ++ [(name, x)]) c

/-- Reads the items of a record given as a list whose bracket has been read. -/
def readSequence (record : String) (count index depth : Nat) (first : Bool) :
    List FieldReader → Cursor → Except Fault (List (String × Json) × Cursor)
  -- A missing item is reported behind the closing bracket.
  | [], c => .ok ([], c)
  | (name, absence, read) :: readers, c => do
    let (c, more) ← nextItem first c
    if more then
      let (x, c) ← read depth c
      let (xs, c) ← readSequence record count (index + 1) depth false readers c
      return ((name, x) :: xs, c)
    else match absence with
      | .refused => (skipCloser 0x5D c).fail (.invalidLength index (recordLength record count))
      | .omitted => readSequence record count (index + 1) depth first readers c
      | .replaced value =>
        let (xs, c) ← readSequence record count (index + 1) depth first readers c
        return ((name, value) :: xs, c)

/-- Reads the bracket that closes a record given as a list. -/
def readSequenceEnd (c : Cursor) : Except Fault Cursor :=
  -- Further items are refused.
  let c := c.skipSpace
  match c.rest with
  | [] => c.fail .endOfList
  | b :: _ =>
    if b == 0x5D then .ok c.next
    else if b == 0x2C then
      let c := c.next.skipSpace
      match c.rest with
      | b :: _ => c.failNext (if b == 0x5D then .trailingComma else .trailingCharacters)
      | [] => c.fail .trailingCharacters
    else c.failNext .trailingCharacters

/-- Reads a record. -/
def readRecord (budget : Nat) (name : String) (readers : List FieldReader) : Reader :=
  fun depth c =>
    -- Its bracket or brace takes one from the depth.
    let c := c.skipSpace
    match c.rest with
    | [] => c.fail .endOfValue
    | b :: _ =>
      if b == 0x5B then
        match depth with
        | 0 => c.failNext .tooDeep
        | depth + 1 => do
          let (fields, c) ← readSequence name readers.length 0 depth true readers c.next
          let c ← readSequenceEnd c
          return (.object fields, c)
      else if b == 0x7B then
        match depth with
        | 0 => c.failNext .tooDeep
        | depth + 1 => do
          let (seen, c) ← readFields budget readers depth budget true [] c.next
          match completeRecord seen readers with
          | .ok complete => return (.object complete, c.next)
          | .error cause => (skipCloser 0x7D c).fail cause
      else .error (refuse s!"struct {name}" c)

/-- Reads a list of documents of one kind, or an object of any members. -/
def readEnclosed (opener : UInt8) (expected : String)
    (inside : (depth : Nat) → Cursor → Reading Json) : Reader :=
  fun depth c =>
    -- Its bracket or brace takes one from the depth.
    let c := c.skipSpace
    match c.rest with
    | [] => c.fail .endOfValue
    | b :: _ =>
      if b == opener then
        match depth with
        | 0 => c.failNext .tooDeep
        | depth + 1 => inside depth c.next
      else .error (refuse expected c)

/-- Reads null, or else what the reader reads. -/
def readOptional (read : Reader) : Reader :=
  fun depth c =>
    -- The first letter decides.
    let c := c.skipSpace
    match c.rest with
    | b :: _ =>
      if b == 0x6E then (readIdent nullTail c.next).map fun c => (.null, c) else read depth c
    | [] => read depth c

mutual
/-- The reader of a shape. -/
def Shape.reader (budget : Nat) : Shape → Reader
  -- Composite shapes are read through the readers of their parts.
  | .any => readValue budget
  | .text => fun _ => readKind (· == 0x22) .ok "a string"
  | .flag => fun _ => readKind (fun b => b == 0x74 || b == 0x66) .ok "a boolean"
  | .integer => fun _ => readKind (fun b => b == 0x2D || isDigit b) fitInteger "i64"
  | .optional inner => readOptional (inner.reader budget)
  | .list items =>
    readEnclosed 0x5B "a sequence" fun depth c =>
      (readItems (items.reader budget depth) budget true c).map fun (xs, c) => (.list xs, c.next)
  | .table =>
    readEnclosed 0x7B "a map" fun depth c =>
      (readMembers (readValue budget depth) budget true c).map fun (ms, c) => (ofMembers ms, c.next)
  | .record name fields => readRecord budget name (Shape.fieldReaders budget fields)
termination_by structural shape => shape

/-- The readers of the fields. -/
def Shape.fieldReaders (budget : Nat) : List (String × (Absence × Shape)) → List FieldReader
  -- Each field is read by its own shape.
  | [] => []
  | field :: fields => Shape.fieldReader budget field :: Shape.fieldReaders budget fields
termination_by structural fields => fields

/-- The reader of a field. -/
def Shape.fieldReader (budget : Nat) : String × (Absence × Shape) → FieldReader
  -- The name is kept.
  | (name, rest) => (name, Shape.presenceReader budget rest)
termination_by structural field => field

/-- The reader of a field behind its name. -/
def Shape.presenceReader (budget : Nat) : Absence × Shape → Absence × Reader
  -- What stands for an absent field is kept.
  | (absence, shape) => (absence, shape.reader budget)
termination_by structural field => field
end

/-- The document of a shape that some bytes say. -/
def Shape.ofBytes (shape : Shape) (bytes : List UInt8) : Except Fault Json :=
  -- Reading starts at the first line.
  finish (shape.reader (budgetFor bytes) greatestDepth (Cursor.ofBytes bytes))

/-- The document of a shape that a document is. -/
def Shape.ofJson (shape : Shape) (j : Json) : Except Fault Json :=
  -- There is no text, and so there are no positions.
  match shape.fit j with
  | .ok j => .ok j
  | .error cause => .error ⟨cause, none⟩

/-- Reads a document as a record. -/
def Shape.decode {α : Type} (shape : Shape) (ofRecord : Json → α) (j : Json) :
    Except Fault α :=
  -- The record is formed from what the shape knows.
  (shape.ofJson j).map ofRecord

end TemplateFacts.Json
