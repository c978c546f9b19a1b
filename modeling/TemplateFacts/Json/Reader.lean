import TemplateFacts.Json.Lexeme

/-! Documents read from text. -/

namespace TemplateFacts.Json

/-- The greatest depth to which lists and objects may be nested. -/
def greatestDepth : Nat := 127

/-- Finds the next item of a list: its place, or the place behind the end of the list. -/
def nextItem (first : Bool) (c : Cursor) : Except Fault (Cursor × Bool) :=
  -- A comma stands between two items and nowhere else.
  let c := c.skipSpace
  match c.rest with
  | [] => c.fail .endOfList
  | b :: _ =>
    if b == 0x5D then .ok (c, false)
    else if first then .ok (c, true)
    else if b == 0x2C then
      let c := c.next.skipSpace
      match c.rest with
      | [] => c.fail .endOfValue
      | b :: _ => if b == 0x5D then c.failNext .trailingComma else .ok (c, true)
    else c.failNext .expectedItemEnd

/-- Reads the items of a list whose bracket has been read, up to the closing bracket. -/
def readItems {α : Type} (item : Cursor → Reading α) :
    (budget : Nat) → (first : Bool) → Cursor → Except Fault (List α × Cursor)
  -- Every item takes a byte of the budget.
  | 0, _, c => c.fail .endOfList
  | budget + 1, first, c => do
    let (c, more) ← nextItem first c
    if more then
      let (x, c) ← item c
      let (xs, c) ← readItems item budget false c
      return (x :: xs, c)
    else return ([], c)

/-- Finds the next member of an object and reads its name, or stays at the closing brace. -/
def nextName (first : Bool) (c : Cursor) : Reading (Option String) :=
  -- A comma stands between two members and nowhere else.
  let c := c.skipSpace
  let name (c : Cursor) : Reading (Option String) :=
    match c.rest with
    | [] => c.fail .endOfValue
    | b :: _ =>
      if b == 0x22 then (readText c.next).map fun (s, c) => (some s, c)
      else if b == 0x7D then c.failNext .trailingComma
      else c.failNext .nameNotText
  match c.rest with
  | [] => c.fail .endOfObject
  | b :: _ =>
    if b == 0x7D then .ok (none, c)
    else if first then name c
    else if b == 0x2C then name c.next.skipSpace
    else c.failNext .expectedMemberEnd

/-- Reads the colon behind a name. -/
def readColon (c : Cursor) : Except Fault Cursor :=
  -- Blanks may stand before it.
  let c := c.skipSpace
  match c.rest with
  | [] => c.fail .endOfObject
  | b :: _ => if b == 0x3A then .ok c.next else c.failNext .expectedColon

/-- Reads the members of an object whose brace has been read, up to the closing brace. -/
def readMembers {α : Type} (value : Cursor → Reading α) :
    (budget : Nat) → (first : Bool) → Cursor → Except Fault (List (String × α) × Cursor)
  -- Every member takes a byte of the budget.
  | 0, _, c => c.fail .endOfObject
  | budget + 1, first, c => do
    let (found, c) ← nextName first c
    match found with
    | none => return ([], c)
    | some name =>
      let c ← readColon c
      let (x, c) ← value c
      let (xs, c) ← readMembers value budget false c
      return ((name, x) :: xs, c)

/-- Reads a document, given how to read the documents inside it if it may hold any. -/
def readNode (budget : Nat) (inner : Option (Cursor → Reading Json)) (c : Cursor) :
    Reading Json :=
  -- The closing bracket or brace is next when the items or members end.
  let c := c.skipSpace
  match c.rest with
  | [] => c.fail .endOfValue
  | b :: _ =>
    if b == 0x5B then
      match inner with
      | none => c.failNext .tooDeep
      | some read => (readItems read budget true c.next).map fun (items, c) => (.list items, c.next)
    else if b == 0x7B then
      match inner with
      | none => c.failNext .tooDeep
      | some read =>
        (readMembers read budget true c.next).map fun (members, c) => (ofMembers members, c.next)
    else readScalar c

/-- Reads a document that nests no deeper than the given depth. -/
def readValue (budget : Nat) : (depth : Nat) → Cursor → Reading Json
  -- Each bracket and brace takes one from the depth.
  | 0 => readNode budget none
  | depth + 1 => readNode budget (some (readValue budget depth))

mutual
/-- Passes a document of any depth. -/
def skipValue : (budget : Nat) → Cursor → Except Fault Cursor
  -- Each step takes a byte of the budget.
  | 0, c => c.fail .endOfValue
  | budget + 1, c =>
    let c := c.skipSpace
    match c.rest with
    | [] => c.fail .endOfValue
    | b :: _ =>
      if b == 0x6E then readIdent nullTail c.next
      else if b == 0x74 then readIdent trueTail c.next
      else if b == 0x66 then readIdent falseTail c.next
      else if b == 0x2D then skipNumber c.next
      else if isDigit b then skipNumber c
      else if b == 0x22 then skipTextFrom c.next.position c.next.rest
      else if b == 0x5B then skipItems budget true c.next
      else if b == 0x7B then skipMembers budget true c.next
      else c.failNext .expectedValue

/-- Passes the items of a list and its closing bracket. -/
def skipItems : (budget : Nat) → (first : Bool) → Cursor → Except Fault Cursor
  -- A comma must be followed by a document.
  | 0, _, c => c.fail .endOfList
  | budget + 1, first, c =>
    let c := c.skipSpace
    match c.rest with
    | [] => c.fail .endOfList
    | b :: _ =>
      if b == 0x5D then .ok c.next
      else if first || b == 0x2C then do
        let c ← skipValue budget (if first then c else c.next)
        skipItems budget false c
      else c.failNext .expectedItemEnd

/-- Passes the members of an object and its closing brace. -/
def skipMembers : (budget : Nat) → (first : Bool) → Cursor → Except Fault Cursor
  -- A comma must be followed by a name.
  | 0, _, c => c.fail .endOfObject
  | budget + 1, first, c =>
    let c := c.skipSpace
    match c.rest with
    | [] => c.fail .endOfObject
    | b :: _ =>
      if b == 0x7D then .ok c.next
      else if first || b == 0x2C then
        let c := if first then c else c.next.skipSpace
        match c.rest with
        | [] => c.fail .endOfObject
        | b :: _ =>
          if b == 0x22 then do
            let c ← skipTextFrom c.next.position c.next.rest
            let c ← readColon c
            let c ← skipValue budget c
            skipMembers budget false c
          else c.failNext .nameNotText
      else c.failNext .expectedMemberEnd
end

/-- The number of reading steps that always suffices for some bytes. -/
def budgetFor (bytes : List UInt8) : Nat := 2 * bytes.length + 2

/-- Demands that only blanks follow. -/
def finish {α : Type} (reading : Reading α) : Except Fault α := do
  -- One document makes up the whole text.
  let (x, c) ← reading
  let c := c.skipSpace
  match c.rest with
  | [] => return x
  | _ :: _ => c.failNext .trailingCharacters

/-- The document that some bytes say. -/
def ofBytes (bytes : List UInt8) : Except Fault Json :=
  -- Reading starts at the first line.
  finish (readValue (budgetFor bytes) greatestDepth (Cursor.ofBytes bytes))

/-- The document that a text says. -/
def ofText (s : String) : Except Fault Json :=
  -- The grammar is one of bytes.
  ofBytes (Utf8.encode s)

end TemplateFacts.Json
