import TemplateFacts.Text.Address
import TemplateFacts.Uri.Basic

/-! References read from text. -/

namespace TemplateFacts.Uri

/-- The signs, besides letters and digits, that are written as they are anywhere. -/
def isPlainSign (c : Char) : Bool := c == '-' || c == '.' || c == '_' || c == '~'

/-- A character that never needs to be escaped. -/
def isUnreserved (c : Char) : Bool := c.isAlphanum || isPlainSign c

/-- A sign that may separate parts of a part. -/
def isSubDelimiter (c : Char) : Bool := "!$&'()*+,;=".toList.contains c

/-- A character of a scheme. -/
def isSchemeChar (c : Char) : Bool := c.isAlphanum || c == '+' || c == '-' || c == '.'

/-- The code points that references beyond ASCII admit. -/
def wideRanges : List (Nat × Nat) :=
  [(0xA0, 0xD7FF), (0xF900, 0xFDCF), (0xFDF0, 0xFFEF)]
    ++ ((List.range 14).map fun k => (0x10000 * (k + 1), 0x10000 * (k + 1) + 0xFFFD)).map
      fun (first, last) => (if first == 0xE0000 then 0xE1000 else first, last)

/-- The code points that queries beyond ASCII admit too. -/
def privateRanges : List (Nat × Nat) :=
  [(0xE000, 0xF8FF), (0xF0000, 0xFFFFD), (0x100000, 0x10FFFD)]

/-- A character of a name of a host. -/
def isHostChar (wide : Bool) (c : Char) : Bool :=
  isUnreserved c || isSubDelimiter c
    || (wide && wideRanges.any fun (first, last) => first ≤ c.toNat && c.toNat ≤ last)

/-- A character of a path. -/
def isPathChar (wide : Bool) (c : Char) : Bool :=
  isHostChar wide c || c == ':' || c == '@' || c == '/'

/-- A character of a fragment. -/
def isFragmentChar (wide : Bool) (c : Char) : Bool := isPathChar wide c || c == '?'

/-- A character of a query. -/
def isQueryChar (wide : Bool) (c : Char) : Bool :=
  isFragmentChar wide c
    || (wide && privateRanges.any fun (first, last) => first ≤ c.toNat && c.toNat ≤ last)

/-- A place in a text: how many bytes precede it, and what follows. -/
structure Cursor where
  index : Nat
  rest : List Char

namespace Cursor

/-- The place behind some characters that follow. -/
def pass (cursor : Cursor) (cs : List Char) (rest : List Char) : Cursor :=
  -- Characters count by their bytes.
  ⟨cursor.index + (String.ofList cs).utf8ByteSize, rest⟩

/-- The fault at the place. -/
def fault {α : Type} (cursor : Cursor) (flaw : Flaw) : Except Fault α :=
  .error ⟨flaw, cursor.index⟩

end Cursor

/-- The characters that the test allows and the escapes at the front, and the rest. -/
def spanChars (allowed : Char → Bool) (index : Nat) :
    List Char → Except Fault (List Char × List Char)
  -- A percent sign must begin an escape.
  | [] => .ok ([], [])
  | '%' :: a :: b :: rest =>
    if (Text.hexByte? a b).isSome then
      (spanChars allowed (index + 3) rest).map fun (part, rest) => ('%' :: a :: b :: part, rest)
    else .error ⟨.badOctet, index⟩
  | '%' :: _ => .error ⟨.badOctet, index⟩
  | c :: rest =>
    if allowed c then
      (spanChars allowed (index + c.utf8Size) rest).map fun (part, rest) => (c :: part, rest)
    else .ok ([], c :: rest)

/-- Reads the characters that the test allows and escapes. -/
def readPart (allowed : Char → Bool) (cursor : Cursor) :
    Except Fault (List Char × Cursor) := do
  -- Where they end is no fault yet.
  let (part, rest) ← spanChars allowed cursor.index cursor.rest
  return (part, cursor.pass part rest)

/-- Reads a part behind its mark, if the mark is there. -/
def readMarked (mark : Char) (allowed : Char → Bool) (cursor : Cursor) :
    Except Fault (Option String × Cursor) :=
  match cursor.rest with
  | c :: rest =>
    if c == mark then do
      let (part, cursor) ← readPart allowed (cursor.pass [c] rest)
      return (some (String.ofList part), cursor)
    else return (none, cursor)
  | [] => return (none, cursor)

/-- A text between square brackets that names a host by its address. -/
def isAddress (cs : List Char) : Bool :=
  -- Future forms begin with a letter and a number.
  match cs with
  | v :: rest =>
    if v == 'v' || v == 'V' then
      let (version, rest) := rest.span fun c => (Text.hexValue? c).isSome
      !version.isEmpty && match rest with
        | '.' :: body =>
          !body.isEmpty && body.all fun c => isUnreserved c || isSubDelimiter c || c == ':'
        | _ => false
    else Text.isGroupedAddress cs
  | [] => false

/-- Reads a port, if there is one. -/
def readPort (cursor : Cursor) : Option String × Cursor :=
  -- A port may have no digits.
  match cursor.rest with
  | ':' :: rest =>
    let (digits, behind) := rest.span Char.isDigit
    (some (String.ofList digits), cursor.pass (':' :: digits) behind)
  | _ => (none, cursor)

/-- Reads an address between square brackets, if there is one. -/
def readAddress (cursor : Cursor) : Except Fault (Option String × Cursor) :=
  match cursor.rest with
  | '[' :: rest =>
    let (body, behind) := rest.span (· != ']')
    match behind with
    | ']' :: behind =>
      let literal := '[' :: body ++ [']']
      if isAddress body then .ok (some (String.ofList literal), cursor.pass literal behind)
      else cursor.fault .badAddress
    | _ => cursor.fault .badAddress
  | _ => .ok (none, cursor)

/-- Reads a host and a port behind the name of who asks. -/
def readHost (wide : Bool) (user : Option String) (cursor : Cursor) :
    Except Fault (Authority × Cursor) := do
  -- A host is an address or a name.
  let (address, behind) ← readAddress cursor
  let (host, behind) ← match address with
    | some host => .ok (host, behind)
    | none => do
      let (name, behind) ← readPart (isHostChar wide) cursor
      .ok (String.ofList name, behind)
  let (port, behind) := readPort behind
  return (⟨user, host, port⟩, behind)

/-- Cuts a host from the port behind the colon, if there is one. -/
def cutPort (start : Cursor) (part : List Char) : Except Fault (String × Option String) :=
  match Text.splitChars (· == ':') part with
  | [host] => .ok (String.ofList host, none)
  | [host, port] =>
    -- The port holds digits only.
    let (digits, behind) := port.span Char.isDigit
    if behind.isEmpty then .ok (String.ofList host, some (String.ofList digits))
    else (start.pass (host ++ ':' :: digits) []).fault .unexpected
  | pieces =>
    let before := pieces.dropLast.flatten ++ List.replicate (pieces.length - 2) ':'
    (start.pass before []).fault .unexpected

/-- Reads an authority, which two slashes precede. -/
def readAuthority (wide : Bool) (cursor : Cursor) : Except Fault (Authority × Cursor) := do
  -- An at sign tells that what was read is the name of who asks.
  let (part, behind) ← readPart (fun c => isHostChar wide c || c == ':') cursor
  match behind.rest with
  | '@' :: rest => readHost wide (some (String.ofList part)) (behind.pass ['@'] rest)
  | _ =>
    if part.isEmpty then readHost wide none cursor
    else do
      let (host, port) ← cutPort cursor part
      return (⟨none, host, port⟩, behind)

/-- Reads what follows the path, which must be all that is left. -/
def readEnd (wide : Bool) (scheme : Option String) (authority : Option Authority)
    (path : List Char) (cursor : Cursor) : Except Fault Uri := do
  -- The query comes first.
  let (query, cursor) ← readMarked '?' (isQueryChar wide) cursor
  let (fragment, cursor) ← readMarked '#' (isFragmentChar wide) cursor
  if cursor.rest.isEmpty then return ⟨scheme, authority, String.ofList path, query, fragment⟩
  else cursor.fault .unexpected

/-- Reads the authority, if there is one, and all that follows. -/
def readHierarchy (wide : Bool) (scheme : Option String) (cursor : Cursor) : Except Fault Uri :=
  -- Behind an authority a path begins with a slash.
  match cursor.rest with
  | '/' :: '/' :: rest => do
    let (authority, behind) ← readAuthority wide (cursor.pass ['/', '/'] rest)
    let (path, past) ← readPart (isPathChar wide) behind
    if path.isEmpty || path.head? == some '/' then readEnd wide scheme (some authority) path past
    else behind.fault .unexpected
  | _ => do
    let (path, behind) ← readPart (isPathChar wide) cursor
    readEnd wide scheme none path behind

/-- Reads a reference, which may go beyond ASCII if it is a wide one. -/
def read (wide : Bool) (s : String) : Except Fault Uri :=
  -- Only a colon tells that a scheme was read.
  let start : Cursor := ⟨0, s.toList⟩
  let (name, rest) := start.rest.span isSchemeChar
  match rest with
  | ':' :: behind =>
    if name.head?.any Char.isAlpha then
      readHierarchy wide (some (String.ofList name)) (start.pass (name ++ [':']) behind)
    else start.fault .unexpected
  | _ =>
    if name.isEmpty then readHierarchy wide none start
    else do
      let (path, cursor) ← readPart (fun c => isPathChar wide c && c != '/' && c != ':') start
      if cursor.rest.head? == some ':' then cursor.fault .unexpected
      else do
        let (others, cursor) ← readPart (isPathChar wide) cursor
        readEnd wide none none (path ++ others) cursor

/-- Reads a reference within ASCII. -/
def ofText (s : String) : Except Fault Uri := read false s

end TemplateFacts.Uri
