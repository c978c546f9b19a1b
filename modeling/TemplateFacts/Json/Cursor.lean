import TemplateFacts.Json.Fault

/-! A place in a text that is being read. -/

namespace TemplateFacts.Json

/-- The line, counted from one, and the number of bytes before a place on its line. -/
structure Position where
  line : Nat
  column : Nat
deriving DecidableEq, Repr

/-- The position behind a byte. -/
def Position.after (position : Position) (b : UInt8) : Position :=
  -- A line feed opens a line.
  if b == 0x0A then ⟨position.line + 1, 0⟩ else ⟨position.line, position.column + 1⟩

/-- The position behind some bytes. -/
def Position.afterAll (position : Position) (bytes : List UInt8) : Position :=
  -- The bytes are passed one by one.
  bytes.foldl Position.after position

/-- The bytes that are still to be read, and their position. -/
structure Cursor where
  rest : List UInt8
  position : Position
deriving DecidableEq, Repr

/-- What is read, with the place behind it. -/
abbrev Reading (α : Type) := Except Fault (α × Cursor)

namespace Cursor

/-- The beginning of a text. -/
def ofBytes (bytes : List UInt8) : Cursor := ⟨bytes, 1, 0⟩

/-- The place behind the next byte, or the same place at the end. -/
def next (c : Cursor) : Cursor :=
  -- Nothing follows the end.
  match c.rest with
  | [] => c
  | b :: rest => ⟨rest, c.position.after b⟩

/-- The place behind some bytes that hold no line feed. -/
def past (c : Cursor) (width : Nat) : Cursor :=
  -- Only the column grows.
  ⟨c.rest.drop width, c.position.line, c.position.column + width⟩

/-- The fault of a cause at this place. -/
def fault (c : Cursor) (cause : Cause) : Fault :=
  -- What was read so far ends here.
  ⟨cause, some (c.position.line, c.position.column)⟩

/-- A failure at this place. -/
def fail {α : Type} (c : Cursor) (cause : Cause) : Except Fault α := .error (c.fault cause)

/-- A failure at the next byte, which counts as read. -/
def failNext {α : Type} (c : Cursor) (cause : Cause) : Except Fault α := .error (c.next.fault cause)

end Cursor

/-- A blank of the grammar: space, line feed, tab or carriage return. -/
def isSpace (b : UInt8) : Bool := b == 0x20 || b == 0x0A || b == 0x09 || b == 0x0D

/-- The place behind the blanks at a position. -/
def spaceFrom (position : Position) : List UInt8 → Cursor
  -- The first byte that is no blank stays.
  | [] => ⟨[], position⟩
  | b :: rest => if isSpace b then spaceFrom (position.after b) rest else ⟨b :: rest, position⟩

/-- The place behind the blanks at a place. -/
def Cursor.skipSpace (c : Cursor) : Cursor := spaceFrom c.position c.rest

end TemplateFacts.Json
