/-! Text as bytes: UTF-8 written, read strictly, and read with replacement of what is broken. -/

namespace TemplateFacts.Utf8

/-- The bytes of a text. -/
def encode (s : String) : List UInt8 :=
  -- Each character is encoded on its own.
  s.toList.flatMap String.utf8EncodeChar

/-- How a byte string that is not empty begins. -/
inductive Head where
  /-- The bytes of one character. -/
  | scalar (value : Char) (width : Nat)
  /-- Bytes that no continuation can complete. -/
  | broken (width : Nat)
  /-- The beginning of a character, cut off by the end of the bytes. -/
  | cut (width : Nat)
deriving DecidableEq

/-- A byte that continues a character. -/
def isContinuation (b : UInt8) : Bool :=
  -- These are the bytes whose two high bits are one and zero.
  0x80 ≤ b && b ≤ 0xBF

/-- The value of the low six bits. -/
def low6 (b : UInt8) : Nat :=
  -- A continuation byte carries six bits.
  b.toNat % 64

/-- The range of the second byte after each first byte of a longer character. -/
def secondRange (first : UInt8) : UInt8 × UInt8 :=
  -- The narrowed ranges keep out overlong forms, surrogates and values past the last code point.
  if first == 0xE0 then (0xA0, 0xBF)
  else if first == 0xED then (0x80, 0x9F)
  else if first == 0xF0 then (0x90, 0xBF)
  else if first == 0xF4 then (0x80, 0x8F)
  else (0x80, 0xBF)

/-- Reads the first character of the bytes that begin with the given one. -/
def head (first : UInt8) (rest : List UInt8) : Head :=
  -- The first byte fixes the width, and the first byte that does not fit ends a broken sequence.
  if first < 0x80 then .scalar (Char.ofNat first.toNat) 1
  else if first < 0xC2 || 0xF4 < first then .broken 1
  else match rest with
    | [] => .cut 1
    | second :: rest =>
      if second < (secondRange first).1 || (secondRange first).2 < second then .broken 1
      else if first < 0xE0 then .scalar (Char.ofNat (first.toNat % 32 * 64 + low6 second)) 2
      else match rest with
        | [] => .cut 2
        | third :: rest =>
          if !isContinuation third then .broken 2
          else if first < 0xF0 then
            .scalar (Char.ofNat ((first.toNat % 16 * 64 + low6 second) * 64 + low6 third)) 3
          else match rest with
            | [] => .cut 3
            | fourth :: _ =>
              if !isContinuation fourth then .broken 3
              else .scalar (Char.ofNat
                (((first.toNat % 8 * 64 + low6 second) * 64 + low6 third) * 64 + low6 fourth)) 4

/-- The characters of the bytes, a replacement character standing for each broken sequence. -/
def lossyChars : (skip : Nat) → List UInt8 → List Char
  -- The skipped bytes belong to the character or broken sequence read last.
  | _, [] => []
  | skip + 1, _ :: rest => lossyChars skip rest
  | 0, b :: rest =>
    match head b rest with
    | .scalar c width => c :: lossyChars (width - 1) rest
    | .broken width => '\uFFFD' :: lossyChars (width - 1) rest
    | .cut width => '\uFFFD' :: lossyChars (width - 1) rest

/-- The text of the bytes, with replacement of what is broken. -/
def decodeLossy (bytes : List UInt8) : String :=
  -- Reading starts between two characters.
  String.ofList (lossyChars 0 bytes)

/-- Where and how bytes fail to be text. -/
structure Fault where
  /-- The number of bytes before the broken sequence. -/
  validUpTo : Nat
  /-- The width of the broken sequence, or none when the end of the bytes cuts it off. -/
  width : Option Nat
deriving DecidableEq, Repr

/-- The fault in words. -/
def Fault.message (fault : Fault) : String :=
  -- A sequence that is cut off has no width of its own.
  match fault.width with
  | some width =>
    s!"invalid utf-8 sequence of {width} bytes from index {fault.validUpTo}"
  | none => s!"incomplete utf-8 byte sequence from index {fault.validUpTo}"

/-- The first place at which the bytes are not text. -/
def firstFault : (skip offset : Nat) → List UInt8 → Option Fault
  -- The skipped bytes belong to the character read last.
  | _, _, [] => none
  | skip + 1, offset, _ :: rest => firstFault skip (offset + 1) rest
  | 0, offset, b :: rest =>
    match head b rest with
    | .scalar _ width => firstFault (width - 1) (offset + 1) rest
    | .broken width => some ⟨offset, some width⟩
    | .cut _ => some ⟨offset, none⟩

/-- The text of the bytes, or the first place at which they are not text. -/
def decode (bytes : List UInt8) : Except Fault String :=
  -- Bytes without a fault hold no sequence to replace.
  match firstFault 0 0 bytes with
  | none => .ok (decodeLossy bytes)
  | some fault => .error fault

end TemplateFacts.Utf8
