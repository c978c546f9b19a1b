import TemplateFacts.Json.Basic
import TemplateFacts.Json.Cursor
import TemplateFacts.Utf8

/-! The words of a document: identifiers, texts and numbers. -/

namespace TemplateFacts.Json

/-- Reads the given bytes of an identifier. -/
def readIdent : List UInt8 → Cursor → Except Fault Cursor
  -- The byte that differs counts as read.
  | [], c => .ok c
  | expected :: more, c =>
    match c.rest with
    | [] => c.fail .endOfValue
    | b :: _ => if b == expected then readIdent more c.next else c.failNext .expectedIdent

/-- The bytes behind the first letter of `null`. -/
def nullTail : List UInt8 := [0x75, 0x6C, 0x6C]

/-- The bytes behind the first letter of `true`. -/
def trueTail : List UInt8 := [0x72, 0x75, 0x65]

/-- The bytes behind the first letter of `false`. -/
def falseTail : List UInt8 := [0x61, 0x6C, 0x73, 0x65]

/-- The value of a hexadecimal digit of either case. -/
def hexValue? (b : UInt8) : Option Nat :=
  -- The letters continue the ten digits.
  if 0x30 ≤ b && b ≤ 0x39 then some (b.toNat - 0x30)
  else if 0x41 ≤ b && b ≤ 0x46 then some (b.toNat - 0x37)
  else if 0x61 ≤ b && b ≤ 0x66 then some (b.toNat - 0x57)
  else none

/-- The value of four hexadecimal digits. -/
def hexFour? (a b c d : UInt8) : Option Nat := do
  -- The first digit weighs most.
  let a ← hexValue? a
  let b ← hexValue? b
  let c ← hexValue? c
  let d ← hexValue? d
  return ((a * 16 + b) * 16 + c) * 16 + d

/-- The byte that a letter behind a backslash stands for. -/
def escapedByte? (b : UInt8) : Option UInt8 :=
  -- The quote, the backslash and the slash stand for themselves.
  if b == 0x22 || b == 0x5C || b == 0x2F then some b
  else if b == 0x62 then some 0x08
  else if b == 0x66 then some 0x0C
  else if b == 0x6E then some 0x0A
  else if b == 0x72 then some 0x0D
  else if b == 0x74 then some 0x09
  else none

/-- The first of two code units that together name a character. -/
def isHighSurrogate (n : Nat) : Bool := 0xD800 ≤ n && n ≤ 0xDBFF

/-- The second of two code units that together name a character. -/
def isLowSurrogate (n : Nat) : Bool := 0xDC00 ≤ n && n ≤ 0xDFFF

/-- The character named by two code units. -/
def pairedChar (high low : Nat) : Char :=
  -- Each unit carries ten bits above the first plane.
  Char.ofNat ((high - 0xD800) * 0x400 + (low - 0xDC00) + 0x10000)

/-- The bytes of a text up to its closing quote, escapes being resolved. -/
def textBytes (read : List UInt8) (position : Position) : List UInt8 → Reading (List UInt8)
  -- The bytes read so far are held in reverse.
  | [] => Cursor.fail ⟨[], position⟩ .endOfText
  | b :: rest =>
    let inside := position.after b
    if b == 0x22 then .ok (read.reverse, ⟨rest, inside⟩)
    else if b == 0x5C then
      match rest with
      | [] => Cursor.fail ⟨[], inside⟩ .endOfText
      | e :: rest =>
        let escaped := inside.after e
        if e == 0x75 then
          match rest with
          | h1 :: h2 :: h3 :: h4 :: rest =>
            let unit := escaped.afterAll [h1, h2, h3, h4]
            match hexFour? h1 h2 h3 h4 with
            | none => Cursor.fail ⟨rest, unit⟩ .invalidEscape
            | some n =>
              if isLowSurrogate n then Cursor.fail ⟨rest, unit⟩ .loneSurrogate
              else if !isHighSurrogate n then
                textBytes ((String.utf8EncodeChar (Char.ofNat n)).reverse ++ read) unit rest
              else match rest with
                | [] => Cursor.fail ⟨[], unit⟩ .endOfText
                | b2 :: rest =>
                  let second := unit.after b2
                  if b2 != 0x5C then Cursor.fail ⟨rest, second⟩ .unfinishedSurrogate
                  else match rest with
                    | [] => Cursor.fail ⟨[], second⟩ .endOfText
                    | e2 :: rest =>
                      let escaped2 := second.after e2
                      if e2 != 0x75 then Cursor.fail ⟨rest, escaped2⟩ .unfinishedSurrogate
                      else match rest with
                        | k1 :: k2 :: k3 :: k4 :: rest =>
                          let unit2 := escaped2.afterAll [k1, k2, k3, k4]
                          match hexFour? k1 k2 k3 k4 with
                          | none => Cursor.fail ⟨rest, unit2⟩ .invalidEscape
                          | some low =>
                            if isLowSurrogate low then
                              textBytes
                                ((String.utf8EncodeChar (pairedChar n low)).reverse ++ read)
                                unit2 rest
                            else Cursor.fail ⟨rest, unit2⟩ .loneSurrogate
                        | short => Cursor.fail ⟨[], escaped2.afterAll short⟩ .endOfText
          | short => Cursor.fail ⟨[], escaped.afterAll short⟩ .endOfText
        else match escapedByte? e with
          | some byte => textBytes (byte :: read) escaped rest
          | none => Cursor.fail ⟨rest, escaped⟩ .invalidEscape
    else if b < 0x20 then Cursor.fail ⟨rest, inside⟩ .controlCharacter
    else textBytes (b :: read) inside rest

/-- Reads a text whose opening quote has been read. -/
def readText (c : Cursor) : Reading String :=
  -- The bytes must encode characters.
  match textBytes [] c.position c.rest with
  | .error fault => .error fault
  | .ok (bytes, c) =>
    match Utf8.decode bytes with
    | .ok s => .ok (s, c)
    | .error _ => c.fail .invalidCodePoint

/-- Passes a text whose opening quote has been read, without asking what it says. -/
def skipTextFrom (position : Position) : List UInt8 → Except Fault Cursor
  -- Escapes must be well formed, but code units need no partner.
  | [] => Cursor.fail ⟨[], position⟩ .endOfText
  | b :: rest =>
    let inside := position.after b
    if b == 0x22 then .ok ⟨rest, inside⟩
    else if b == 0x5C then
      match rest with
      | [] => Cursor.fail ⟨[], inside⟩ .endOfText
      | e :: rest =>
        let escaped := inside.after e
        if e == 0x75 then
          match rest with
          | h1 :: h2 :: h3 :: h4 :: rest =>
            let unit := escaped.afterAll [h1, h2, h3, h4]
            match hexFour? h1 h2 h3 h4 with
            | none => Cursor.fail ⟨rest, unit⟩ .invalidEscape
            | some _ => skipTextFrom unit rest
          | short => Cursor.fail ⟨[], escaped.afterAll short⟩ .endOfText
        else match escapedByte? e with
          | some _ => skipTextFrom escaped rest
          | none => Cursor.fail ⟨rest, escaped⟩ .invalidEscape
    else if b < 0x20 then Cursor.fail ⟨b :: rest, position⟩ .controlCharacter
    else skipTextFrom inside rest

/-- A decimal digit. -/
def isDigit (b : UInt8) : Bool := 0x30 ≤ b && b ≤ 0x39

/-- The value of a decimal digit. -/
def digitValue (b : UInt8) : Nat := b.toNat - 0x30

/-- The digits at a place, and the place behind them. -/
def readDigits (c : Cursor) : List UInt8 × Cursor :=
  -- Digits hold no line feed.
  let digits := c.rest.takeWhile isDigit
  (digits, c.past digits.length)

/-- The greatest significand that is carried along. -/
def greatestSignificand : Nat := 18446744073709551615

/-- Takes digits into a significand as long as they fit, and counts those taken. -/
def absorb (significand : Nat) : List UInt8 → Nat × Nat
  -- The first digit that does not fit ends the significand.
  | [] => (significand, 0)
  | b :: rest =>
    let grown := significand * 10 + digitValue b
    if grown > greatestSignificand then (significand, 0)
    else
      let (total, used) := absorb grown rest
      (total, used + 1)

/-- The greatest power of ten that a number is scaled by in one step. -/
def greatestScale : Nat := 308

/-- Scales a number by a power of ten, and gives nothing when it grows out of range. -/
def scaleByTen : (steps : Nat) → Binary64 → Int → Option Binary64
  -- After two large divisions nothing is left of any significand.
  | 0, x, _ => some x
  | steps + 1, x, power =>
    let step (k : Nat) := Binary64.ofDecimal false 1 k
    if power.natAbs ≤ greatestScale then
      if power < 0 then some (x.scaleDown (step power.natAbs))
      else
        let scaled := x.scaleUp (step power.natAbs)
        if scaled.isFinite then some scaled else none
    else if x.isZero then some x
    else if 0 ≤ power then none
    else scaleByTen steps (x.scaleDown (step greatestScale)) (power + greatestScale)

/-- The float of a sign, a significand and a power of ten. -/
def floatOf (negative : Bool) (significand : Nat) (power : Int) (c : Cursor) : Reading Json :=
  -- The significand is rounded before it is scaled.
  match scaleByTen 8 (Binary64.ofInt significand) power with
  | some x => .ok (.float (if negative then x.negate else x), c)
  | none => c.fail .numberOutOfRange

/-- The greatest exponent that is carried along. -/
def greatestExponent : Nat := 2147483647

/-- The value of exponent digits, or the number of digits read when it grows too large. -/
def exponentValue (value read : Nat) : List UInt8 → Except Nat Nat
  -- The digit that does not fit counts as read.
  | [] => .ok value
  | b :: rest =>
    let grown := value * 10 + digitValue b
    if grown > greatestExponent then .error (read + 1) else exponentValue grown (read + 1) rest

/-- Reads the digits of an exponent behind its sign. -/
def readExponentDigits (negative lowers : Bool) (significand : Nat) (power : Int) (c : Cursor) :
    Reading Json :=
  -- An exponent that is too large makes a number too large or too small.
  match c.rest with
  | [] => c.fail .endOfValue
  | b :: _ =>
    if !isDigit b then c.failNext .invalidNumber
    else
      let (digits, behind) := readDigits c
      match exponentValue 0 0 digits with
      | .ok value => floatOf negative significand (if lowers then power - value else power + value) behind
      | .error read =>
        if significand != 0 && !lowers then (c.past read).fail .numberOutOfRange
        else .ok (.float (Binary64.zero negative), behind)

/-- Reads the exponent of a number behind its letter. -/
def readExponent (negative : Bool) (significand : Nat) (power : Int) (c : Cursor) :
    Reading Json :=
  -- A sign may precede the digits.
  match c.rest with
  | [] => c.fail .endOfValue
  | b :: _ =>
    if b == 0x2B then readExponentDigits negative false significand power c.next
    else if b == 0x2D then readExponentDigits negative true significand power c.next
    else readExponentDigits negative false significand power c

/-- An exponent letter of either case. -/
def isExponentLetter (b : UInt8) : Bool := b == 0x65 || b == 0x45

/-- Reads the fraction of a number behind its point. -/
def readFraction (negative : Bool) (significand : Nat) (power : Int) (c : Cursor) :
    Reading Json :=
  -- At least one digit follows the point.
  let (digits, behind) := readDigits c
  if digits.isEmpty then
    if c.rest.isEmpty then c.fail .endOfValue else c.failNext .invalidNumber
  else
    let (significand, used) := absorb significand digits
    let power := power - used
    match behind.rest with
    | b :: _ =>
      if isExponentLetter b then readExponent negative significand power behind.next
      else floatOf negative significand power behind
    | [] => floatOf negative significand power behind

/-- The document of an integer that fits a significand. -/
def wholeNumber (negative : Bool) (significand : Nat) : Json :=
  -- A negative zero and what lies below the least integer are floats.
  if !negative then .int significand
  else if significand == 0 || significand > Json.leastInt.natAbs then
    .float (Binary64.ofInt significand).negate
  else .int (-(significand : Int))

/-- Reads a number whose minus sign has been read if there is one. -/
def readNumber (negative : Bool) (c : Cursor) : Reading Json :=
  -- A zero stands alone before the point.
  match c.rest with
  | [] => c.fail .endOfValue
  | first :: _ =>
    if !isDigit first then c.failNext .invalidNumber
    else
      let (digits, behind) := readDigits c
      if first == 0x30 && digits.length > 1 then (c.past 2).fail .invalidNumber
      else
        let (significand, used) := absorb 0 digits
        let power : Int := digits.length - used
        let whole : Reading Json :=
          if used < digits.length then floatOf negative significand power behind
          else .ok (wholeNumber negative significand, behind)
        match behind.rest with
        | b :: _ =>
          if b == 0x2E then readFraction negative significand power behind.next
          else if isExponentLetter b then readExponent negative significand power behind.next
          else whole
        | [] => whole

/-- Passes the digits of an exponent behind its sign. -/
def skipExponentDigits (c : Cursor) : Except Fault Cursor :=
  -- At least one digit is there.
  match c.rest with
  | b :: _ => if isDigit b then .ok (readDigits c).2 else c.failNext .invalidNumber
  | [] => c.fail .invalidNumber

/-- Passes the exponent of a number behind its letter. -/
def skipExponent (c : Cursor) : Except Fault Cursor :=
  -- A sign may precede the digits.
  match c.rest with
  | b :: _ => if b == 0x2B || b == 0x2D then skipExponentDigits c.next else skipExponentDigits c
  | [] => c.fail .invalidNumber

/-- Passes the fraction of a number behind its point. -/
def skipFraction (c : Cursor) : Except Fault Cursor :=
  -- At least one digit follows the point.
  let (fraction, behind) := readDigits c
  if fraction.isEmpty then behind.failNext .invalidNumber
  else match behind.rest with
    | b :: _ => if isExponentLetter b then skipExponent behind.next else .ok behind
    | [] => .ok behind

/-- Passes a number whose minus sign has been passed if there is one. -/
def skipNumber (c : Cursor) : Except Fault Cursor :=
  -- The form is checked, and the value is not formed.
  match c.rest with
  | [] => c.fail .invalidNumber
  | first :: _ =>
    if !isDigit first then c.failNext .invalidNumber
    else
      let (digits, behind) := readDigits c
      if first == 0x30 && digits.length > 1 then (c.past 2).fail .invalidNumber
      else match behind.rest with
        | b :: _ =>
          if b == 0x2E then skipFraction behind.next
          else if isExponentLetter b then skipExponent behind.next
          else .ok behind
        | [] => .ok behind

/-- Reads a scalar at a place that is not blank. -/
def readScalar (c : Cursor) : Reading Json :=
  -- The first byte tells the kind.
  match c.rest with
  | [] => c.fail .endOfValue
  | b :: _ =>
    if b == 0x6E then (readIdent nullTail c.next).map fun c => (.null, c)
    else if b == 0x74 then (readIdent trueTail c.next).map fun c => (.bool true, c)
    else if b == 0x66 then (readIdent falseTail c.next).map fun c => (.bool false, c)
    else if b == 0x2D then readNumber true c.next
    else if isDigit b then readNumber false c
    else if b == 0x22 then (readText c.next).map fun (s, c) => (.text s, c)
    else c.failNext .expectedValue

end TemplateFacts.Json
