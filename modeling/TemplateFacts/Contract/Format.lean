import TemplateFacts.Contract.Matcher
import TemplateFacts.Text.Address
import TemplateFacts.Text.Blank
import TemplateFacts.Text.Digits
import TemplateFacts.Text.NamedClass
import TemplateFacts.Timestamp
import TemplateFacts.Uri.Reader

/-!
Formats of texts that contracts know by name: durations, names of hosts, addresses of mailboxes, and
those that other grammars give.
-/

namespace TemplateFacts.Contract

/-- Reads numbers with units, at least one and in the given order. -/
def readAmounts? : (units : List Char) → (readAny : Bool) → List Char → Option (List Char)
  -- A unit that is passed over cannot come later.
  | [], readAny, cs => if readAny then some cs else none
  | unit :: units, readAny, cs =>
    let (digits, rest) := cs.span Text.isDigit
    match rest with
    | c :: behind =>
      if !digits.isEmpty && c == unit then readAmounts? units true behind
      else readAmounts? units readAny cs
    | [] => readAmounts? units readAny cs

/-- Reads hours, minutes and seconds behind their mark. -/
def readHours? : List Char → Option (List Char)
  | 'T' :: rest => readAmounts? ['H', 'M', 'S'] false rest
  | _ => none

/-- A text that is a duration. -/
def isDuration (s : String) : Bool :=
  -- Weeks stand alone.
  match s.toList with
  | 'P' :: body =>
    readAmounts? ['W'] false body == some [] ||
      readHours? body == some [] ||
      match readAmounts? ['Y', 'M', 'D'] false body with
      | some rest => rest.isEmpty || readHours? rest == some []
      | none => false
  | _ => false

/-- The greatest number of characters between two points. -/
def greatestLabel : Nat := 63

/-- The pieces of a name between its points. -/
def labelsOf (cs : List Char) : List (List Char) := Text.splitChars (· == '.') cs

/-- A hyphen or a point, which begin and end no name. -/
def isJoint (c : Char) : Bool := c == '-' || c == '.'

/-- A list of characters that is the name of a host. -/
def isHostName (cs : List Char) : Bool :=
  -- Letters and numbers of all alphabets are admitted.
  !cs.isEmpty && cs.length ≤ 255
    && !cs.head?.any isJoint && !cs.getLast?.any isJoint
    && cs.all (fun c => isJoint c || Text.isAlphanumeric c)
    && (labelsOf cs).all (·.length ≤ greatestLabel)

/-- The marks that take the vowel from a consonant. -/
def viramas : List Nat :=
  [0x94D, 0x9CD, 0xA4D, 0xACD, 0xB4D, 0xBCD, 0xC4D, 0xCCD, 0xD3B, 0xD3C, 0xD4D, 0xDCA, 0xE3A,
    0xEBA, 0xF84, 0x1039, 0x103A, 0x1714, 0x1734, 0x17D2, 0x1A60, 0x1B44, 0x1BAA, 0x1BAB, 0x1BF2,
    0x1BF3, 0x2D7F, 0xA806, 0xA8C4, 0xA953, 0xA9C0, 0xAAF6, 0xABED]

/-- The characters that no name admits. -/
def refusedRanges : List (Nat × Nat) :=
  [(0x640, 0x640), (0x7FA, 0x7FA), (0x302E, 0x302F), (0x3031, 0x3035), (0x303B, 0x303B)]

/-- A character may stand between its neighbours. -/
def standsRight (before : Option Char) (c : Char) (behind : Option Char) : Bool :=
  -- Some characters need a neighbour of the right kind.
  let isIn (first last : Nat) (c : Char) : Bool := first ≤ c.toNat && c.toNat ≤ last
  match c.toNat with
  | 0x200D => before.any fun c => viramas.contains c.toNat
  | 0xB7 => before == some 'l' && behind == some 'l'
  | 0x375 => behind.any (isIn 0x370 0x3FF)
  | 0x5F3 => before.any (isIn 0x590 0x5FF)
  | 0x5F4 => before.any (isIn 0x590 0x5FF)
  | _ => !Text.inRanges refusedRanges c

/-- Every character may stand where it stands. -/
def allStandRight (before : Option Char) : List Char → Bool
  | [] => true
  | c :: rest => standsRight before c rest.head? && allStandRight (some c) rest

/-- The characters that a middle dot of their script may stand among. -/
def kanaRanges : List (Nat × Nat) :=
  [(0x3041, 0x309F), (0x30A1, 0x30FA), (0x30FC, 0x30FF), (0x3400, 0x9FFF)]

/-- The characters of a piece of a name beyond ASCII. -/
def isWideLabelChar (c : Char) : Bool :=
  if c.toNat < 0x80 then c.isAlphanum || c == '-' else !Text.isBlank c

/-- A list of characters that is a piece of a name beyond ASCII. -/
def isWideLabel (cs : List Char) : Bool :=
  -- Two hyphens at the third place announce another encoding.
  let has (ranges : List (Nat × Nat)) : Bool := cs.any (Text.inRanges ranges)
  !cs.isEmpty && cs.length ≤ greatestLabel
    && cs.head? != some '-' && cs.getLast? != some '-'
    && ((cs.drop 2).take 2 != ['-', '-'] || cs.take 2 == ['x', 'n'])
    && cs.all isWideLabelChar && allStandRight none cs
    && !(has [(0x30FB, 0x30FB)] && !has kanaRanges)
    && !(has [(0x660, 0x669)] && has [(0x6F0, 0x6F9)])

/-- A list of characters that is the name of a host beyond ASCII. -/
def isWideHostName (cs : List Char) : Bool := cs.length ≤ 253 && (labelsOf cs).all isWideLabel

/-- A character beyond ASCII. -/
def isWideChar (c : Char) : Bool := 0x80 ≤ c.toNat

/-- A character of a local part that is not quoted, or of a domain. -/
def isAtomChar (c : Char) : Bool :=
  Text.isAlphanumeric c || isWideChar c || "!#$%&'*+-/=?^_`\x7b|\x7d~".toList.contains c

/-- A character that stands for itself between quotes. -/
def isQuotedChar (c : Char) : Bool :=
  -- Quotes and backslashes do not.
  c == ' ' || c == '\t' || c == '!' || (0x23 ≤ c.toNat && c.toNat ≤ 0x7E && c != '\\')
    || isWideChar c

/-- Characters between quotes. -/
def isQuotedText : List Char → Bool
  -- A backslash makes any printed character stand for itself.
  | [] => true
  | '\\' :: c :: rest => 0x21 ≤ c.toNat && c.toNat ≤ 0x7E && isQuotedText rest
  | c :: rest => isQuotedChar c && isQuotedText rest

/-- Words of atom characters between points. -/
def isAtomText (cs : List Char) : Bool :=
  (labelsOf cs).all fun word => !word.isEmpty && word.all isAtomChar

/-- The number of bytes of some characters. -/
def byteCount (cs : List Char) : Nat := (String.ofList cs).utf8ByteSize

/-- A local part of an address. -/
def isLocalPart (cs : List Char) : Bool :=
  -- The quotes count as part of it.
  !cs.isEmpty && byteCount cs ≤ 64 &&
    if cs.head? == some '"' && cs.getLast? == some '"' then
      3 ≤ cs.length && isQuotedText (cs.drop 1).dropLast
    else isAtomText cs

/-- A character of a domain between square brackets. -/
def isLiteralChar (c : Char) : Bool :=
  (0x21 ≤ c.toNat && c.toNat ≤ 0x5A) || (0x5E ≤ c.toNat && c.toNat ≤ 0x7E) || isWideChar c

/-- A piece of a domain between its points. -/
def isDomainWord (word : List Char) : Bool :=
  word.head?.any Text.isAlphanumeric && word.getLast?.any Text.isAlphanumeric
    && byteCount word ≤ greatestLabel && word.all isAtomChar

/-- A domain of an address. -/
def isDomain (cs : List Char) : Bool :=
  -- Between square brackets stands an address in the network.
  byteCount cs ≤ 254 &&
    if cs.head? == some '[' && cs.getLast? == some ']' then
      let inner := (cs.drop 1).dropLast
      inner.all isLiteralChar && match Text.dropStart? (String.ofList inner) "IPv6:" with
        | some address => Text.isGroupedAddress address.toList
        | none => Text.isPointedAddress inner
    else (labelsOf cs).all isDomainWord && isHostName cs

/-- What stands before the last occurrence of some characters, and what stands behind it. -/
def cutAtLast? (mark : List Char) : List Char → Option (List Char × List Char)
  -- A later occurrence wins.
  | [] => none
  | c :: rest =>
    match cutAtLast? mark rest with
    | some (before, behind) => some (c :: before, behind)
    | none =>
      if mark.isPrefixOf (c :: rest) then some ([], (c :: rest).drop mark.length) else none

/-- The address proper, without a name before it. -/
def bareAddress? (cs : List Char) : Option (List Char) :=
  -- With a name before it the address stands between angle brackets.
  match cutAtLast? [' ', '<'] cs with
  | none => some cs
  | some (_, behind) =>
    let behind := Text.stripChars Text.isBlank behind
    if behind.getLast? == some '>' then some behind.dropLast else none

/-- A text that is the address of a mailbox. -/
def isMailbox (s : String) : Bool :=
  -- The last at sign separates the two parts.
  match (bareAddress? s.toList).bind (cutAtLast? ['@']) with
  | some (localPart, domain) => isLocalPart localPart && isDomain domain
  | none => false

/-- A format of texts. -/
inductive Format where
  | date
  | dateTime
  | duration
  | hostName
  | mailbox
  | pointedAddress
  | groupedAddress
  | wideMailbox
  | wideHostName
  | wideUri
  | wideReference
  | pointer
  | regex
  | relativePointer
  | template
  | time
  | uri
  | reference
  | uuid
deriving DecidableEq, Repr

namespace Format

/-- Every format. -/
def all : List Format :=
  [.date, .dateTime, .duration, .hostName, .mailbox, .pointedAddress, .groupedAddress,
    .wideMailbox, .wideHostName, .wideUri, .wideReference, .pointer, .regex, .relativePointer,
    .template, .time, .uri, .reference, .uuid]

/-- The name of a format. -/
def text : Format → String
  | .date => "date"
  | .dateTime => "date-time"
  | .duration => "duration"
  | .hostName => "hostname"
  | .mailbox => "email"
  | .pointedAddress => "ipv4"
  | .groupedAddress => "ipv6"
  | .wideMailbox => "idn-email"
  | .wideHostName => "idn-hostname"
  | .wideUri => "iri"
  | .wideReference => "iri-reference"
  | .pointer => "json-pointer"
  | .regex => "regex"
  | .relativePointer => "relative-json-pointer"
  | .template => "uri-template"
  | .time => "time"
  | .uri => "uri"
  | .reference => "uri-reference"
  | .uuid => "uuid"

/-- The format of a name. -/
def ofText? (s : String) : Option Format := all.find? (·.text == s)

/-- Every tilde is followed by one of the two digits that make an escape with it. -/
def tildesAreRight : List Char → Bool
  | [] => true
  | '~' :: c :: rest => (c == '0' || c == '1') && tildesAreRight rest
  | ['~'] => false
  | _ :: rest => tildesAreRight rest

/-- Names with a slash before each. -/
def isPointer : List Char → Bool
  -- The pointer to the whole document is empty.
  | [] => true
  | c :: rest => c == '/' && tildesAreRight rest

/-- How many levels to go up, and then a pointer or the wish to know the name. -/
def isRelativePointer (cs : List Char) : Bool :=
  -- The number has no zeros in front.
  let (digits, rest) := cs.span Text.isDigit
  !digits.isEmpty && (digits.length == 1 || digits.head? != some '0')
    && (rest == ['#'] || isPointer rest)

/-- Five groups of hexadecimal digits between hyphens. -/
def isUuid (cs : List Char) : Bool :=
  let groups := Text.splitChars (· == '-') cs
  groups.map List.length == [8, 4, 4, 4, 12]
    && groups.flatten.all fun c => (Text.hexValue? c).isSome

/-- A name in a template, with its escapes, and how much of its value is wanted. -/
def templateVariable : String :=
  "(?:[a-z0-9_]|%[0-9a-f]\x7b2\x7d)+(?::[1-9][0-9]\x7b0,3\x7d|\\*)?"

/-- The pattern of a reference with variables between braces. -/
def templateSource : String :=
  "^(?:(?:[^\\x00-\\x20\"'<>%\\\\^`\x7b|\x7d]|%[0-9a-f]\x7b2\x7d)|\\\x7b[+#./;?&=,!@|]?"
    ++ templateVariable ++ "(?:," ++ templateVariable ++ ")*\\\x7d)*\\z"

/-- What decides whether a text is a reference with variables. -/
def templateMatcher : Option Matcher := Matcher.ofText? templateSource

/-- A text that is a reference with variables. -/
def isTemplate (s : String) : Bool :=
  -- A matcher that gives up has not matched.
  match templateMatcher with
  | some matcher => match matcher.matchesIn s with
    | .ok found => found
    | .error _ => false
  | none => false

/-- A text that reads as a reference, with a scheme if it must be complete. -/
def isReference (wide complete : Bool) (s : String) : Bool :=
  match Uri.read wide s with
  | .ok read => !complete || read.scheme.isSome
  | .error _ => false

/-- A text is of the format. -/
def holds : Format → String → Bool
  -- Most formats are decided character by character.
  | .date, s => Timestamp.isDate s
  | .dateTime, s => Timestamp.isDateTime s
  | .duration, s => isDuration s
  | .hostName, s => isHostName s.toList
  | .mailbox, s => isMailbox s
  | .pointedAddress, s => Text.isPointedAddress s.toList
  | .groupedAddress, s => Text.isGroupedAddress s.toList
  | .wideMailbox, s => isMailbox s
  | .wideHostName, s => isWideHostName s.toList
  | .wideUri, s => isReference true true s
  | .wideReference, s => isReference true false s
  | .pointer, s => isPointer s.toList
  | .regex, s => (Matcher.ofText? s).isSome
  | .relativePointer, s => isRelativePointer s.toList
  | .template, s => isTemplate s
  | .time, s => Timestamp.isTime s
  | .uri, s => isReference false true s
  | .reference, s => isReference false false s
  | .uuid, s => isUuid s.toList

end Format

end TemplateFacts.Contract
