import TemplateFacts.Text.Blank
import TemplateFacts.Text.NamedClass

/-!
The grammar of escapes and of classes of characters in patterns.

A class is read as a tree first. What the tree stands for depends on whether case counts, and on
whether the classes of digits, words and blanks are those of ASCII or of all alphabets.
-/

namespace TemplateFacts.Contract

/-- What the grammar says of a text, from where it stops on. -/
inductive Verdict where
  | wrong
  /-- The text does what the grammar knows nothing of. -/
  | foreign
  /-- A control character is written by a letter, with so many characters left. -/
  | control (left : Nat)
deriving DecidableEq, Repr

/-- The name of a class of characters. -/
inductive ClassName where
  | plain (name : List Char)
  | value (name value : List Char)
deriving DecidableEq, Repr

/-- Two classes are combined into one. -/
inductive Combination where
  | both
  | without
  | onlyOne
deriving DecidableEq, Repr

/-- A class of characters as it is written. -/
inductive ClassTree where
  | nothing
  /-- All characters from the first to the last. -/
  | range (first last : Char)
  /-- The class of digits, of words or of blanks, or what lies outside, by its letter. -/
  | letter (c : Char)
  | named (negated : Bool) (name : ClassName)
  | ascii (negated : Bool) (name : String)
  | bracket (negated : Bool) (inner : ClassTree)
  | either (first second : ClassTree)
  | combined (how : Combination) (first second : ClassTree)
deriving Inhabited

namespace ClassTree

/-- A part that is read, with the characters behind it, or the verdict. -/
abbrev Piece (α : Type) := Except Verdict (α × List Char)

/-- The characters behind blanks and comments. -/
def dropBlanks : (fuel : Nat) → List Char → List Char
  -- A comment ends with its line.
  | 0, cs => cs
  | fuel + 1, cs =>
    match cs.dropWhile Text.isBlank with
    | '#' :: rest => dropBlanks fuel ((rest.dropWhile (· != '\n')).drop 1)
    | rest => rest

/-- The characters behind blanks, if blanks do not count. -/
def skip (loose : Bool) (cs : List Char) : List Char :=
  if loose then dropBlanks cs.length cs else cs

/-- The characters that stand for something unless a backslash precedes them. -/
def isMeta (c : Char) : Bool := "\\.+*?()|[]\x7b\x7d^$#&-~".toList.contains c

/-- A character may stand behind a backslash for itself. -/
def isEscapable (c : Char) : Bool :=
  -- Letters, digits and angles are kept for other uses.
  c.toNat < 0x80 && !c.isAlphanum && c != '<' && c != '>'

/-- What stands behind a backslash. -/
inductive Escaped where
  | char (c : Char)
  /-- The bell, which is no character outside of classes. -/
  | bell
  | set (tree : ClassTree)
  | edge

/-- The character of a code point that hexadecimal digits write. -/
def codeChar? (digits : List Char) : Option Char :=
  -- Not every number is a code point.
  let n := Text.hexNumber digits
  if n.isValidChar then some (Char.ofNat n) else none

/-- Takes exactly so many hexadecimal digits. -/
def takeHex (loose : Bool) : (count : Nat) → List Char → Option (List Char × List Char)
  | 0, cs => some ([], cs)
  | count + 1, cs =>
    match cs with
    | c :: rest =>
      if (Text.hexValue? c).isNone then none
      else (takeHex loose count (skip loose rest)).map fun (digits, rest) => (c :: digits, rest)
    | [] => none

/-- Takes hexadecimal digits up to a closing brace. -/
def takeHexBrace (loose : Bool) : (fuel : Nat) → List Char → Option (List Char × List Char)
  | 0, _ => none
  | fuel + 1, cs =>
    match cs with
    | [] => none
    | '\x7d' :: rest => some ([], skip loose rest)
    | c :: rest =>
      if (Text.hexValue? c).isNone then none
      else (takeHexBrace loose fuel (skip loose rest)).map fun (digits, rest) =>
        (c :: digits, rest)

/-- Reads a code point, behind the letter that announces so many digits. -/
def codePoint (loose : Bool) (count : Nat) (cs : List Char) : Piece Escaped :=
  -- Braces hold any number of digits but none.
  let taken := match skip loose cs with
    | '\x7b' :: rest => takeHexBrace loose (rest.length + 1) (skip loose rest)
    | cs => takeHex loose count cs
  match taken with
  | some ([], _) => .error .wrong
  | some (digits, rest) =>
    match codeChar? digits with
    | some c => .ok (.char c, rest)
    | none => .error .wrong
  | none => .error .wrong

/-- The first place at which a sign stands in a name, as what precedes it and what follows it. -/
def cutAt? (sign : List Char) : List Char → Option (List Char × List Char)
  | [] => none
  | c :: cs =>
    if sign.isPrefixOf (c :: cs) then some ([], (c :: cs).drop sign.length)
    else (cutAt? sign cs).map fun (before, behind) => (c :: before, behind)

/-- The class of a name between braces, negated or not. -/
def namedTree (negated : Bool) (name : List Char) : ClassTree :=
  -- A sign of inequality negates the class.
  match cutAt? ['!', '='] name with
  | some (name, value) => .named (!negated) (.value name value)
  | none =>
    match cutAt? [':'] name <|> cutAt? ['='] name with
    | some (name, value) => .named negated (.value name value)
    | none => .named negated (.plain name)

/-- Reads the name of a class of characters. -/
def className (loose negated : Bool) (cs : List Char) : Piece Escaped :=
  -- A name of one letter needs no braces.
  match skip loose cs with
  | '\x7b' :: rest =>
    match rest.dropWhile (· != '\x7d') with
    | _ :: behind => .ok (.set (namedTree negated (rest.takeWhile (· != '\x7d'))), behind)
    | [] => .error .wrong
  | '\\' :: _ => .error .wrong
  | c :: rest => .ok (.set (.named negated (.plain [c])), skip loose rest)
  | [] => .error .wrong

/-- Reads what stands behind a backslash. -/
def escape (loose : Bool) (cs : List Char) : Piece Escaped :=
  -- Letters that stand for nothing are refused, and so are braces behind an edge of a word.
  match cs with
  | [] => .error .wrong
  | c :: rest =>
    if c.isDigit then .error .foreign
    else if c == 'x' then codePoint loose 2 rest
    else if c == 'u' then codePoint loose 4 rest
    else if c == 'U' then codePoint loose 8 rest
    else if c == 'p' || c == 'P' then className loose (c == 'P') rest
    else if "dswDSW".toList.contains c then .ok (.set (.letter c), rest)
    else if isEscapable c then .ok (.char c, rest)
    else match c with
      | 'a' => .ok (.bell, rest)
      | 'f' => .ok (.char '\x0c', rest)
      | 't' => .ok (.char '\t', rest)
      | 'n' => .ok (.char '\n', rest)
      | 'r' => .ok (.char '\r', rest)
      | 'v' => .ok (.char '\x0b', rest)
      | 'b' => if rest.head? == some '\x7b' then .error .wrong else .ok (.edge, rest)
      | 'c' =>
        match rest with
        | sign :: _ => .error (if sign.isAlpha then .control (cs.length + 1) else .wrong)
        | [] => .error .wrong
      | c => if "AzB<>".toList.contains c then .ok (.edge, rest) else .error .wrong

/-- The names of the classes of ASCII characters. -/
def asciiNames : List String :=
  ["alnum", "alpha", "ascii", "blank", "cntrl", "digit", "graph", "lower", "print", "punct",
    "space", "upper", "word", "xdigit"]

/-- Reads the name of a class of ASCII characters behind an opening bracket, and its negation. -/
def asciiName? (cs : List Char) : Option ((Bool × String) × List Char) :=
  -- The name stands between colons.
  match cs with
  | ':' :: rest =>
    let (negated, rest) := match rest with
      | '^' :: rest => (true, rest)
      | rest => (false, rest)
    let name := String.ofList (rest.takeWhile (· != ':'))
    match rest.dropWhile (· != ':') with
    | ':' :: ']' :: rest => if asciiNames.contains name then some ((negated, name), rest) else none
    | _ => none
  | _ => none

/-- Passes what stands before the first proper element of a class, behind its opening bracket. -/
def opening (loose : Bool) (cs : List Char) : (Bool × ClassTree) × List Char :=
  -- Hyphens stand for themselves there, and so does a bracket at the very front.
  let (negated, cs) := match skip loose cs with
    | '^' :: rest => (true, skip loose rest)
    | cs => (false, cs)
  let hyphens (fuel : Nat) (cs : List Char) : List Char :=
    fuel.fold (fun _ _ cs => match cs with
      | '-' :: rest => skip loose rest
      | cs => cs) cs
  match cs with
  | '-' :: _ => ((negated, .range '-' '-'), hyphens cs.length cs)
  | ']' :: rest => ((negated, .range ']' ']'), skip loose rest)
  | cs => ((negated, .nothing), cs)

/-- Reads an element of a class: a character, or a class inside it. -/
def element (loose : Bool) (cs : List Char) : Piece (Char ⊕ ClassTree) :=
  match cs with
  | [] => .error .wrong
  | '\\' :: rest =>
    match escape loose rest with
    | .ok (.char c, rest) => .ok (.inl c, rest)
    | .ok (.bell, rest) => .ok (.inl '\x07', rest)
    | .ok (.set tree, rest) => .ok (.inr tree, rest)
    | .ok (.edge, _) => .error .wrong
    | .error verdict => .error verdict
  | c :: rest => .ok (.inl c, rest)

/-- The class of an element. -/
def ofElement : Char ⊕ ClassTree → ClassTree
  | .inl c => .range c c
  | .inr tree => tree

/-- Reads an element of a class, or a range of them. -/
def readRange (loose : Bool) (cs : List Char) : Piece ClassTree :=
  -- A hyphen before a bracket or before another hyphen makes no range.
  match element loose cs with
  | .error verdict => .error verdict
  | .ok (first, rest) =>
    match skip loose rest with
    | [] => .error .wrong
    | '-' :: rest =>
      match skip loose rest with
      | [] => .error .wrong
      | ']' :: _ => .ok (ofElement first, '-' :: rest)
      | '-' :: _ => .ok (ofElement first, '-' :: rest)
      | cs =>
        match first, element loose cs with
        | _, .error verdict => .error verdict
        | .inl first, .ok (.inl last, rest) =>
          if first ≤ last then .ok (.range first last, rest) else .error .wrong
        | _, .ok _ => .error .wrong
    | rest => .ok (ofElement first, rest)

/-- The class of what was read, combined with what precedes a doubled sign. -/
def close : Option (Combination × ClassTree) → ClassTree → ClassTree
  | none, tree => tree
  | some (how, first), second => .combined how first second

/-- Reads the rest of a class up to its closing bracket, given what was read. -/
def readRest (loose : Bool) : (fuel : Nat) → Option (Combination × ClassTree) → ClassTree →
    List Char → Piece ClassTree
  -- Doubled signs combine all that precedes them with what follows.
  | 0, _, _, _ => .error .wrong
  | fuel + 1, pending, tree, cs =>
    let combine (how : Combination) (rest : List Char) : Piece ClassTree :=
      readRest loose fuel (some (how, close pending tree)) .nothing rest
    match skip loose cs with
    | [] => .error .wrong
    | '[' :: rest =>
      match asciiName? rest with
      | some ((negated, name), rest) =>
        readRest loose fuel pending (.either tree (.ascii negated name)) rest
      | none =>
        let ((negated, inner), rest) := opening loose rest
        match readRest loose fuel none inner rest with
        | .ok (inner, rest) =>
          readRest loose fuel pending (.either tree (.bracket negated inner)) rest
        | .error verdict => .error verdict
    | ']' :: rest => .ok (close pending tree, rest)
    | '&' :: '&' :: rest => combine .both rest
    | '-' :: '-' :: rest => combine .without rest
    | '~' :: '~' :: rest => combine .onlyOne rest
    | cs =>
      match readRange loose cs with
      | .ok (found, rest) => readRest loose fuel pending (.either tree found) rest
      | .error verdict => .error verdict

/-- Reads a class behind its opening bracket. -/
def read (loose : Bool) (cs : List Char) : Piece ClassTree :=
  -- The whole class may be negated.
  let ((negated, tree), rest) := opening loose cs
  match readRest loose (cs.length + 1) none tree rest with
  | .ok (tree, rest) => .ok (.bracket negated tree, rest)
  | .error verdict => .error verdict

/-- The ranges of a class of ASCII characters. -/
def asciiRanges (name : String) : List (Nat × Nat) :=
  -- Unknown names are not read in the first place.
  match name with
  | "alnum" => [(0x30, 0x39), (0x41, 0x5A), (0x61, 0x7A)]
  | "alpha" => [(0x41, 0x5A), (0x61, 0x7A)]
  | "ascii" => [(0x00, 0x7F)]
  | "blank" => [(0x09, 0x09), (0x20, 0x20)]
  | "cntrl" => [(0x00, 0x1F), (0x7F, 0x7F)]
  | "digit" => [(0x30, 0x39)]
  | "graph" => [(0x21, 0x7E)]
  | "lower" => [(0x61, 0x7A)]
  | "print" => [(0x20, 0x7E)]
  | "punct" => [(0x21, 0x2F), (0x3A, 0x40), (0x5B, 0x60), (0x7B, 0x7E)]
  | "space" => [(0x09, 0x0D), (0x20, 0x20)]
  | "upper" => [(0x41, 0x5A)]
  | "word" => [(0x30, 0x39), (0x41, 0x5A), (0x5F, 0x5F), (0x61, 0x7A)]
  | "xdigit" => [(0x30, 0x39), (0x41, 0x46), (0x61, 0x66)]
  | _ => []

/-- How a class is meant. -/
structure Reading where
  /-- Case does not count. -/
  folds : Bool
  /-- Digits, words and blanks are those of ASCII, with some more blanks. -/
  narrow : Bool
deriving DecidableEq, Repr

/-- The class of digits, of words or of blanks. -/
def letterClass (narrow : Bool) (c : Char) : Text.CharClass :=
  -- Few of the blanks of all alphabets are blanks here when ASCII is meant.
  match c.toLower, narrow with
  | 'd', true => .ranges (asciiRanges "digit")
  | 'd', false => Text.Category.toClass .decimal
  | 'w', true => .ranges (asciiRanges "word")
  | 'w', false => Text.wordClass
  | _, true => .ranges [(0x09, 0x0D), (0x20, 0x20), (0xA0, 0xA0), (0x2003, 0x2003),
      (0x2029, 0x2029), (0xFEFF, 0xFEFF)]
  | _, false => (Text.propertyClass? "whitespace").getD .none

/-- The class of characters that a tree stands for, if all its names are known. -/
def resolve? (reading : Reading) : ClassTree → Option Text.CharClass
  -- Case is settled before a class is negated or combined.
  | .nothing => some .none
  | .range first last => some (.ranges [(first.toNat, last.toNat)])
  | .letter c =>
    some (.negatedIf c.isUpper (.foldedIf reading.folds (letterClass reading.narrow c)))
  | .named negated (.plain name) =>
    (Text.namedClass? name).map fun set => .negatedIf negated (.foldedIf reading.folds set)
  | .named negated (.value name value) =>
    (Text.valueClass? name value).map fun set => .negatedIf negated (.foldedIf reading.folds set)
  | .ascii negated name =>
    some (.negatedIf negated (.foldedIf reading.folds (.ranges (asciiRanges name))))
  | .bracket negated inner => do
    let set ← inner.resolve? reading
    return .negatedIf negated (.foldedIf reading.folds set)
  | .either first second => do
    let first ← first.resolve? reading
    return .either first (← second.resolve? reading)
  | .combined how first second => do
    let first := Text.CharClass.foldedIf reading.folds (← first.resolve? reading)
    let second := Text.CharClass.foldedIf reading.folds (← second.resolve? reading)
    return match how with
      | .both => .both first second
      | .without => .without first second
      | .onlyOne => .onlyOne first second

end ClassTree

end TemplateFacts.Contract
