import TemplateFacts.Text.Digits

/-! The smallest parts of a TOML document: blanks, keys in plain letters, and quoted texts. -/

namespace TemplateFacts.Toml

/-- What is read at the beginning of some characters, and the characters behind it. -/
abbrev Part (α : Type) := Option (α × List Char)

/-- Line ends of two characters are taken for one. -/
def foldLineEnds : List Char → List Char
  -- A carriage return stays where no line feed follows.
  | '\r' :: '\n' :: cs => '\n' :: foldLineEnds cs
  | c :: cs => c :: foldLineEnds cs
  | [] => []

/-- A character that separates without ending a line. -/
def isSpace (c : Char) : Bool := c == ' ' || c == '\t'

/-- A character of a key in plain letters. -/
def isKeyChar (c : Char) : Bool :=
  ('A' ≤ c && c ≤ 'Z') || ('a' ≤ c && c ≤ 'z') || Text.isDigit c || c == '-' || c == '_'

/-- A character of a comment. -/
def isCommentChar (c : Char) : Bool := c == '\t' || ' ' ≤ c

/-- A character that stands for itself in a quoted text. -/
def isTextChar (c : Char) : Bool := isCommentChar c && c != '\x7f'

/-- The characters behind separators. -/
def skipSpace (cs : List Char) : List Char := cs.dropWhile isSpace

/-- The characters behind a comment, if there is one. -/
def skipComment : List Char → List Char
  -- The end of the line is no part of the comment.
  | '#' :: cs => cs.dropWhile isCommentChar
  | cs => cs

/-- Passes separators, a comment and the end of the line. -/
def endLine? (cs : List Char) : Option (List Char) :=
  -- The last line needs no end.
  match skipComment (skipSpace cs) with
  | [] => some []
  | '\n' :: rest => some rest
  | _ => none

/-- Passes a character that must stand there. -/
def expect? (c : Char) : List Char → Option (List Char)
  | d :: cs => if d == c then some cs else none
  | [] => none

/-- Reads a key or another word in plain letters. -/
def word? (cs : List Char) : Part (List Char) :=
  let word := cs.takeWhile isKeyChar
  if word.isEmpty then none else some (word, cs.dropWhile isKeyChar)

/-- Reads as many hexadecimal digits, and gives their value. -/
def hexValue? : (count value : Nat) → List Char → Part Nat
  -- Digits may be of either case.
  | 0, value, cs => some (value, cs)
  | _ + 1, _, [] => none
  | count + 1, value, c :: cs =>
    if Text.isDigit c then hexValue? count (value * 16 + (c.toNat - 48)) cs
    else if 'a' ≤ c && c ≤ 'f' then hexValue? count (value * 16 + (c.toNat - 87)) cs
    else if 'A' ≤ c && c ≤ 'F' then hexValue? count (value * 16 + (c.toNat - 55)) cs
    else none

/-- Reads a character by its number in so many hexadecimal digits. -/
def numbered? (count : Nat) (cs : List Char) : Part (List Char) :=
  -- The number must be that of a character.
  match hexValue? count 0 cs with
  | some (n, rest) => if n.isValidChar then some ([Char.ofNat n], rest) else none
  | none => none

/-- Passes the blanks behind a backslash that joins lines. -/
def joinLines? (c : Char) (cs : List Char) : Part (List Char) :=
  -- Nothing but separators may stand before the end of the line.
  let isBlank (c : Char) : Bool := isSpace c || c == '\n'
  if c == '\n' then some ([], cs.dropWhile isBlank)
  else match skipSpace cs with
    | '\n' :: rest => some ([], rest.dropWhile isBlank)
    | [] => some ([], [])
    | _ => none

/-- Reads what stands behind a backslash. -/
def escape? (multiline : Bool) : List Char → Part (List Char)
  -- Lines are joined only in texts of many lines.
  | [] => none
  | c :: cs =>
    match c with
    | '"' => some (['"'], cs)
    | '\\' => some (['\\'], cs)
    | 'b' => some (['\x08'], cs)
    | 'f' => some (['\x0c'], cs)
    | 'n' => some (['\n'], cs)
    | 'r' => some (['\r'], cs)
    | 't' => some (['\t'], cs)
    | 'u' => numbered? 4 cs
    | 'U' => numbered? 8 cs
    | c => if multiline && (isSpace c || c == '\n') then joinLines? c cs else none

/-- Reads a text up to its quotes, given how many quotes stand right before. -/
def quotedBody? (quote : Char) (multiline : Bool) :
    (fuel : Nat) → (quotes : Nat) → List Char → Part (List Char)
  -- Three quotes end a text of many lines, and up to two more belong to it.
  | 0, _, _ => none
  | fuel + 1, quotes, cs =>
    let pushed (count : Nat) (part : Part (List Char)) : Part (List Char) :=
      part.map fun (text, rest) => (List.replicate count quote ++ text, rest)
    match cs with
    | [] => if quotes ≥ 3 then some (List.replicate (quotes - 3) quote, []) else none
    | c :: rest =>
      if c == quote then
        if !multiline then some ([], rest)
        else if quotes == 4 then some ([quote, quote], rest)
        else quotedBody? quote multiline fuel (quotes + 1) rest
      else if quotes ≥ 3 then some (List.replicate (quotes - 3) quote, cs)
      else if c == '\n' then
        if multiline then
          pushed quotes ((quotedBody? quote multiline fuel 0 rest).map fun (text, rest) =>
            (c :: text, rest))
        else none
      else if c == '\\' && quote == '"' then
        match escape? multiline rest with
        | some (escaped, rest) =>
          pushed quotes ((quotedBody? quote multiline fuel 0 rest).map fun (text, rest) =>
            (escaped ++ text, rest))
        | none => none
      else if isTextChar c then
        pushed quotes ((quotedBody? quote multiline fuel 0 rest).map fun (text, rest) =>
          (c :: text, rest))
      else none

/-- A quoted text, and whether it may have many lines. -/
structure QuotedText where
  text : List Char
  multiline : Bool

/-- Reads a quoted text behind its first quote. -/
def quoted? (quote : Char) (cs : List Char) : Part QuotedText :=
  -- A line end right behind three quotes is no part of the text.
  let body (multiline : Bool) (cs : List Char) : Part QuotedText :=
    (quotedBody? quote multiline (cs.length + 1) 0 cs).map fun (text, rest) =>
      (⟨text, multiline⟩, rest)
  match cs with
  | c :: d :: rest =>
    if c == quote && d == quote then
      match rest with
      | '\n' :: rest => body true rest
      | rest => body true rest
    else if c == quote then some (⟨[], false⟩, d :: rest)
    else body false cs
  | [c] => if c == quote then some (⟨[], false⟩, []) else body false cs
  | [] => none

/-- Reads a key, in plain letters or quoted. -/
def key? (cs : List Char) : Part String :=
  -- A quoted key has one line.
  match cs with
  | [] => none
  | c :: rest =>
    if c == '"' || c == '\'' then
      match quoted? c rest with
      | some (q, rest) => if q.multiline then none else some (String.ofList q.text, rest)
      | none => none
    else (word? cs).map fun (word, rest) => (String.ofList word, rest)

/-- Reads keys joined by points, and passes the separators behind them. -/
def keys? : (fuel : Nat) → List Char → Part (List String)
  -- Separators may stand around the points.
  | 0, _ => none
  | fuel + 1, cs =>
    match key? cs with
    | none => none
    | some (key, rest) =>
      match skipSpace rest with
      | '.' :: rest => (keys? fuel (skipSpace rest)).map fun (keys, rest) => (key :: keys, rest)
      | rest => some ([key], rest)

/-- Reads keys joined by points. -/
def dottedKey? (cs : List Char) : Part (List String) := keys? (cs.length + 1) cs

end TemplateFacts.Toml
