import TemplateFacts.Toml.DateTime
import TemplateFacts.Toml.Number
import TemplateFacts.Toml.Section

/-!
The reader of TOML documents.

A document is a list of lines: values under keys, and headers that open sections. Values under
keys are collected for each section, and sections are put together one after another.
-/

namespace TemplateFacts.Toml

/-- Reads a value that begins with a word. -/
def wordValue? (cs : List Char) : Part Json :=
  -- Words are flags, dates or numbers.
  match word? cs with
  | none => none
  | some (word, rest) =>
    if word == ['t', 'r', 'u', 'e'] then some (.bool true, rest)
    else if word == ['f', 'a', 'l', 's', 'e'] then some (.bool false, rest)
    else
      let numeric : Part Json := (number? word rest).map fun (n, rest) =>
        (match n with
          | .int n => .int n
          | .float x => .float x, rest)
      let isName := word == ['i', 'n', 'f'] || word == ['n', 'a', 'n']
      let first := word.headD ' '
      if !isName && !(first == '-' || Text.isDigit first) then none
      else
        let dashed := (word.drop 1).contains '-'
          && !(word.zip (word.drop 1)).any fun (c, d) => (c == 'e' || c == 'E') && d == '-'
        let text (colonPassed : Bool) (behind : List Char) : Part Json :=
          (dateTime? colonPassed cs behind).map fun (s, rest) => (.text s, rest)
        if word.contains 'T' || word.contains 't' || dashed then text false rest
        else match rest with
          | ':' :: behind => text true behind
          | _ => numeric

/-- The characters behind blanks, line ends and comments. -/
def skipLines : (fuel : Nat) → List Char → List Char
  -- A comment ends at the end of its line.
  | 0, cs => cs
  | fuel + 1, cs =>
    match skipSpace cs with
    | '\n' :: rest => skipLines fuel rest
    | '#' :: rest =>
      match rest.dropWhile isCommentChar with
      | '\n' :: rest => skipLines fuel rest
      | rest => rest
    | rest => rest

/-- Reads keys, the sign between them and their value, and the value. -/
def pairWith? (value : List Char → Part Json) (cs : List Char) :
    Option ((List String × Json) × List Char) := do
  let (keys, cs) ← dottedKey? cs
  let cs ← expect? '=' (skipSpace cs)
  let (j, cs) ← value (skipSpace cs)
  return ((keys, j), cs)

/-- Reads the rest of an inline table, given how values are read. -/
def inlineWith? (value : List Char → Part Json) :
    (fuel : Nat) → Entries → List Char → Part Entries
  -- A comma must be followed by another pair.
  | 0, _, _ => none
  | fuel + 1, entries, cs =>
    match pairWith? value cs with
    | none => none
    | some ((keys, j), cs) =>
      match addValue? j keys entries with
      | none => none
      | some entries =>
        match skipSpace cs with
        | '}' :: cs => some (entries, cs)
        | ',' :: cs => inlineWith? value fuel entries (skipSpace cs)
        | _ => none

/-- Reads the rest of a list, given how values are read. -/
def itemsWith? (value : List Char → Part Json) : (fuel : Nat) → List Char → Part (List Json)
  -- The last item may be followed by a comma.
  | 0, _ => none
  | fuel + 1, cs =>
    match skipLines cs.length cs with
    | ']' :: cs => some ([], cs)
    | cs =>
      match value cs with
      | none => none
      | some (j, cs) =>
        match skipLines cs.length cs with
        | ',' :: cs => (itemsWith? value fuel cs).map fun (js, cs) => (j :: js, cs)
        | ']' :: cs => some ([j], cs)
        | _ => none

/-- Reads a value, with lists and tables nested at most so deep. -/
def value? : (depth : Nat) → List Char → Part Json
  -- The first character tells the kind.
  | 0, _ => none
  | depth + 1, cs =>
    match cs with
    | [] => none
    | c :: rest =>
      if c == '"' || c == '\'' then
        (quoted? c rest).map fun (q, rest) => (.text (String.ofList q.text), rest)
      else if c == '[' then
        (itemsWith? (value? depth) (rest.length + 1) rest).map fun (js, rest) => (.list js, rest)
      else if c == '\x7b' then
        match skipSpace rest with
        | '}' :: rest => some (.object [], rest)
        | rest =>
          match inlineWith? (value? depth) (rest.length + 1) [] rest with
          | none => none
          | some (entries, rest) => (tableOf? entries).map fun j => (j, rest)
      else if c == '+' then
        match word? rest with
        | some (word, rest) => (number? word rest).map fun (n, rest) =>
          (match n with
            | .int n => .int n
            | .float x => .float x, rest)
        | none => none
      else wordValue? cs

/-- A section under its header, with its values. -/
structure Section where
  isItem : Bool
  header : List String
  entries : Entries

/-- Reads a header behind its first bracket, and the end of its line. -/
def header? (cs : List Char) : Option ((Bool × List String) × List Char) := do
  -- Two brackets begin a table of a list.
  let (isItem, cs) := match cs with
    | '[' :: cs => (true, cs)
    | cs => (false, cs)
  let (keys, cs) ← dottedKey? (skipSpace cs)
  let cs ← expect? ']' cs
  let cs ← if isItem then expect? ']' cs else some cs
  let cs ← endLine? cs
  return ((isItem, keys), cs)

/-- Reads the lines of a document, given the section in hand and the tables before it. -/
def lines? : (fuel : Nat) → Section → Entries → List Char → Option Entries
  -- A section is put in its place when the next one begins.
  | 0, _, _, _ => none
  | fuel + 1, current, root, cs =>
    let close : Option Entries :=
      if current.header.isEmpty then some current.entries
      else addSection? current.isItem current.entries current.header root
    match skipLines cs.length cs with
    | [] => close
    | '[' :: cs =>
      match close, header? cs with
      | some root, some ((isItem, header), cs) => lines? fuel ⟨isItem, header, []⟩ root cs
      | _, _ => none
    | cs =>
      match pairWith? (value? (cs.length + 1)) cs with
      | none => none
      | some ((keys, j), cs) =>
        match addValue? j keys current.entries, endLine? cs with
        | some entries, some cs => lines? fuel { current with entries } root cs
        | _, _ => none

/-- The document that a text writes, an object unless it is a date-time in disguise. -/
def ofText? (s : String) : Option Json :=
  -- A mark at the very beginning is passed over.
  let cs := match s.toList with
    | '\uFEFF' :: cs => cs
    | cs => cs
  let cs := foldLineEnds cs
  (lines? (cs.length + 1) ⟨false, [], []⟩ [] cs).bind rootOf?

end TemplateFacts.Toml
