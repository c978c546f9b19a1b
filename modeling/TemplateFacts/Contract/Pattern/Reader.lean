import TemplateFacts.Contract.Pattern.ClassTree
import TemplateFacts.Contract.Pattern.Expression
import TemplateFacts.Text.Digits

/-!
The reader of expressions.

Flags hold from where they are set up to the end of the text, or of the group without a number that
they are set in. Groups with a number do not bound them.
-/

namespace TemplateFacts.Contract.ExpressionReader

/-- What is known in the middle of a text. -/
structure State where
  /-- The number of bytes of the whole text. -/
  size : Nat
  /-- Digits, words and blanks are those of ASCII, with some more blanks. -/
  narrow : Bool
  /-- Case does not count. -/
  folds : Bool
  /-- Anchors hold at each line. -/
  multiline : Bool
  /-- A point stands for the end of a line too. -/
  dotAll : Bool
  /-- Repetitions are greedy unless a question mark follows, or the other way around. -/
  swapped : Bool
  /-- Blanks and comments do not count. -/
  loose : Bool
  /-- The number of groups that were opened. -/
  opened : Nat
  names : List (List Char × Nat)
  /-- The groups that were referred to. -/
  referred : List Nat
  /-- A group was referred to by its number. -/
  numbered : Bool

/-- What is read, the state behind it, and the characters that are left. -/
abbrev Part (α : Type) := α × State × List Char

/-- The greatest depth of groups. -/
def greatestDepth : Nat := 63

/-- The characters behind a comment in parentheses. -/
def skipComment : List Char → Option (List Char)
  -- A backslash protects the character behind it.
  | [] => none
  | ')' :: rest => some rest
  | '\\' :: _ :: rest => skipComment rest
  | _ :: rest => skipComment rest

/-- The characters behind comments, and behind blanks if these do not count. -/
def skipFor : (fuel : Nat) → (loose : Bool) → List Char → Option (List Char)
  | 0, _, cs => some cs
  | fuel + 1, loose, cs =>
    match cs with
    | '(' :: '?' :: '#' :: rest =>
      match skipComment rest with
      | some rest => skipFor fuel loose rest
      | none => none
    | c :: rest =>
      if !loose then some cs
      else if c == '#' then skipFor fuel loose ((rest.dropWhile (· != '\n')).drop 1)
      else if c == ' ' || c == '\t' || c == '\r' || c == '\n' then skipFor fuel loose rest
      else some cs
    | [] => some []

/-- The characters behind what does not count. -/
def skip? (state : State) (cs : List Char) : Option (List Char) :=
  skipFor (cs.length + 1) state.loose cs

/-- Reads a decimal number that a machine word can hold. -/
def decimal? (cs : List Char) : Option (Nat × List Char) :=
  -- At least one digit is needed.
  let digits := cs.takeWhile Char.isDigit
  let value := digits.foldl (fun n c => n * 10 + (c.toNat - 48)) 0
  if digits.isEmpty || value ≥ 18446744073709551616 then none
  else some (value, cs.drop digits.length)

/-- Reads the bounds of a repetition behind their opening brace. -/
def bounds? (state : State) (cs : List Char) : Option ((Nat × Option Nat) × List Char) := do
  -- The lower bound may be absent before a comma.
  let cs ← skip? state cs
  let (least, cs) ← match cs with
    | ',' :: _ => some (0, cs)
    | cs => decimal? cs
  let cs ← skip? state cs
  let (greatest, cs) ← match cs with
    | '\x7d' :: _ => some (some least, cs)
    | ',' :: rest => do
      let rest ← skip? state rest
      match decimal? rest with
      | some (greatest, rest) => some (some greatest, rest)
      | none => some (none, rest)
    | _ => none
  match ← skip? state cs with
  | '\x7d' :: rest => return ((least, greatest), rest)
  | _ => none

/-- Reads a reference to a group by its number. -/
def numbered? (state : State) (cs : List Char) : Option (Part Nat) := do
  -- Only groups that were opened before are known.
  let (group, rest) ← decimal? cs
  if group < state.size / 2 && group ≤ state.opened then
    return (group, { state with numbered := true, referred := group :: state.referred }, rest)
  else none

/-- Reads a name between an opening and a closing sign, if it is followed by the closing one. -/
def name? (closing : Char) (cs : List Char) : Option (List Char × List Char) :=
  -- Names are made of letters, numbers and underscores.
  let isNameChar (c : Char) : Bool := c == '_' || Text.isAlphanumeric c
  let name := cs.takeWhile isNameChar
  match name, cs.dropWhile isNameChar with
  | [], _ => none
  | name, c :: rest => if c == closing then some (name, rest) else none
  | _, [] => none

/-- Reads a reference to a group by its name, behind the opening sign. -/
def named? (state : State) (closing : Char) (cs : List Char) : Option (Part Nat) := do
  -- A number may stand for a name, and is counted backwards behind a minus.
  let (group, rest) ← match cs with
    | '-' :: digits => do
      let (name, rest) ← name? closing digits
      let count ← Text.readNat? name
      if count == 0 || count > state.opened then none else some (state.opened + 1 - count, rest)
    | cs => do
      let (name, rest) ← name? closing cs
      let group ← (state.names.lookup name) <|> Text.readNat? name
      some (group, rest)
  if group ≤ state.opened then
    return (group, { state with referred := group :: state.referred }, rest)
  else none

/-- Reads a code point behind the letter that announces so many digits. -/
def codePoint? (count : Nat) (cs : List Char) : Option (Char × List Char) := do
  -- Braces hold from one digit to eight.
  let isHex (c : Char) : Bool := (Text.hexValue? c).isSome
  let digits := cs.take count
  if digits.length == count && digits.all isHex then
    return (← ClassTree.codeChar? digits, cs.drop count)
  else match cs with
    | '\x7b' :: rest =>
      let digits := rest.takeWhile isHex
      match rest.dropWhile isHex with
      | '\x7d' :: behind =>
        if digits.isEmpty || digits.length > 8 then none
        else return (← ClassTree.codeChar? digits, behind)
      | _ => none
    | _ => none

/-- The characters of the name of a class, and those behind it. -/
def className? (cs : List Char) : Option (List Char × List Char) :=
  -- Braces belong to the name.
  match cs with
  | '\x7b' :: rest =>
    match rest.dropWhile (· != '\x7d') with
    | _ :: behind => some ('\x7b' :: rest.takeWhile (· != '\x7d') ++ ['\x7d'], behind)
    | [] => none
  | c :: rest => some ([c], rest)
  | [] => none

/-- The character that a letter stands for behind a backslash. -/
def special? (c : Char) : Option Char :=
  match c with
  | 'a' => some '\x07'
  | 'b' => some '\x08'
  | 'f' => some '\x0c'
  | 'n' => some '\n'
  | 'r' => some '\r'
  | 't' => some '\t'
  | 'v' => some '\x0b'
  | 'e' => some '\x1b'
  | _ => none

/-- What stands behind a backslash inside a class or outside. -/
inductive Escaped where
  | char (c : Char)
  /-- A class, as it is written. -/
  | set (written : List Char)

/-- The class of hexadecimal digits, or what lies outside, as it is written. -/
def hexClass (negated : Bool) : List Char :=
  (if negated then "[^0-9A-Fa-f]" else "[0-9A-Fa-f]").toList

/-- Reads what stands behind a backslash and means the same inside a class and outside. -/
def escaped? (inClass : Bool) (cs : List Char) : Option (Escaped × List Char) :=
  -- Letters that stand for nothing are refused.
  match cs with
  | [] => none
  | c :: rest =>
    if "dswDSW".toList.contains c then some (.set ['\\', c], rest)
    else if c == 'h' || c == 'H' then some (.set (hexClass (c == 'H')), rest)
    else if c == 'x' || c == 'u' || c == 'U' then
      (codePoint? (if c == 'x' then 2 else if c == 'u' then 4 else 8) rest).map
        fun (c, rest) => (.char c, rest)
    else if (c == 'p' || c == 'P') && !rest.isEmpty then
      (className? rest).map fun (name, rest) => (.set ('\\' :: c :: name), rest)
    else match special? c with
      | some c => some (.char c, rest)
      | none =>
        if c.isAlpha && !(inClass && "kAzBKG".toList.contains c) then none
        else some (.char c, rest)

/-- Takes the text of a class up to its closing bracket, with escapes resolved. -/
def classText? (state : State) : (fuel depth : Nat) → List Char → Option (List Char × List Char)
  -- Brackets are counted, wherever they stand.
  | 0, _, _ => none
  | fuel + 1, depth, cs =>
    match skip? state cs with
    | none => none
    | some [] => none
    | some ('\\' :: rest) =>
      if (rest.head?.map Char.isDigit).getD true then none
      else match escaped? true rest with
        | none => none
        | some (.char c, rest) =>
          (classText? state fuel depth rest).map fun (text, rest) =>
            (if ClassTree.isMeta c then '\\' :: c :: text else c :: text, rest)
        | some (.set written, rest) =>
          (classText? state fuel depth rest).map fun (text, rest) => (written ++ text, rest)
    | some ('[' :: rest) =>
      (classText? state fuel (depth + 1) rest).map fun (text, rest) => ('[' :: text, rest)
    | some (']' :: rest) =>
      match depth with
      | 0 => some ([']'], rest)
      | depth + 1 => (classText? state fuel depth rest).map fun (text, rest) => (']' :: text, rest)
    | some (c :: rest) =>
      (classText? state fuel depth rest).map fun (text, rest) => (c :: text, rest)

/-- The class of characters that a text writes, behind its opening bracket. -/
def classOf? (state : State) (text : List Char) : Option Text.CharClass :=
  -- Nothing may be left over.
  match ClassTree.read false text with
  | .ok (tree, []) => tree.resolve? ⟨state.folds, state.narrow⟩
  | _ => none

/-- Reads a class behind its opening bracket. -/
def class? (state : State) (cs : List Char) : Option (Part Expression) := do
  -- A closing bracket at the very front stands for itself.
  let (front, cs) := match cs with
    | '^' :: ']' :: rest => (['^', ']'], rest)
    | '^' :: rest => (['^'], rest)
    | ']' :: rest => ([']'], rest)
    | cs => ([], cs)
  let (text, rest) ← classText? state (cs.length + 1) 0 cs
  return (.set (← classOf? state (front ++ text)), state, rest)

/-- The class that a text without brackets writes. -/
def loneClass? (state : State) (written : List Char) : Option Text.CharClass :=
  classOf? state (written ++ [']'])

/-- Reads what stands behind a backslash outside of classes. -/
def escape? (state : State) (cs : List Char) : Option (Part Expression) := do
  -- Edges and references come first.
  match cs with
  | [] => none
  | c :: rest =>
    let edge (e : Edge) : Option (Part Expression) := some (.edge e, state, rest)
    if c.isDigit then
      let (group, state, rest) ← numbered? state cs
      return (.again group, state, rest)
    match c with
    | 'k' =>
      let (closing, rest) ← match rest with
        | '<' :: rest => some ('>', rest)
        | '\'' :: rest => some ('\'', rest)
        | _ => none
      let (group, state, rest) ← named? state closing rest
      return (.again group, state, rest)
    | 'A' => edge .textStart
    | 'z' => edge .textEnd
    | 'b' => if rest.head? == some '\x7b' then none else edge .wordEdge
    | 'B' => if rest.head? == some '\x7b' then none else edge .noWordEdge
    | '<' => edge .wordStart
    | '>' => edge .wordEnd
    | 'K' => return (.keep, state, rest)
    | 'G' => return (.origin, state, rest)
    | _ =>
      match ← escaped? false cs with
      | (.char c, rest) => return (.char c state.folds, state, rest)
      | (.set ('[' :: text), rest) =>
        return (.set (← classOf? { state with folds := false } text), state, rest)
      | (.set written, rest) => return (.set (← loneClass? state written), state, rest)

/-- Reads flags behind a question mark, with the sign that ends them. -/
def flags? : (fuel : Nat) → (negated : Bool) → (count : Nat) → State → List Char →
    Option (Part (Char × Nat))
  -- A minus takes back the flags that follow it.
  | 0, _, _, _, _ => none
  | fuel + 1, negated, count, state, cs =>
    match skip? state cs with
    | some (c :: rest) =>
      let go (state : State) : Option (Part (Char × Nat)) := flags? fuel negated (count + 1) state rest
      match c with
      | 'i' => go { state with folds := !negated }
      | 'm' => go { state with multiline := !negated }
      | 's' => go { state with dotAll := !negated }
      | 'U' => go { state with swapped := !negated }
      | 'x' => go { state with loose := !negated }
      | 'u' => if negated then none else go state
      | '-' => if negated then none else flags? fuel true (count + 1) state rest
      | ')' => if count == 0 || (negated && count == 1) then none
        else some ((')', count), state, rest)
      | ':' => if negated && count == 1 then none else some ((':', count), state, rest)
      | _ => none
    | _ => none

/-- The characters behind a closing parenthesis. -/
def closed? (state : State) (cs : List Char) : Option (List Char) := do
  match ← skip? state cs with
  | ')' :: rest => some rest
  | _ => none

/-- The kind of a group, by what stands behind its opening parenthesis. -/
inductive Kind where
  | capture
  | look (behind negative : Bool)
  | atomic
  | named (text : List Char)
  | backward (text : List Char)
  | choice
  | flags

/-- Tells the kind of a group, and passes the signs that tell it. -/
def kindOf (cs : List Char) : Kind × List Char :=
  match cs with
  | '?' :: '=' :: rest => (.look false false, rest)
  | '?' :: '!' :: rest => (.look false true, rest)
  | '?' :: '<' :: '=' :: rest => (.look true false, rest)
  | '?' :: '<' :: '!' :: rest => (.look true true, rest)
  | '?' :: '<' :: rest => (.named rest, rest)
  | '?' :: 'P' :: '<' :: rest => (.named rest, rest)
  | '?' :: 'P' :: '=' :: rest => (.backward rest, rest)
  | '?' :: '>' :: rest => (.atomic, rest)
  | '?' :: '(' :: rest => (.choice, rest)
  | '?' :: rest => (.flags, rest)
  | rest => (.capture, rest)

/-- Expressions one after the other, as one. -/
def sequence : List Expression → Expression
  | [] => .empty
  | [only] => only
  | parts => .seq parts

/-- The two branches of a choice: the first alternative and the others. -/
def branches : Expression → Expression × Expression
  -- Without alternatives the second branch is empty.
  | .either (first :: others) =>
    (first, match others with
      | [only] => only
      | others => .either others)
  | e => (e, .empty)

/-- A choice, which is its condition alone when both of its branches are empty. -/
def choiceOf (condition yes no : Expression) : Expression :=
  -- A reference in the place of a condition asks whether the group has matched.
  let condition := match condition with
    | .again group => .known group
    | condition => condition
  if yes.isEmpty && no.isEmpty then condition else .choice condition yes no

mutual
/-- Reads alternatives. -/
def alternatives? : (fuel depth : Nat) → State → List Char → Option (Part Expression)
  -- Numbers and names of groups are not both used in a text without alternatives.
  | 0, _, _, _ => none
  | fuel + 1, depth, state, cs => do
    let (first, state, cs) ← parts? fuel depth state cs
    match ← skip? state cs with
    | '|' :: rest =>
      let (others, state, cs) ← moreAlternatives? fuel depth state rest
      return (.either (first :: others), state, cs)
    | cs =>
      if state.numbered && !state.names.isEmpty then none
      else return (first, state, cs)

/-- Reads the alternatives behind a bar. -/
def moreAlternatives? : (fuel depth : Nat) → State → List Char → Option (Part (List Expression))
  | 0, _, _, _ => none
  | fuel + 1, depth, state, cs => do
    let (first, state, cs) ← parts? fuel depth state cs
    match ← skip? state cs with
    | '|' :: rest =>
      let (others, state, cs) ← moreAlternatives? fuel depth state rest
      return (first :: others, state, cs)
    | cs => return ([first], state, cs)

/-- Reads parts one after the other. -/
def parts? : (fuel depth : Nat) → State → List Char → Option (Part Expression)
  | 0, _, _, _ => none
  | fuel + 1, depth, state, cs => do
    let (parts, state, cs) ← partList? fuel depth state cs
    return (sequence parts, state, cs)

/-- Reads a list of parts that are not empty. -/
def partList? : (fuel depth : Nat) → State → List Char → Option (Part (List Expression))
  -- A part of no characters at all is the end.
  | 0, _, _, _ => none
  | fuel + 1, depth, state, cs => do
    if cs.isEmpty then return ([], state, [])
    let (part, state, rest) ← part? fuel depth state cs
    if rest.length == cs.length then return ([], state, rest)
    let (parts, state, rest) ← partList? fuel depth state rest
    return (if part.isEmpty then parts else part :: parts, state, rest)

/-- Reads an atom with its repetition. -/
def part? : (fuel depth : Nat) → State → List Char → Option (Part Expression)
  -- Braces that hold no bounds stand for themselves.
  | 0, _, _, _ => none
  | fuel + 1, depth, state, cs => do
    let (atom, state, cs) ← atom? fuel depth state cs
    let cs ← skip? state cs
    let bounds : Option ((Nat × Option Nat) × List Char) := match cs with
      | '?' :: rest => some ((0, some 1), rest)
      | '*' :: rest => some ((0, none), rest)
      | '+' :: rest => some ((1, none), rest)
      | '\x7b' :: rest => bounds? state rest
      | _ => none
    match bounds with
    | none => return (atom, state, cs)
    | some ((least, greatest), rest) =>
      if !atom.isRepeatable then none
      else
        let (isLazy, rest) := match ← skip? state rest with
          | '?' :: rest => (true, rest)
          | rest => (false, rest)
        let repeated := Expression.repeated atom least greatest (isLazy == state.swapped)
        match rest with
        | '+' :: rest => return (.atomic repeated, state, rest)
        | rest => return (repeated, state, rest)

/-- Reads an atom, which is empty before a sign that cannot begin one. -/
def atom? : (fuel depth : Nat) → State → List Char → Option (Part Expression)
  | 0, _, _, _ => none
  | fuel + 1, depth, state, cs => do
    match ← skip? state cs with
    | [] => return (.empty, state, [])
    | c :: rest =>
      match c with
      | '.' => return (.any state.dotAll, state, rest)
      | '^' => return (.edge (if state.multiline then .lineStart else .textStart), state, rest)
      | '$' => return (.edge (if state.multiline then .lineEnd else .textEnd), state, rest)
      | '(' => group? fuel (depth + 1) state rest
      | '\\' => escape? state rest
      | '[' => class? state rest
      | c =>
        if "+*?|)".toList.contains c then return (.empty, state, c :: rest)
        else return (.char c state.folds, state, rest)

/-- Reads a group behind its opening parenthesis. -/
def group? : (fuel depth : Nat) → State → List Char → Option (Part Expression)
  -- Groups are numbered in the order in which they open.
  | 0, _, _, _ => none
  | fuel + 1, depth, state, cs => do
    if depth > greatestDepth then none
    let (kind, cs) := kindOf (← skip? state cs)
    let opened := { state with opened := state.opened + 1 }
    match kind with
    | .capture =>
      let (inner, state, cs) ← alternatives? fuel depth opened cs
      return (.group opened.opened inner, state, ← closed? state cs)
    | .named text =>
      let (name, cs) ← name? '>' text
      let opened := { opened with names := (name, opened.opened) :: opened.names }
      let (inner, state, cs) ← alternatives? fuel depth opened cs
      return (.group opened.opened inner, state, ← closed? state cs)
    | .look behind negative =>
      let (inner, state, cs) ← alternatives? fuel depth state cs
      return (.look behind negative inner, state, ← closed? state cs)
    | .atomic =>
      let (inner, state, cs) ← alternatives? fuel depth state cs
      return (.atomic inner, state, ← closed? state cs)
    | .backward text =>
      let (group, state, cs) ← named? state ')' text
      return (.again group, state, cs)
    | .choice => choice? fuel depth state cs
    | .flags =>
      let ((sign, _), inside, cs) ← flags? (cs.length + 1) false 0 state cs
      if sign == ')' then return (.empty, inside, cs)
      else
        let (inner, inside, cs) ← alternatives? fuel depth inside cs
        match cs with
        | ')' :: rest =>
          return (inner, { inside with
            folds := state.folds, multiline := state.multiline, dotAll := state.dotAll
            swapped := state.swapped, loose := state.loose }, rest)
        | _ => none

/-- Reads a choice behind the parenthesis that opens its condition. -/
def choice? : (fuel depth : Nat) → State → List Char → Option (Part Expression)
  -- A condition may be a reference, and needs no branches then.
  | 0, _, _, _ => none
  | fuel + 1, depth, state, cs => do
    let reference (part : Option (Part Nat)) : Option (Part Expression) :=
      part.map fun (group, rest) => (.again group, rest)
    let (condition, state, cs) ← match cs with
      | [] => none
      | '\'' :: rest => reference (named? state '\'' rest)
      | '<' :: rest => reference (named? state '>' rest)
      | c :: _ =>
        if c.isDigit then reference (numbered? state cs) else alternatives? fuel depth state cs
    let cs ← closed? state cs
    let (inner, state, rest) ← alternatives? fuel depth state cs
    let behind ← closed? state rest
    if rest.length == cs.length then
      match condition with
      | .again group => return (.known group, state, behind)
      | _ => none
    else
      let (yes, no) := branches inner
      return (choiceOf condition yes no, state, behind)
end

/-- An expression, and the groups that it refers to. -/
structure Read where
  expression : Expression
  referred : List Nat
  /-- The number of its groups. -/
  groups : Nat

/-- The expression that a text writes. -/
def read? (text : List Char) (narrow : Bool) : Option Read :=
  -- Nothing may be left over.
  let size := (String.ofList text).utf8ByteSize
  let state : State := ⟨size, narrow, false, false, false, false, false, 0, [], [], false⟩
  match alternatives? (8 * text.length + 16) 0 state text with
  | some (expression, state, []) => some ⟨expression, state.referred, state.opened⟩
  | _ => none

end TemplateFacts.Contract.ExpressionReader
