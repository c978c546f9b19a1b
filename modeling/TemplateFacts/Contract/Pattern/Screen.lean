import TemplateFacts.Contract.Pattern.ClassTree

/-!
The screening of patterns.

Before a pattern is read, its text is held against a strict grammar. Only a text that looks around
or refers back is let through although the grammar knows nothing of that.
-/

namespace TemplateFacts.Contract.Screen

open ClassTree (Piece escape skip)

/-- Takes the digits of a number with blanks around them. -/
def number? (loose : Bool) (cs : List Char) : Option (List Char × List Char) :=
  -- The number may be absent, and must fit into thirty-two bits.
  let cs := cs.dropWhile Text.isBlank
  let digits (fuel : Nat) (cs : List Char) : List Char × List Char :=
    fuel.fold (fun _ _ (taken, cs) => match cs with
      | c :: rest => if c.isDigit then (taken ++ [c], skip loose rest) else (taken, cs)
      | [] => (taken, [])) ([], cs)
  let (taken, rest) := digits cs.length cs
  let value := taken.foldl (fun n c => n * 10 + (c.toNat - 48)) 0
  if value < 4294967296 then some (taken, rest.dropWhile Text.isBlank) else none

/-- The value of digits, none of which may be missing. -/
def countOf? (digits : List Char) : Option Nat :=
  if digits.isEmpty then none
  else some (digits.foldl (fun n c => n * 10 + (c.toNat - 48)) 0)

/-- Passes a question mark. -/
def skipQuestion : List Char → List Char
  | '?' :: rest => rest
  | cs => cs

/-- Passes the bounds of a repetition behind their opening brace. -/
def bounds? (loose : Bool) (cs : List Char) : Option (List Char) := do
  -- The lower bound is needed, and the upper one must not be smaller.
  let (least, rest) ← number? loose (skip loose cs)
  let least ← countOf? least
  let rest ← match rest with
    | ',' :: rest =>
      match skip loose rest with
      | '\x7d' :: rest => some ('\x7d' :: rest)
      | rest => do
        let (greatest, rest) ← number? loose rest
        let greatest ← countOf? greatest
        if greatest < least then none else some rest
    | rest => some rest
  match rest with
  | '\x7d' :: rest => return skipQuestion (skip loose rest)
  | _ => none

/-- Reads flags up to a colon or a closing parenthesis, given those read before. -/
def flags? : (seen : List Char) → List Char → Option (List Char × List Char)
  -- No flag is set twice, and a minus is followed by one.
  | _, [] => none
  | seen, c :: rest =>
    if c == ':' || c == ')' then
      if seen.head? == some '-' then none else some (seen.reverse, c :: rest)
    else if seen.contains c || !("-imsUuRx".toList.contains c) then none
    else flags? (c :: seen) rest

/-- Whether flags make blanks count or not count, if they say so. -/
def looseness? (flags : List Char) : Option Bool :=
  -- Behind a minus flags are taken back.
  if flags.contains 'x' then some !((flags.takeWhile (· != 'x')).contains '-') else none

/-- Reads the name of a group up to the closing angle. -/
def groupName? (cs : List Char) : Option (List Char × List Char) :=
  -- A name begins with a letter or an underscore.
  let name := cs.takeWhile (· != '>')
  let isNameChar (c : Char) : Bool := c == '_' || c == '.' || c == '[' || c == ']'
    || Text.isAlphanumeric c
  match name, cs.dropWhile (· != '>') with
  | first :: others, _ :: rest =>
    if (first == '_' || Text.isLetter first) && others.all isNameChar then some (name, rest)
    else none
  | _, _ => none

/-- What is known in the middle of a text. -/
structure State where
  /-- Blanks and comments do not count. -/
  loose : Bool
  /-- Whether they count around each of the open groups. -/
  outer : List Bool
  /-- What precedes may be repeated. -/
  hasPart : Bool
  names : List (List Char)
  /-- A bell was met. -/
  bell : Bool

/-- Passes the opening of a group behind its parenthesis. -/
def opening (state : State) (cs : List Char) : Piece State :=
  -- Flags alone change what follows up to the end of the group around them.
  let inside (loose : Bool) : State :=
    { state with loose, outer := state.loose :: state.outer, hasPart := false }
  let named (cs : List Char) : Piece State :=
    match groupName? cs with
    | some (name, rest) =>
      if state.names.contains name then .error .wrong
      else .ok ({ inside state.loose with names := name :: state.names }, rest)
    | none => .error .wrong
  match skip state.loose cs with
  | '?' :: '=' :: _ => .error .foreign
  | '?' :: '!' :: _ => .error .foreign
  | '?' :: '<' :: '=' :: _ => .error .foreign
  | '?' :: '<' :: '!' :: _ => .error .foreign
  | '?' :: 'P' :: '<' :: rest => named rest
  | '?' :: '<' :: rest => named rest
  | '?' :: rest =>
    match flags? [] rest with
    | some (flags, ':' :: rest) => .ok (inside ((looseness? flags).getD state.loose), rest)
    | some (flags, _ :: rest) =>
      if flags.isEmpty then .error .wrong
      else .ok ({ state with
        loose := (looseness? flags).getD state.loose, hasPart := false }, rest)
    | _ => .error .wrong
  | rest => .ok (inside state.loose, rest)

/-- Passes one part of a text. -/
def part (state : State) (c : Char) (rest : List Char) : Piece State :=
  -- A sign of repetition needs a part before it.
  let passed : State := { state with hasPart := true }
  match c with
  | '(' => opening state rest
  | ')' =>
    match state.outer with
    | loose :: outer => .ok ({ passed with loose, outer }, rest)
    | [] => .error .wrong
  | '|' => .ok ({ state with hasPart := false }, rest)
  | '[' => (ClassTree.read state.loose rest).map fun (_, rest) => (passed, rest)
  | '\x7b' =>
    match state.hasPart, bounds? state.loose rest with
    | true, some rest => .ok (passed, rest)
    | _, _ => .error .wrong
  | '\\' =>
    match escape state.loose rest with
    | .ok (.bell, rest) => .ok ({ passed with bell := true }, rest)
    | .ok (_, rest) => .ok (passed, rest)
    | .error verdict => .error verdict
  | c =>
    if c == '?' || c == '*' || c == '+' then
      if state.hasPart then .ok (passed, skipQuestion rest) else .error .wrong
    else .ok (passed, rest)

/-- Passes all parts of a text. -/
def parts : (fuel : Nat) → State → List Char → Except Verdict State
  -- No group may be left open.
  | 0, _, _ => .error .wrong
  | fuel + 1, state, cs =>
    match skip state.loose cs with
    | [] => if state.outer.isEmpty then .ok state else .error .wrong
    | c :: rest =>
      match part state c rest with
      | .ok (state, rest) => parts fuel state rest
      | .error verdict => .error verdict

/-- A text that passed the screening, and whether the grammar knows all of it. -/
structure Screened where
  text : List Char
  known : Bool
deriving DecidableEq, Repr

/-- Screens a text, control characters being put in the place of the letters that write them. -/
def screen? : (fuel : Nat) → List Char → Option Screened
  -- The text is screened anew after each replacement.
  | 0, _ => none
  | fuel + 1, cs =>
    match parts (cs.length + 1) ⟨false, [], false, [], false⟩ cs with
    | .ok state => if state.bell then none else some ⟨cs, true⟩
    | .error .wrong => none
    | .error .foreign => some ⟨cs, false⟩
    | .error (.control left) =>
      let at_ := cs.length - left
      match cs.drop (at_ + 2) with
      | letter :: rest => screen? fuel (cs.take at_ ++ Char.ofNat (letter.toNat % 32) :: rest)
      | [] => none

end TemplateFacts.Contract.Screen
