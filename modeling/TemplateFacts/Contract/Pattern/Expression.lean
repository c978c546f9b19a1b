import TemplateFacts.Contract.Pattern.Basic
import TemplateFacts.Text.NamedClass

/-!
Expressions: patterns that may look around and refer back to what was matched.

An expression that does neither is plain, and has the meaning of a pattern. Any other is hard.
-/

namespace TemplateFacts.Contract

/-- A condition on a place in a text. -/
inductive Edge where
  | textStart
  | textEnd
  | lineStart
  | lineEnd
  | wordStart
  | wordEnd
  /-- A word begins or ends. -/
  | wordEdge
  | noWordEdge
deriving DecidableEq, Repr

/-- A character of a word precedes the place. -/
def Place.followsWord (place : Place) : Bool := (place.before.head?.map Text.isWordChar).getD false

/-- A character of a word follows the place. -/
def Place.precedesWord (place : Place) : Bool := (place.rest.head?.map Text.isWordChar).getD false

/-- The condition holds of a place. -/
def Edge.holds (place : Place) : Edge → Bool
  -- Words are made of the letters and digits of all alphabets.
  | .textStart => place.isStart
  | .textEnd => place.isEnd
  | .lineStart => place.isLineStart
  | .lineEnd => place.isLineEnd
  | .wordStart => !place.followsWord && place.precedesWord
  | .wordEnd => place.followsWord && !place.precedesWord
  | .wordEdge => place.followsWord != place.precedesWord
  | .noWordEdge => place.followsWord == place.precedesWord

/-- An expression. -/
inductive Expression where
  | empty
  /-- Any character, or any but the end of a line. -/
  | any (lineEnds : Bool)
  | char (c : Char) (folds : Bool)
  | set (members : Text.CharClass)
  | edge (edge : Edge)
  | seq (parts : List Expression)
  | either (choices : List Expression)
  | group (number : Nat) (inner : Expression)
  /-- What follows or precedes matches, or does not match. -/
  | look (behind negative : Bool) (inner : Expression)
  | repeated (inner : Expression) (least : Nat) (greatest : Option Nat) (greedy : Bool)
  /-- The first way to match is the only one. -/
  | atomic (inner : Expression)
  /-- What a group has matched. -/
  | again (group : Nat)
  /-- The group has matched. -/
  | known (group : Nat)
  /-- The match is taken to begin here. -/
  | keep
  /-- The place where the search begins. -/
  | origin
  | choice (condition yes no : Expression)
deriving Inhabited

namespace Expression

/-- The expression matches the empty text by itself. -/
def isEmpty : Expression → Bool
  | .empty => true
  | _ => false

/-- The expression may be repeated. -/
def isRepeatable : Expression → Bool
  -- What takes no character by its nature is not repeated.
  | .empty => false
  | .edge _ => false
  | .look .. => false
  | _ => true

/-- What is known of the matches of an expression. -/
structure Measure where
  /-- The least number of characters. -/
  least : Nat
  /-- All matches are of one length. -/
  fixed : Bool
  hard : Bool
deriving DecidableEq, Repr

mutual
/-- Measures an expression, given the groups that are referred to. -/
def measure (referred : List Nat) : Expression → Measure
  -- A group that is referred to has to be tried in all ways.
  | .empty => ⟨0, true, false⟩
  | .any _ => ⟨1, true, false⟩
  | .char .. => ⟨1, true, false⟩
  | .set _ => ⟨1, true, false⟩
  | .edge e =>
    ⟨0, true, e == .wordStart || e == .wordEnd || e == .wordEdge || e == .noWordEdge⟩
  | .seq parts => measureSeq referred parts
  | .either choices =>
    match choices with
    | [] => ⟨0, false, false⟩
    | first :: others => measureEither referred (measure referred first) others
  | .group number inner =>
    let m := measure referred inner
    { m with hard := m.hard || referred.contains number }
  | .look .. => ⟨0, true, true⟩
  | .repeated inner least greatest _ =>
    let m := measure referred inner
    ⟨m.least * least, m.fixed && greatest == some least, m.hard⟩
  | .atomic inner => { measure referred inner with hard := true }
  | .again _ => ⟨0, false, true⟩
  | .known _ => ⟨0, true, true⟩
  | .keep => ⟨0, true, true⟩
  | .origin => ⟨0, true, true⟩
  | .choice condition yes no =>
    let c := measure referred condition
    let y := measure referred yes
    let n := measure referred no
    ⟨c.least + min y.least n.least,
      c.fixed && y.fixed && n.fixed && c.least + y.least == n.least, true⟩
termination_by structural e => e

/-- Measures expressions one after the other. -/
def measureSeq (referred : List Nat) : List Expression → Measure
  -- Lengths are added up.
  | [] => ⟨0, true, false⟩
  | part :: parts =>
    let m := measure referred part
    let others := measureSeq referred parts
    ⟨m.least + others.least, m.fixed && others.fixed, m.hard || others.hard⟩
termination_by structural parts => parts

/-- Measures a choice, given the measure of those before. -/
def measureEither (referred : List Nat) (before : Measure) : List Expression → Measure
  -- All must be of one length.
  | [] => before
  | other :: choices =>
    let m := measure referred other
    measureEither referred ⟨min before.least m.least,
      before.fixed && m.fixed && before.least == m.least, before.hard || m.hard⟩ choices
termination_by structural choices => choices
end

/-- The greatest bound of a repetition in a pattern. -/
def greatestBound : Nat := 4294967295

mutual
/-- The pattern of a plain expression whose repetitions have bounds in order. -/
def plain? : Expression → Option Pattern
  -- Groups leave no trace.
  | .empty => some .nothing
  | .any true => some (.char .all)
  | .any false => some (.char (.outside (.single '\n')))
  | .char c folds => some (.char (.foldedIf folds (.single c)))
  | .set members => some (.char members)
  | .edge .textStart => some .textStart
  | .edge .textEnd => some .textEnd
  | .edge .lineStart => some .lineStart
  | .edge .lineEnd => some .lineEnd
  | .seq parts => plainSeq? parts
  | .either choices => plainEither? choices
  | .group _ inner => plain? inner
  | .repeated inner least greatest greedy => do
    let inner ← plain? inner
    let isOrdered := match greatest with
      | some greatest => least ≤ greatest && greatest ≤ greatestBound
      | none => least ≤ greatestBound
    if isOrdered then some (.repeated inner least greatest greedy) else none
  | _ => none
termination_by structural e => e

/-- The pattern of plain expressions one after the other. -/
def plainSeq? : List Expression → Option Pattern
  | [] => some .nothing
  | part :: parts => do
    let first ← plain? part
    return .seq first (← plainSeq? parts)
termination_by structural parts => parts

/-- The pattern of a choice of plain expressions. -/
def plainEither? : List Expression → Option Pattern
  | [] => none
  | [last] => plain? last
  | first :: choices => do
    let first ← plain? first
    return .either first (← plainEither? choices)
termination_by structural choices => choices
end

end Expression

end TemplateFacts.Contract
