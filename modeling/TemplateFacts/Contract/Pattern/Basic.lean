import TemplateFacts.Text.CharClass

/-!
Regular expressions over texts.

Matching is given by the places where a match may end, in the order in which they are preferred. A
place is kept once, as it was reached first. Repetitions are unfolded when a pattern is prepared for
matching, and a pattern that would take too much room then is refused by its weight.
-/

namespace TemplateFacts.Contract

/-- A regular expression. -/
inductive Pattern where
  /-- The empty text. -/
  | nothing
  /-- One character of a class. -/
  | char (set : Text.CharClass)
  /-- The place before the first character. -/
  | textStart
  /-- The place behind the last character. -/
  | textEnd
  /-- The place before the first character of a line. -/
  | lineStart
  /-- The place behind the last character of a line. -/
  | lineEnd
  | seq (first second : Pattern)
  | either (first second : Pattern)
  /-- The pattern repeated between so many and so many times, or without an upper bound. -/
  | repeated (inner : Pattern) (least : Nat) (greatest : Option Nat) (greedy : Bool)
deriving DecidableEq, Repr, Inhabited

/-- A place in a text: how many characters precede it, these with the nearest first, and the rest. -/
structure Place where
  offset : Nat
  before : List Char
  rest : List Char
deriving DecidableEq, Repr, Inhabited

namespace Place

/-- The place before the first character of a text. -/
def start (s : String) : Place := ⟨0, [], s.toList⟩

/-- The next character, and the place behind it. -/
def next? (place : Place) : Option (Char × Place) :=
  match place.rest with
  | [] => none
  | c :: rest => some (c, ⟨place.offset + 1, c :: place.before, rest⟩)

/-- The place before the character before this one. -/
def back? (place : Place) : Option Place :=
  match place.before with
  | [] => none
  | c :: before => some ⟨place.offset - 1, before, c :: place.rest⟩

/-- Nothing precedes the place. -/
def isStart (place : Place) : Bool := place.before.isEmpty

/-- Nothing follows the place. -/
def isEnd (place : Place) : Bool := place.rest.isEmpty

/-- A line begins at the place. -/
def isLineStart (place : Place) : Bool := place.isStart || place.before.head? == some '\n'

/-- A line ends at the place. -/
def isLineEnd (place : Place) : Bool := place.isEnd || place.rest.head? == some '\n'

end Place

/-- Places that were found, the last one first, and marks for what was seen on the way. -/
structure Trail where
  found : List Place
  /-- The bits of the offsets of the places that were found. -/
  listed : Nat
  /-- The bits of what was entered. -/
  entered : Nat

namespace Trail

/-- Nothing is found yet. -/
def empty : Trail := ⟨[], 0, 0⟩

/-- Adds a place, unless it was found before. -/
def add (trail : Trail) (place : Place) : Trail :=
  if trail.listed.testBit place.offset then trail
  else { trail with
    found := place :: trail.found
    listed := trail.listed ||| (1 <<< place.offset) }

/-- Marks that something is entered. -/
def enter (trail : Trail) (key : Nat) : Trail :=
  { trail with entered := trail.entered ||| (1 <<< key) }

/-- The places in the order in which they were found. -/
def places (trail : Trail) : List Place := trail.found.reverse

end Trail

/-- The places without those that come again. -/
def distinct (places : List Place) : List Place :=
  (places.foldl Trail.add .empty).places

namespace Pattern

/-- The places behind none, one, two and at most so many characters of a class. -/
def runOf (set : Text.CharClass) : (most : Nat) → Place → List Place
  -- The first other character ends the run.
  | 0, place => [place]
  | most + 1, place =>
    match place.next? with
    | some (c, behind) => if set.holds c then place :: runOf set most behind else [place]
    | none => [place]

/-- The places that so many steps lead to. -/
def steps (step : Place → List Place) : Nat → List Place → List Place
  -- Without a place there is nothing to step from.
  | 0, places => places
  | n + 1, places => if places.isEmpty then [] else steps step n (distinct (places.flatMap step))

/-- Finds the places that at most so many further steps lead to. -/
def explore (step : Place → List Place) (greedy bounded : Bool) (size : Nat) :
    (most : Nat) → Trail → Place → Trail
  -- Where steps are counted, a place is entered anew for each count.
  | 0, trail, place => trail.add place
  | most + 1, trail, place =>
    let key := if bounded then most * size + place.offset else place.offset
    let trail := if greedy then trail else trail.add place
    let trail :=
      if trail.entered.testBit key then trail
      else (step place).foldl (explore step greedy bounded size most) (trail.enter key)
    if greedy then trail.add place else trail

/-- The places where a match that begins at a place may end, the preferred one first. -/
def ends : Pattern → Place → List Place
  -- An anchor takes no character.
  | .nothing, place => [place]
  | .char set, place =>
    match place.next? with
    | some (c, behind) => if set.holds c then [behind] else []
    | none => []
  | .textStart, place => if place.isStart then [place] else []
  | .textEnd, place => if place.isEnd then [place] else []
  | .lineStart, place => if place.isLineStart then [place] else []
  | .lineEnd, place => if place.isLineEnd then [place] else []
  | .seq first second, place => distinct ((first.ends place).flatMap second.ends)
  | .either first second, place => distinct (first.ends place ++ second.ends place)
  | .repeated (.char set) least greatest greedy, place =>
    let run := (runOf set (greatest.getD place.rest.length) place).drop least
    if greedy then run.reverse else run
  | .repeated inner least greatest greedy, place =>
    let size := place.offset + place.rest.length + 1
    let most := match greatest with
      | some greatest => greatest - least
      | none => place.rest.length + 1
    ((steps inner.ends least [place]).foldl
      (explore inner.ends greedy greatest.isSome size most) .empty).places

/-- A match begins at a place, or at one behind it. -/
def occursFrom (pattern : Pattern) : (characters : Nat) → Place → Bool
  -- The place behind the last character counts too.
  | 0, place => !(pattern.ends place).isEmpty
  | n + 1, place =>
    !(pattern.ends place).isEmpty ||
      match place.next? with
      | some (_, behind) => pattern.occursFrom n behind
      | none => false

/-- The pattern matches somewhere in the text. -/
def matchesIn (pattern : Pattern) (s : String) : Bool := pattern.occursFrom s.length (.start s)

end Pattern

/-- The greatest weight of a pattern that is not refused. -/
def greatestWeight : Nat := 10485760

/-- The number of bytes of a code point in UTF-8. -/
def utf8Length (n : Nat) : Nat :=
  if n < 0x80 then 1 else if n < 0x800 then 2 else if n < 0x10000 then 3 else 4

/-- The weight of a range of code points when it is matched byte by byte. -/
def rangeWeight (range : Nat × Nat) : Nat :=
  -- Each byte is a state, and there is one more choice for each length.
  if range.2 < 0x80 then 8
  else 36 * ((utf8Length range.2) * (utf8Length range.2 + 1) / 2)


/-- The weight of a class of characters. -/
def classWeight : Text.CharClass → Nat
  -- One character is a state for each of its bytes, and many are a state with many exits.
  | .ranges [(first, last)] =>
    if first == last then 32 * utf8Length first else 64 + rangeWeight (first, last)
  | .ranges listed => 64 + (listed.map rangeWeight).sum
  | .outside _ => 1000
  | .either first second => classWeight first + classWeight second
  | .both first _ => classWeight first
  | .without kept _ => classWeight kept
  | .onlyOne first second => classWeight first + classWeight second
  | .folded inner => 2 * classWeight inner

namespace Pattern

/-- The weight of a pattern with its repetitions unfolded. -/
def weight : Pattern → Nat
  -- Each round that may be left out is one more choice.
  | .char set => classWeight set
  | .seq first second => first.weight + second.weight
  | .either first second => first.weight + second.weight + 40
  | .repeated inner least greatest _ =>
    match greatest with
    | some greatest => greatest * inner.weight + (greatest - least) * 40
    | none => max least 1 * inner.weight + 40
  | _ => 32

/-- The pattern takes too much room. -/
def isTooHeavy (pattern : Pattern) : Bool := pattern.weight > greatestWeight

end Pattern

end TemplateFacts.Contract
