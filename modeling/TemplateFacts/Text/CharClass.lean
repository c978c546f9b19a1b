import TemplateFacts.Text.Case
import TemplateFacts.Text.Digits
import TemplateFacts.Text.FoldTable
import TemplateFacts.Text.Lines

/-! Classes of characters, put together from ranges of code points. -/

namespace TemplateFacts.Text

/-- A class of characters. -/
inductive CharClass where
  /-- The characters in some ranges of code points, both ends included. -/
  | ranges (listed : List (Nat × Nat))
  | outside (inner : CharClass)
  | either (first second : CharClass)
  | both (first second : CharClass)
  | without (kept dropped : CharClass)
  /-- The characters that belong to one of the two and not to the other. -/
  | onlyOne (first second : CharClass)
  /-- A character belongs to it if one that differs in case only belongs to the inner class. -/
  | folded (inner : CharClass)
deriving DecidableEq, Repr, Inhabited

/-- The character that stands for all those that differ from a given one in case only. -/
def fold (c : Char) : Char :=
  -- Most characters stand for themselves.
  match foldRuns.find? (·.holds c.toNat) with
  | some run => Char.ofNat ((c.toNat : Int) + run.shift).toNat
  | none => c

/-- The characters that differ from a given one in case only, and the character itself. -/
def caseForms (c : Char) : List Char :=
  -- Each run that leads to the common form comes from one of them.
  let common := fold c
  common :: foldRuns.filterMap fun run =>
    let n := ((common.toNat : Int) - run.shift).toNat
    if run.holds n then some (Char.ofNat n) else none

namespace CharClass

/-- A character belongs to the class. -/
def holds : CharClass → Char → Bool
  -- Classes are combined as sets are.
  | .ranges listed, c => inRanges listed c
  | .outside inner, c => !inner.holds c
  | .either first second, c => first.holds c || second.holds c
  | .both first second, c => first.holds c && second.holds c
  | .without kept dropped, c => kept.holds c && !dropped.holds c
  | .onlyOne first second, c => first.holds c != second.holds c
  | .folded inner, c => (caseForms c).any inner.holds

/-- The class without any character. -/
def none : CharClass := .ranges []

/-- The class of all characters. -/
def all : CharClass := .outside none

/-- The class of one character. -/
def single (c : Char) : CharClass := .ranges [(c.toNat, c.toNat)]

/-- The class of the characters that belong to any of some classes. -/
def anyOf (classes : List CharClass) : CharClass := classes.foldl .either none

/-- The class or all that lies outside it. -/
def negatedIf (negated : Bool) (inner : CharClass) : CharClass :=
  if negated then .outside inner else inner

/-- The class, with regard to case or without. -/
def foldedIf (folds : Bool) (inner : CharClass) : CharClass :=
  if folds then .folded inner else inner

end CharClass

/-- The ranges that a word writes: one code point, a range, or a range with a step. -/
def writtenRange (word : String) : List (Nat × Nat) :=
  -- With a step each code point is a range of its own.
  let (bounds, step) := match split '/' word with
    | [bounds, step] => (bounds, hexNumber step.toList)
    | _ => (word, 1)
  let (first, last) := match split '-' bounds with
    | [first, last] => (hexNumber first.toList, hexNumber last.toList)
    | _ => (hexNumber bounds.toList, hexNumber bounds.toList)
  if step ≤ 1 then [(first, last)]
  else (List.range ((last - first) / step + 1)).map fun k => (first + k * step, first + k * step)

/-- The class of the ranges that are written in some lines. -/
def writtenClass (lines : List String) : CharClass :=
  -- Spaces separate the words.
  .ranges (lines.flatMap fun line => (split ' ' line).flatMap writtenRange)

end TemplateFacts.Text
