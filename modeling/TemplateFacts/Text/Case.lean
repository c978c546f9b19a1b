import TemplateFacts.Text.CaseTable

/-!
Lower-case text, over ASCII alone and over all of Unicode. The classes of characters that count are
given as lists of code point ranges.
-/

namespace TemplateFacts.Text

/-- A character lies in one of the ranges, both ends included. -/
def inRanges (ranges : List (Nat × Nat)) (c : Char) : Bool :=
  -- The lists are short enough to be searched from the front.
  ranges.any fun range => range.1 ≤ c.toNat && c.toNat ≤ range.2

/-- The text with its ASCII capitals lowered and everything else kept. -/
def asciiLower (s : String) : String :=
  -- The character map of the core library knows ASCII only, which is what is wanted here.
  String.ofList (s.toList.map Char.toLower)

/-- Two texts are equal up to the case of ASCII letters. -/
def asciiCaseEq (s t : String) : Bool :=
  -- Lowering both sides settles it.
  asciiLower s == asciiLower t

/-- A character belongs to the run. -/
def CaseRun.holds (run : CaseRun) (n : Nat) : Bool :=
  -- Alternating alphabets take every other code point.
  run.first ≤ n && n ≤ run.last && (n - run.first) % run.step == 0

/-- The lower-case form of one character, which is two characters for the dotted capital I. -/
def lowerChar (c : Char) : List Char :=
  -- ASCII is settled without a search.
  if c.toNat < 0x80 then [c.toLower]
  else if c.toNat == 0x130 then ['i', '\u0307']
  else match lowerRuns.find? (·.holds c.toNat) with
    | some run => [Char.ofNat ((c.toNat : Int) + run.shift).toNat]
    | none => [c]

/-- The first character that is not passed over is a cased one. -/
def meetsCased (cs : List Char) : Bool :=
  -- Apostrophes and combining marks say nothing about the word.
  match cs.dropWhile (inRanges caseIgnorableRanges) with
  | [] => false
  | c :: _ => inRanges casedRanges c

/-- Lowers the characters, given those before them with the nearest first. -/
def lowerAfter (before : List Char) : List Char → List Char
  -- A capital sigma that ends a word has a form of its own.
  | [] => []
  | c :: rest =>
    (if c.toNat == 0x3A3 then
      if meetsCased before && !meetsCased rest then ['\u03C2'] else ['\u03C3']
    else lowerChar c) ++ lowerAfter (c :: before) rest

/-- The lower-case form of a text. -/
def lower (s : String) : String :=
  -- Nothing stands before the first character.
  String.ofList (lowerAfter [] s.toList)

end TemplateFacts.Text
