import TemplateFacts.Contract.Pattern.Basic
import TemplateFacts.Contract.Pattern.Machine

/-!
The programs of expressions.

Plain parts of an expression are left to patterns, as far as they stand at either end of a sequence
or are the whole of what is asked for. Only their preferred match is tried then.
-/

namespace TemplateFacts.Contract.Program

/-- Instructions, and the number of slots that are taken. -/
structure Code where
  instructions : List Instruction
  slots : Nat

/-- Gives the code that starts at an instruction, when so many slots are taken. -/
abbrev Coder := (base slots : Nat) → Option Code

/-- No instructions. -/
def Code.none (slots : Nat) : Code := ⟨[], slots⟩

/-- The code of plain expressions one after the other, if there are any. -/
def plainCode? (parts : List Expression) (slots : Nat) : Option Code :=
  -- Patterns that are too heavy are refused.
  if parts.isEmpty then some (.none slots)
  else do
    let pattern ← Expression.plainSeq? parts
    if pattern.isTooHeavy then failure
    else return ⟨[.plain pattern], slots⟩

/-- Wraps code that starts behind one instruction into the parts of an optional match. -/
def optional (base : Nat) (greedy : Bool) (inner : Code) : Code :=
  -- The exit stands behind the inner code.
  let exit := base + 1 + inner.instructions.length
  let split := if greedy then Instruction.split (base + 1) exit else .split exit (base + 1)
  ⟨split :: inner.instructions, inner.slots⟩

/-- The plain parts at the front of a sequence, given how a part is measured. -/
def frontLength (measures : List Expression.Measure) : Nat :=
  (measures.takeWhile fun m => m.fixed && !m.hard).length

/-- The number of plain parts at the end of a sequence, the front being left out. -/
def backLength (hard : Bool) (measures : List Expression.Measure) : Nat :=
  -- Behind a hard sequence other parts follow, so lengths must be fixed.
  ((measures.drop (frontLength measures)).reverse.takeWhile fun m =>
    !m.hard && (!hard || m.fixed)).length

/-- Code for what is looked at, behind the step back to where it begins. -/
def lookCode? (behind : Bool) (m : Expression.Measure) (code : Coder)
    (base slots : Nat) : Option Code :=
  -- Only what has a fixed length can be looked at backwards.
  if !behind then code base slots
  else if !m.fixed then failure
  else (code (base + 1) slots).map fun code =>
    ⟨.back m.least :: code.instructions, code.slots⟩

/-- Code for looking once: the place is kept, or what matches is refused. -/
def lookOnce? (behind negative : Bool) (m : Expression.Measure)
    (code : Coder) (base slots : Nat) : Option Code :=
  if negative then
    (lookCode? behind m code (base + 1) slots).map fun code =>
      optional base true ⟨code.instructions ++ [.refuse], code.slots⟩
  else
    (lookCode? behind m code (base + 1) (slots + 1)).map fun code =>
      ⟨.save slots :: code.instructions ++ [.restore slots], code.slots⟩

/-- Code for alternatives of which each is given by its code. -/
def choiceCode? : List Coder → (base slots : Nat) → Option Code
  -- All but the last are followed by a jump to the end.
  | [], _, slots => some (.none slots)
  | [last], base, slots => last base slots
  | first :: others, base, slots => do
    let first ← first (base + 1) slots
    let next := base + 2 + first.instructions.length
    let others ← choiceCode? others next first.slots
    let exit := next + others.instructions.length
    return ⟨.split (base + 1) next :: first.instructions ++ .jump exit :: others.instructions,
      others.slots⟩

/-- Code for parts one after the other. -/
def sequenceCode? : List Coder → (base slots : Nat) → Option Code
  | [], _, slots => some (.none slots)
  | first :: others, base, slots => do
    let first ← first base slots
    let others ← sequenceCode? others (base + first.instructions.length) first.slots
    return ⟨first.instructions ++ others.instructions, others.slots⟩

/-- Code for a repetition of what is given by its code. -/
def repeatCode? (least : Nat) (greatest : Option Nat) (greedy mayBeEmpty : Bool)
    (code : Coder) (base slots : Nat) : Option Code :=
  -- Rounds are counted unless there are none or one at least, and no upper bound.
  if greatest.isNone && mayBeEmpty then
    (code (base + 2) (slots + 2)).map fun inner =>
      let exit := base + 3 + inner.instructions.length
      ⟨[.clear slots, .emptyRound least greedy exit slots (slots + 1)] ++ inner.instructions
        ++ [.jump (base + 1)], inner.slots⟩
  else if greatest.isNone && least == 0 then
    (code (base + 1) slots).map fun inner =>
      optional base greedy ⟨inner.instructions ++ [.jump base], inner.slots⟩
  else if greatest.isNone && least == 1 then
    (code base slots).map fun inner =>
      let exit := base + inner.instructions.length + 1
      ⟨inner.instructions ++ [if greedy then .split base exit else .split exit base], inner.slots⟩
  else
    (code (base + 2) (slots + 1)).map fun inner =>
      let exit := base + 3 + inner.instructions.length
      ⟨[.clear slots, .round least greatest greedy exit slots] ++ inner.instructions
        ++ [.jump (base + 1)], inner.slots⟩

/-- Code for a choice by a condition. -/
def conditionCode? (condition yes no : Coder) (base slots : Nat) :
    Option Code := do
  -- Once the condition holds, the other branch is no longer tried.
  let condition ← condition (base + 2) slots
  let yesBase := base + 3 + condition.instructions.length
  let yes ← yes yesBase condition.slots
  let noBase := yesBase + yes.instructions.length + 1
  let no ← no noBase yes.slots
  let exit := noBase + no.instructions.length
  return ⟨[.enter, .split (base + 2) noBase] ++ condition.instructions ++ [.leave]
    ++ yes.instructions ++ [.jump exit] ++ no.instructions, no.slots⟩

/-- Leaves a plain expression to its pattern, unless it may have to match in another way. -/
def plainOr (referred : List Nat) (e : Expression) (hard : Bool) (code : Coder) : Coder :=
  fun base slots =>
    if !hard && !(e.measure referred).hard then plainCode? [e] slots else code base slots

/-- Code for a sequence, given the codes of its parts. -/
def partsCode? (referred : List Nat) (hard : Bool) (parts : List Expression)
    (codes : List Coder) : Coder :=
  -- Plain parts at either end are left to patterns.
  let measures := parts.map (·.measure referred)
  let front := frontLength measures
  let back := parts.length - backLength hard measures
  sequenceCode? ([fun _ => plainCode? (parts.take front)] ++ (codes.take back).drop front
    ++ [fun _ => plainCode? (parts.drop back)])

/-- Code for looking back at alternatives of several lengths, given their codes. -/
def looksCode? (referred : List Nat) (negative : Bool) (choices : List Expression)
    (codes : List Coder) : Coder :=
  -- None may match, or one must.
  let looks := (choices.zip codes).map fun (choice, code) =>
    lookOnce? true negative (choice.measure referred) code
  if negative then sequenceCode? looks else choiceCode? looks

mutual
/-- The code of an expression, which may have to match in any of its ways if it is hard. -/
def coder (referred : List Nat) : Expression → (hard : Bool) → Coder
  -- What is looked at, and what is atomic, matches in its first way.
  | .empty, _ => fun _ slots => some (.none slots)
  | .any lineEnds, _ => fun _ => plainCode? [.any lineEnds]
  | .char c folds, _ => fun _ => plainCode? [.char c folds]
  | .set members, _ => fun _ => plainCode? [.set members]
  | .edge e, hard => plainOr referred (.edge e) hard fun _ slots => some ⟨[.edge e], slots⟩
  | .seq parts, hard => plainOr referred (.seq parts) hard
      (partsCode? referred hard parts (coders referred parts true))
  | .either choices, hard => plainOr referred (.either choices) hard
      (choiceCode? (coders referred choices hard))
  | .group number inner, hard => plainOr referred (.group number inner) hard fun base slots =>
      (coder referred inner hard (base + 1) slots).map fun inner =>
        ⟨.save (2 * number) :: inner.instructions ++ [.save (2 * number + 1)], inner.slots⟩
  | .look behind negative (.either choices), _ =>
    let m := (Expression.either choices).measure referred
    let codes := coders referred choices false
    if behind && !m.fixed then looksCode? referred negative choices codes
    else lookOnce? behind negative m
      (plainOr referred (.either choices) false (choiceCode? codes))
  | .look behind negative inner, _ =>
    lookOnce? behind negative (inner.measure referred) (coder referred inner false)
  | .repeated inner least greatest greedy, hard =>
    let m := inner.measure referred
    plainOr referred (.repeated inner least greatest greedy) hard <|
      if least == 0 && greatest == some 1 then fun base slots =>
        (coder referred inner hard (base + 1) slots).map (optional base greedy)
      else repeatCode? least greatest greedy (m.least == 0) (coder referred inner (hard || m.hard))
  | .atomic inner, _ => fun base slots =>
    (coder referred inner false (base + 1) slots).map fun inner =>
      ⟨.enter :: inner.instructions ++ [.leave], inner.slots⟩
  | .again group, _ => fun _ slots => some ⟨[.again group], slots⟩
  | .known group, _ => fun _ slots => some ⟨[.known group], slots⟩
  | .keep, _ => fun _ slots => some ⟨[.save 0], slots⟩
  | .origin, _ => fun _ slots => some ⟨[.origin], slots⟩
  | .choice condition yes no, hard =>
    conditionCode? (coder referred condition hard) (coder referred yes hard)
      (coder referred no hard)
termination_by structural e => e

/-- The codes of some expressions. -/
def coders (referred : List Nat) : List Expression → (hard : Bool) → List Coder
  | [], _ => []
  | part :: parts, hard => coder referred part hard :: coders referred parts hard
termination_by structural parts => parts
end

/-- A program, and the number of its slots. -/
structure Loaded where
  program : Array Instruction
  slots : Nat

/-- The program that finds a match of an expression anywhere in a text. -/
def ofExpression? (referred : List Nat) (groups : Nat) (e : Expression) : Option Loaded := do
  -- The expression is a group of its own, behind as few characters as possible.
  let inner ← coder referred e true 4 (2 * (groups + 1))
  let search : List Instruction :=
    [.split 3 1, .plain (.char .all), .jump 0, .save 0]
  let accept : List Instruction := [.save 1, .accept]
  return ⟨(search ++ inner.instructions ++ accept).toArray, inner.slots⟩

end TemplateFacts.Contract.Program
