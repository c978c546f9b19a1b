import TemplateFacts.Contract.Pattern.Expression

/-!
The machine that matches hard expressions.

It follows one way to match at a time. Where there are two ways, one is put on a stack, and is taken
up when the other has failed. The number of failures is limited, since there may be too many.
-/

namespace TemplateFacts.Contract

/-- An instruction of the machine. -/
inductive Instruction where
  | accept
  /-- A plain pattern matches in its preferred way. -/
  | plain (pattern : Pattern)
  | edge (edge : Edge)
  /-- Goes on at the first target, or else at the second. -/
  | split (first second : Nat)
  | jump (target : Nat)
  /-- Puts the place into a slot. -/
  | save (slot : Nat)
  /-- Puts the count of zero into a slot. -/
  | clear (slot : Nat)
  /-- Goes back to the place in a slot. -/
  | restore (slot : Nat)
  /-- Begins another round of a repetition, or leaves it. -/
  | round (least : Nat) (greatest : Option Nat) (greedy : Bool) (exit slot : Nat)
  /-- The same, for a repetition of what may be empty, which ends with an empty round. -/
  | emptyRound (least : Nat) (greedy : Bool) (exit slot check : Nat)
  | back (count : Nat)
  /-- What must not match has matched. -/
  | refuse
  | again (group : Nat)
  | known (group : Nat)
  | origin
  /-- Remembers how much is on the stack. -/
  | enter
  /-- Drops from the stack what came since. -/
  | leave

/-- What is kept in a slot. -/
inductive Mark where
  | place (place : Place)
  | count (n : Nat)

namespace Machine

/-- One way to match, as far as it was followed. -/
structure Way where
  counter : Nat
  place : Place
  slots : Array (Option Mark)
  /-- How much was on the stack where the ways around this one were entered. -/
  depths : List Nat

/-- The machine between two instructions. -/
structure State where
  way : Way
  stack : List Way
  /-- The number of ways on the stack. -/
  depth : Nat
  /-- The number of failures so far. -/
  failures : Nat

/-- Why the machine gives up. -/
inductive Excess where
  | failures
  | depth
deriving DecidableEq, Repr

/-- Why the machine gives up, in words. -/
def Excess.message : Excess → String
  | .failures => "Error executing regex: Max limit for backtracking count exceeded"
  | .depth =>
    "Error executing regex: Max stack size exceeded for backtracking while executing regex"

/-- The greatest number of failures. -/
def greatestFailures : Nat := 1000000

/-- The greatest number of ways on the stack. -/
def greatestStack : Nat := 1000000

/-- What comes of an instruction. -/
inductive Outcome where
  | accepted
  /-- The way goes on. -/
  | going (state : State)
  /-- The way has failed. -/
  | failed (state : State)
  | exceeded (excess : Excess)

/-- The place in a slot. -/
def Way.placeAt? (way : Way) (slot : Nat) : Option Place :=
  match way.slots[slot]? with
  | some (some (.place place)) => some place
  | _ => none

/-- The count in a slot. -/
def Way.countAt (way : Way) (slot : Nat) : Nat :=
  match way.slots[slot]? with
  | some (some (.count n)) => n
  | _ => 0

/-- Puts a mark into a slot. -/
def Way.mark (way : Way) (slot : Nat) (mark : Mark) : Way :=
  { way with slots := way.slots.setIfInBounds slot (some mark) }

/-- The way at another instruction. -/
def Way.at (way : Way) (counter : Nat) : Way := { way with counter }

/-- The way at the next instruction. -/
def Way.next (way : Way) : Way := way.at (way.counter + 1)

/-- Goes on with one way, another one being put on the stack. -/
def State.fork (state : State) (way other : Way) : Outcome :=
  if state.depth ≥ greatestStack then .exceeded .depth
  else .going { state with way, stack := other :: state.stack, depth := state.depth + 1 }

/-- Goes on with a way. -/
def State.go (state : State) (way : Way) : Outcome := .going { state with way }

/-- Drops ways from the stack until so many are left. -/
def State.cut (state : State) (depth : Nat) : State :=
  { state with stack := state.stack.drop (state.depth - depth), depth }

/-- Drops ways from the stack up to the first one at an instruction. -/
def dropThrough (counter : Nat) : List Way → List Way
  | [] => []
  | way :: stack => if way.counter == counter then stack else dropThrough counter stack

/-- The place behind a piece of text. -/
def follow? : List Char → Place → Option Place
  | [], place => some place
  | c :: cs, place =>
    match place.next? with
    | some (d, behind) => if c == d then follow? cs behind else none
    | none => none

/-- The text that a group has matched. -/
def Way.groupText? (way : Way) (group : Nat) : Option (List Char) := do
  -- Both of its ends must be known.
  let first ← way.placeAt? (2 * group)
  let last ← way.placeAt? (2 * group + 1)
  return first.rest.take (last.offset - first.offset)

/-- Begins or leaves a round, given the count of rounds so far. -/
def State.turn (state : State) (way : Way) (count least slot exit : Nat) (greedy : Bool) :
    Outcome :=
  -- The least number of rounds leaves no choice.
  let inside := (way.mark slot (.count (count + 1))).next
  let outside := (way.mark slot (.count (count + 1))).at exit
  if count < least then state.go inside
  else if greedy then state.fork inside outside
  else state.fork outside inside

/-- Carries out an instruction. -/
def perform (state : State) : Instruction → Outcome
  -- A way that cannot go on has failed.
  | .accept => .accepted
  | .plain pattern =>
    match pattern.ends state.way.place with
    | place :: _ => state.go { state.way.next with place }
    | [] => .failed state
  | .edge e => if e.holds state.way.place then state.go state.way.next else .failed state
  | .split first second => state.fork (state.way.at first) (state.way.at second)
  | .jump target => state.go (state.way.at target)
  | .save slot => state.go (state.way.next.mark slot (.place state.way.place))
  | .clear slot => state.go (state.way.next.mark slot (.count 0))
  | .restore slot =>
    match state.way.placeAt? slot with
    | some place => state.go { state.way.next with place }
    | none => .failed state
  | .round least greatest greedy exit slot =>
    let count := state.way.countAt slot
    if greatest == some count then state.go (state.way.at exit)
    else state.turn state.way count least slot exit greedy
  | .emptyRound least greedy exit slot check =>
    let count := state.way.countAt slot
    let stays := (state.way.placeAt? check).map Place.offset == some state.way.place.offset
    if count > 0 && stays then .failed state
    else
      let way := if count < least then state.way
        else state.way.mark check (.place state.way.place)
      state.turn way count least slot exit greedy
  | .back count =>
    match (List.range count).foldl (fun place _ => place.bind Place.back?)
      (some state.way.place) with
    | some place => state.go { state.way.next with place }
    | none => .failed state
  | .refuse =>
    let stack := dropThrough (state.way.counter + 1) state.stack
    .failed { state with stack, depth := stack.length }
  | .again group =>
    match (state.way.groupText? group).bind (follow? · state.way.place) with
    | some place => state.go { state.way.next with place }
    | none => .failed state
  | .known group =>
    if (state.way.placeAt? (2 * group)).isSome then state.go state.way.next else .failed state
  | .origin => if state.way.place.isStart then state.go state.way.next else .failed state
  | .enter => state.go { state.way.next with depths := state.depth :: state.way.depths }
  | .leave =>
    match state.way.depths with
    | depth :: depths => (state.cut depth).go { state.way.next with depths }
    | [] => .failed state

/-- Runs a program for at most so many instructions. -/
def runFor (program : Array Instruction) : (fuel : Nat) → State → Except Excess Bool
  -- A failure is followed by the last way that was put on the stack.
  | 0, _ => .error .failures
  | fuel + 1, state =>
    match program[state.way.counter]? with
    | none => .ok false
    | some instruction =>
      match perform state instruction with
      | .accepted => .ok true
      | .going state => runFor program fuel state
      | .exceeded excess => .error excess
      | .failed state =>
        match state.stack with
        | [] => .ok false
        | way :: stack =>
          if state.failures ≥ greatestFailures then .error .failures
          else runFor program fuel ⟨way, stack, state.depth - 1, state.failures + 1⟩

/-- More instructions than any run carries out. -/
def enough : Nat := 1000000000000000

/-- Runs a program with so many slots from the start of a text. -/
def run (program : Array Instruction) (slots : Nat) (s : String) : Except Excess Bool :=
  runFor program enough ⟨⟨0, .start s, Array.replicate slots none, []⟩, [], 0, 0⟩

end Machine

end TemplateFacts.Contract
