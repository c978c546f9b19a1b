import Mathlib.Data.List.TakeWhile
import TemplateFacts.Proofs.Json.Cursor

/-!
Numbers of a document: what is read as a number up to the end of a text is read as the same number
in front of anything that does not continue it.
-/

namespace TemplateFacts.Json

/-- The bytes spell a number: a sign, perhaps, and what the grammar reads as that number behind it. -/
def SpellsNumber (j : Json) (bytes : List UInt8) : Prop :=
  ∃ (negative : Bool) (body : List UInt8) (behind : Position), bytes = (if negative = true then [0x2D] else []) ++ body ∧
    readNumber negative ⟨body, 1, 0⟩ = .ok (j, ⟨[], behind⟩)

/-- The bytes have the form of a number, whatever its value. -/
def PassesNumber (bytes : List UInt8) : Prop :=
  ∃ (negative : Bool) (body : List UInt8) (behind : Position), bytes = (if negative = true then [0x2D] else []) ++ body ∧
    skipNumber ⟨body, 1, 0⟩ = .ok ⟨[], behind⟩

/-- A reader of a whole text reads the same in front of anything that does not continue a number. -/
def Local (read : Cursor → Reading Json) : Prop :=
  ∀ bytes position j behind, read ⟨bytes, position⟩ = .ok (j, ⟨[], behind⟩) →
    ∀ rest place, Closed rest →
      read ⟨bytes ++ rest, place⟩ = .ok (j, ⟨rest, place.afterAll bytes⟩)

/-- The same of a reader that only passes over what it reads. -/
def LocalPass (pass : Cursor → Except Fault Cursor) : Prop :=
  ∀ bytes position behind, pass ⟨bytes, position⟩ = .ok ⟨[], behind⟩ →
    ∀ rest place, Closed rest → pass ⟨bytes ++ rest, place⟩ = .ok ⟨rest, place.afterAll bytes⟩

section Digits

variable {digits tail rest : List UInt8}

/-- No digit follows. -/
def Stops (tail : List UInt8) : Prop := ∀ b more, tail = b :: more → isDigit b = false

theorem stops_nil : Stops [] := fun b more same => by cases same

/-- Every text begins with some digits, behind which no digit follows. -/
theorem split_digits (bytes : List UInt8) :
    ∃ digits tail, bytes = digits ++ tail ∧ (∀ b ∈ digits, isDigit b = true) ∧ Stops tail := by
  -- The digits at the front, and what is left behind them.
  refine ⟨bytes.takeWhile isDigit, bytes.dropWhile isDigit, List.takeWhile_append_dropWhile.symm,
    fun b member => List.mem_takeWhile_imp member, fun b more same => ?_⟩
  have stops := List.head?_dropWhile_not isDigit bytes
  rw [same] at stops
  exact stops

/-- No digit follows what is in front of something that does not continue a number. -/
theorem Stops.append (stops : Stops tail) (closed : Closed rest) : Stops (tail ++ rest) := by
  -- An empty tail stops where the rest is closed.
  cases tail with
  | nil => exact fun b more same => (closed b more same).1
  | cons b tail =>
    intro c more same
    obtain ⟨rfl, _⟩ := List.cons.inj same
    exact stops _ tail rfl

/-- Digits are read up to where they stop. -/
theorem readDigits_append (position : Position) (all : ∀ b ∈ digits, isDigit b = true)
    (stops : Stops tail) :
    readDigits ⟨digits ++ tail, position⟩ = (digits, ⟨tail, position.afterAll digits⟩) := by
  -- What stops the digits is no digit, and no digit breaks a line.
  have taken : (digits ++ tail).takeWhile isDigit = digits := by
    rw [List.takeWhile_append_of_pos all]
    cases tail with
    | nil => rw [List.takeWhile_nil, List.append_nil]
    | cons b more =>
      rw [List.takeWhile_cons_of_neg (by rw [stops b more rfl]; decide), List.append_nil]
  have noFeed : ∀ b ∈ digits, b ≠ 10 := by
    rintro b member rfl
    exact absurd (all 10 member) (by decide)
  simp only [readDigits, taken, Cursor.past, List.drop_left, Position.afterAll_noFeed noFeed]

/-- A text is empty, begins with another byte, or begins with digits, behind which no digit follows. -/
inductive Leading : List UInt8 → Prop
  | nothing : Leading []
  | other {b : UInt8} (more : List UInt8) (noDigit : isDigit b = false) : Leading (b :: more)
  | digits {d : UInt8} {digits tail : List UInt8} (digit : isDigit d = true)
      (all : ∀ b ∈ d :: digits, isDigit b = true) (stops : Stops tail) : Leading (d :: (digits ++ tail))

theorem leading (bytes : List UInt8) : Leading bytes := by
  -- By the first byte: none, another than a digit, or a run of digits.
  obtain ⟨digits, tail, rfl, all, stops⟩ := split_digits bytes
  cases digits with
  | nil =>
    cases tail with
    | nil => exact .nothing
    | cons b tail => exact .other tail (stops b tail rfl)
  | cons d digits => exact .digits (all d List.mem_cons_self) all stops

/-- Digits that are there are read up to where they stop. -/
theorem readDigits_leading {d : UInt8} (position : Position) (all : ∀ b ∈ d :: digits, isDigit b = true)
    (stops : Stops tail) :
    readDigits ⟨d :: (digits ++ tail), position⟩ = (d :: digits, ⟨tail, position.afterAll (d :: digits)⟩) :=
  readDigits_append position all stops

end Digits

/-- A float takes nothing away from the text. -/
theorem local_floatOf (negative : Bool) (significand : Nat) (power : Int) :
    Local (floatOf negative significand power) := by
  -- The value is made of what was read already, so the cursor does not move.
  intro bytes position j behind reads rest place _
  unfold floatOf at reads ⊢
  split at reads
  · simp only [Except.ok.injEq, Prod.mk.injEq, Cursor.mk.injEq] at reads
    obtain ⟨rfl, rfl, _⟩ := reads
    rfl
  · cases reads

section Exponent

variable {negative lowers : Bool} {significand : Nat} {power : Int}

/-- The digits of an exponent are read to their end. -/
theorem local_readExponentDigits : Local (readExponentDigits negative lowers significand power) := by
  intro bytes position j behind reads rest place closed
  cases leading bytes with
  | nothing => cases reads
  | other more noDigit =>
    simp only [readExponentDigits, noDigit, Bool.not_false, if_true] at reads
    cases reads
  | @digits d digits tail digit all stops =>
    have old := readDigits_leading position all stops
    have new := readDigits_leading place all (stops.append closed)
    -- Both readers take the same digits, and go by the same value of them.
    simp only [readExponentDigits, digit, Bool.not_true, Bool.false_eq_true, if_false, old] at reads
    simp only [List.cons_append, List.append_assoc, readExponentDigits, digit, Bool.not_true,
      Bool.false_eq_true, if_false, new]
    cases value : exponentValue 0 0 (d :: digits) with
    | ok value' =>
      -- The digits give an exponent.
      simp only [value] at reads ⊢
      rw [local_floatOf _ _ _ _ _ _ _ reads rest _ closed, ← List.cons_append,
        Position.afterAll_append]
    | error read =>
      simp only [value] at reads ⊢
      -- An exponent out of range makes a number infinite, which is refused, or zero.
      split at reads
      · cases reads
      · rename_i small
        simp only [Except.ok.injEq, Prod.mk.injEq, Cursor.mk.injEq] at reads
        obtain ⟨rfl, rfl, _⟩ := reads
        rw [if_neg small, List.append_nil]
        rfl

/-- An exponent is read to its end. -/
theorem local_readExponent : Local (readExponent negative significand power) := by
  -- A plus, a minus or no sign stands before the digits.
  intro bytes position j behind reads rest place closed
  cases bytes with
  | nil => cases reads
  | cons b bytes =>
    simp only [readExponent, Cursor.next_cons] at reads
    simp only [List.cons_append, readExponent, Cursor.next_cons]
    split at reads
    · rename_i plus
      rw [if_pos plus, local_readExponentDigits _ _ _ _ reads rest _ closed]
      rfl
    · rename_i noPlus
      rw [if_neg noPlus]
      split at reads
      · rename_i minus
        rw [if_pos minus, local_readExponentDigits _ _ _ _ reads rest _ closed]
        rfl
      · rename_i noMinus
        rw [if_neg noMinus]
        exact local_readExponentDigits _ _ _ _ reads rest place closed

/-- A fraction is read to its end, with its exponent. -/
theorem local_readFraction : Local (readFraction negative significand power) := by
  intro bytes position j behind reads rest place closed
  obtain ⟨digits, tail, rfl, all, stops⟩ := split_digits bytes
  have old := readDigits_append position all stops
  have new := readDigits_append place all (stops.append closed)
  rw [← List.append_assoc] at new
  simp only [readFraction, old] at reads
  simp only [readFraction, new]
  -- There is a digit behind the point.
  split at reads
  · split at reads <;> cases reads
  · rename_i nonempty
    rw [if_neg nonempty]
    cases tail with
    | nil =>
      -- The number ends here, and what follows does not continue it.
      simp only at reads
      have ends := local_floatOf _ _ _ _ _ _ _ reads rest (place.afterAll digits) closed
      cases rest with
      | nil => simpa using ends
      | cons b rest =>
        have noLetter : isExponentLetter b = false := (closed b rest rfl).2.2
        simp only [List.nil_append, noLetter, Bool.false_eq_true, if_false]
        simpa using ends
    | cons b tail =>
      simp only [Cursor.next_cons] at reads
      simp only [List.cons_append, Cursor.next_cons]
      split at reads
      · rename_i letter
        rw [if_pos letter, local_readExponent _ _ _ _ reads rest _ closed, Position.afterAll_append]
        rfl
      · -- What follows is neither digit nor letter, and is left.
        rename_i noLetter
        rw [if_neg noLetter, ← List.cons_append, local_floatOf _ _ _ _ _ _ _ reads rest _ closed,
          Position.afterAll_append]

/-- A number without fraction and exponent takes nothing more away from the text. -/
theorem local_whole {long : Prop} [Decidable long] :
    Local fun c => if long then floatOf negative significand power c
      else .ok (wholeNumber negative significand, c) := by
  -- Either way nothing more is read.
  intro bytes position j behind reads rest place closed
  split at reads
  · rename_i isLong
    simp only [isLong, if_true]
    exact local_floatOf _ _ _ _ _ _ _ reads rest place closed
  · rename_i isShort
    simp only [Except.ok.injEq, Prod.mk.injEq, Cursor.mk.injEq] at reads
    obtain ⟨rfl, rfl, _⟩ := reads
    simp only [isShort, if_false, List.nil_append, Position.afterAll_nil]

/-- A number is read to its end. -/
theorem local_readNumber : Local (readNumber negative) := by
  intro bytes position j behind reads rest place closed
  cases leading bytes with
  | nothing => cases reads
  | other more noDigit =>
    simp only [readNumber, noDigit, Bool.not_false, if_true] at reads
    cases reads
  | @digits d digits tail digit all stops =>
    have old := readDigits_leading position all stops
    have new := readDigits_leading place all (stops.append closed)
    simp only [readNumber, digit, Bool.not_true, Bool.false_eq_true, if_false,
      old] at reads
    simp only [List.cons_append, List.append_assoc, readNumber, digit, Bool.not_true,
      Bool.false_eq_true, if_false, new]
    -- A zero in front stands alone.
    split at reads
    · cases reads
    · rename_i noZero
      rw [if_neg noZero]
      cases tail with
      | nil =>
        -- The number ends here, and what follows does not continue it.
        simp only at reads
        have ends := local_whole _ _ _ _ reads rest (place.afterAll (d :: digits)) closed
        cases rest with
        | nil => simpa using ends
        | cons b rest =>
          obtain ⟨_, noPoint, noLetter⟩ := closed b rest rfl
          have point : (b == 0x2E) = false := beq_eq_false_iff_ne.mpr noPoint
          simp only [List.nil_append, point, noLetter, Bool.false_eq_true, if_false]
          simpa using ends
      | cons b tail =>
        simp only [Cursor.next_cons] at reads
        simp only [List.cons_append, Cursor.next_cons]
        split at reads
        · -- A point starts the fraction.
          rename_i point
          rw [if_pos point, local_readFraction _ _ _ _ reads rest _ closed, ← List.cons_append,
            Position.afterAll_append]
          rfl
        · rename_i noPoint
          rw [if_neg noPoint]
          split at reads
          · -- A letter starts the exponent.
            rename_i letter
            rw [if_pos letter, local_readExponent _ _ _ _ reads rest _ closed, ← List.cons_append,
              Position.afterAll_append]
            rfl
          · rename_i noLetter
            have ends := local_whole _ _ _ _ reads rest (place.afterAll (d :: digits)) closed
            rw [← Position.afterAll_append] at ends
            rw [if_neg noLetter]
            exact ends

end Exponent

/-- The digits of an exponent are passed to their end. -/
theorem local_skipExponentDigits : LocalPass skipExponentDigits := by
  intro bytes position behind passes rest place closed
  cases leading bytes with
  | nothing => cases passes
  | other more noDigit =>
    simp only [skipExponentDigits, noDigit, Bool.false_eq_true, if_false] at passes
    cases passes
  | digits digit all stops =>
    -- The digits in front are all that is passed.
    have old := readDigits_leading position all stops
    have new := readDigits_leading place all (stops.append closed)
    simp only [skipExponentDigits, digit, if_true, old, Except.ok.injEq, Cursor.mk.injEq] at passes
    obtain ⟨rfl, _⟩ := passes
    rw [List.nil_append] at new
    simp only [List.append_nil, List.cons_append, skipExponentDigits, digit, if_true, new]

/-- An exponent is passed to its end. -/
theorem local_skipExponent : LocalPass skipExponent := by
  -- A sign may stand before the digits.
  intro bytes position behind passes rest place closed
  cases bytes with
  | nil => cases passes
  | cons b bytes =>
    simp only [skipExponent, Cursor.next_cons] at passes
    simp only [List.cons_append, skipExponent, Cursor.next_cons]
    split at passes
    · rename_i sign
      rw [if_pos sign, local_skipExponentDigits _ _ _ passes rest _ closed]
      rfl
    · rename_i noSign
      rw [if_neg noSign]
      exact local_skipExponentDigits _ _ _ passes rest place closed

/-- A fraction is passed to its end, with its exponent. -/
theorem local_skipFraction : LocalPass skipFraction := by
  intro bytes position behind passes rest place closed
  obtain ⟨digits, tail, rfl, all, stops⟩ := split_digits bytes
  have old := readDigits_append position all stops
  have new := readDigits_append place all (stops.append closed)
  rw [← List.append_assoc] at new
  simp only [skipFraction, old] at passes
  simp only [skipFraction, new]
  -- Behind the digits the fraction ends, or its exponent follows.
  split at passes
  · cases passes
  · rename_i nonempty
    rw [if_neg nonempty]
    cases tail with
    | nil =>
      -- What follows starts no exponent.
      cases rest with
      | nil => simp
      | cons b rest =>
        have noLetter : isExponentLetter b = false := (closed b rest rfl).2.2
        simp only [List.nil_append, noLetter, Bool.false_eq_true, if_false, List.append_nil]
    | cons b tail =>
      simp only [Cursor.next_cons] at passes
      simp only [List.cons_append, Cursor.next_cons]
      split at passes
      · rename_i letter
        rw [if_pos letter, local_skipExponent _ _ _ passes rest _ closed, Position.afterAll_append]
        rfl
      · cases passes

/-- A number is passed to its end. -/
theorem local_skipNumber : LocalPass skipNumber := by
  -- A number begins with a digit, and its leading zero stands alone.
  intro bytes position behind passes rest place closed
  cases leading bytes with
  | nothing => cases passes
  | other more noDigit =>
    simp only [skipNumber, noDigit, Bool.not_false, if_true] at passes
    cases passes
  | @digits d digits tail digit all stops =>
    have old := readDigits_leading position all stops
    have new := readDigits_leading place all (stops.append closed)
    simp only [skipNumber, digit, Bool.not_true, Bool.false_eq_true, if_false,
      old] at passes
    simp only [List.cons_append, List.append_assoc, skipNumber, digit, Bool.not_true,
      Bool.false_eq_true, if_false, new]
    split at passes
    · cases passes
    · rename_i noZero
      rw [if_neg noZero]
      cases tail with
      | nil =>
        cases rest with
        | nil => simp
        | cons b rest =>
          obtain ⟨_, noPoint, noLetter⟩ := closed b rest rfl
          have point : (b == 0x2E) = false := beq_eq_false_iff_ne.mpr noPoint
          simp only [List.nil_append, point, noLetter, Bool.false_eq_true, if_false, List.append_nil]
      | cons b tail =>
        simp only [Cursor.next_cons] at passes
        simp only [List.cons_append, Cursor.next_cons]
        split at passes
        · rename_i point
          rw [if_pos point, local_skipFraction _ _ _ passes rest _ closed, ← List.cons_append,
            Position.afterAll_append]
          rfl
        · rename_i noPoint
          rw [if_neg noPoint]
          split at passes
          · rename_i letter
            rw [if_pos letter, local_skipExponent _ _ _ passes rest _ closed, ← List.cons_append,
              Position.afterAll_append]
            rfl
          · cases passes

section Spelled

variable {bytes rest : List UInt8} {position : Position}

/-- What is read as a number begins with a digit. -/
theorem digit_of_readNumber {negative : Bool} {body : List UInt8} {reading : Json × Cursor}
    (reads : readNumber negative ⟨body, position⟩ = .ok reading) :
    ∃ b more, body = b :: more ∧ isDigit b = true := by
  -- A body is refused at once when it begins with anything else.
  cases body with
  | nil => cases reads
  | cons b more =>
    cases digit : isDigit b with
    | true => exact ⟨b, more, rfl, digit⟩
    | false =>
      simp only [readNumber, digit, Bool.not_false, if_true] at reads
      cases reads

/-- What is passed as a number begins with a digit. -/
theorem digit_of_skipNumber {body : List UInt8} {behind : Cursor}
    (passes : skipNumber ⟨body, position⟩ = .ok behind) :
    ∃ b more, body = b :: more ∧ isDigit b = true := by
  -- A body is refused at once when it begins with anything else.
  cases body with
  | nil => cases passes
  | cons b more =>
    cases digit : isDigit b with
    | true => exact ⟨b, more, rfl, digit⟩
    | false =>
      simp only [skipNumber, digit, Bool.not_false, if_true] at passes
      cases passes

/-- What has the form of a number begins with a sign or a digit. -/
theorem begins_of_passesNumber {b : UInt8} {more : List UInt8} (passes : PassesNumber (b :: more)) :
    b = 0x2D ∨ isDigit b = true := by
  -- The sign comes first when there is one, else the body's first digit.
  obtain ⟨negative, body, behind, same, skips⟩ := passes
  cases negative with
  | true => exact .inl (List.cons.inj same).1
  | false =>
    obtain ⟨c, others, rfl, digit⟩ := digit_of_skipNumber skips
    exact .inr ((List.cons.inj same).1 ▸ digit)

/-- A digit begins nothing but a number. -/
theorem ne_of_isDigit {b c : UInt8} (digit : isDigit b = true) (other : isDigit c = false) :
    (b == c) = false := by
  -- A byte that is no digit is none of the digits.
  rw [beq_eq_false_iff_ne]
  rintro rfl
  rw [digit] at other
  cases other

/-- What begins with a digit is read as a number. -/
theorem readScalar_digit {b : UInt8} (digit : isDigit b = true) :
    readScalar ⟨b :: rest, position⟩ = readNumber false ⟨b :: rest, position⟩ := by
  -- No word and no sign begins with a digit.
  simp only [readScalar, ne_of_isDigit (c := 0x6E) digit rfl, ne_of_isDigit (c := 0x74) digit rfl,
    ne_of_isDigit (c := 0x66) digit rfl, ne_of_isDigit (c := 0x2D) digit rfl, digit,
    Bool.false_eq_true, if_false, if_true]

/-- A spelled number is read. -/
theorem readScalar_number {j : Json} (spells : SpellsNumber j bytes) (closed : Closed rest) :
    readScalar ⟨bytes ++ rest, position⟩ = .ok (j, ⟨rest, position.afterAll bytes⟩) := by
  -- Behind a sign the number is read from its body, without one from its first digit.
  obtain ⟨negative, body, behind, rfl, reads⟩ := spells
  cases negative with
  | true => exact local_readNumber _ _ _ _ reads rest (position.after 0x2D) closed
  | false =>
    obtain ⟨b, more, rfl, digit⟩ := digit_of_readNumber reads
    exact (readScalar_digit digit).trans (local_readNumber _ _ _ _ reads rest position closed)

end Spelled

end TemplateFacts.Json
