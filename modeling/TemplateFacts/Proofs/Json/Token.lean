import TemplateFacts.Proofs.Json.Reader

/-!
Tokens: what a number or a text says, or that it says nothing that is kept, does not depend on what
follows it. A number may be out of range, and a text may hold code units that are no characters, and
both have the form of a token all the same.
-/

namespace TemplateFacts.Json

/-- What is read at the end of a text is the value. -/
theorem Answers.value_eq {α : Type} {reading : Reading α} {value : Option α} {behind : Cursor}
    (answers : Answers reading value behind) :
    reading.toOption.map Prod.fst = value := by
  -- A reading answers with its value, or refuses and has none.
  cases value with
  | none =>
    obtain ⟨fault, refused⟩ := answers
    rw [refused]
    rfl
  | some x =>
    rw [Answers.some_iff.mp answers]
    rfl

/-- What a reader gives of some bytes when nothing follows them. -/
def answerOf {α : Type} (read : Cursor → Reading α) (bytes : List UInt8) : Option α :=
  (read ⟨bytes, 1, 0⟩).toOption.map Prod.fst

/-- What is given whatever follows is given when nothing does. -/
theorem Gives.answerOf {α : Type} {read : Cursor → Reading α} {bytes : List UInt8}
    {value : Option α} (gives : Gives read bytes value) : Gives read bytes (answerOf read bytes) := by
  -- The token alone has the same value as with anything behind it.
  have alone := (gives [] ⟨1, 0⟩ closed_nil).value_eq
  rw [List.append_nil] at alone
  rwa [Json.answerOf, alone]

section Numbers

variable {bytes : List UInt8} {position : Position} {behind : Position}

/-- A float is in range or out of range wherever it stands. -/
theorem gives_floatOf (negative : Bool) (significand : Nat) (power : Int) :
    ∃ value, ∀ c, Answers (floatOf negative significand power c) value c := by
  -- The scaled number is finite or it is not; the cursor has no part in it.
  cases scaled : scaleByTen 8 (Binary64.ofInt significand) power with
  | none => exact ⟨none, fun c => ⟨_, by rw [floatOf, scaled]; rfl⟩⟩
  | some x =>
    refine ⟨some (.float (if negative then x.negate else x)), fun c => ?_⟩
    show floatOf negative significand power c = _
    rw [floatOf, scaled]

/-- What is passed as the digits of an exponent is digits. -/
theorem digits_of_skipExponentDigits (passes : skipExponentDigits ⟨bytes, position⟩ = .ok ⟨[], behind⟩) :
    (∃ d more, bytes = d :: more) ∧ ∀ b ∈ bytes, isDigit b = true := by
  cases leading bytes with
  | nothing => cases passes
  | other more noDigit =>
    simp only [skipExponentDigits, noDigit, Bool.false_eq_true, if_false] at passes
    cases passes
  | @digits d digits tail digit all stops =>
    -- Where nothing is left over, the first digits are everything.
    have taken := readDigits_leading position all stops
    simp only [skipExponentDigits, digit, if_true, taken, Except.ok.injEq, Cursor.mk.injEq] at passes
    obtain ⟨rfl, _⟩ := passes
    rw [List.append_nil]
    exact ⟨⟨d, digits, rfl⟩, all⟩

/-- The digits of an exponent. -/
theorem gives_readExponentDigits (negative lowers : Bool) (significand : Nat) (power : Int)
    (passes : skipExponentDigits ⟨bytes, position⟩ = .ok ⟨[], behind⟩) :
    ∃ value, Gives (readExponentDigits negative lowers significand power) bytes value := by
  obtain ⟨⟨d, digits, rfl⟩, all⟩ := digits_of_skipExponentDigits passes
  have digit : isDigit d = true := all d List.mem_cons_self
  have taken (rest : List UInt8) (place : Position) (closed : Closed rest) :
      readDigits ⟨d :: (digits ++ rest), place⟩ =
        (d :: digits, ⟨rest, place.afterAll (d :: digits)⟩) :=
    readDigits_append place all fun b more same => (closed b more same).1
  -- An exponent that is too large makes the number infinite, or zero.
  cases value : exponentValue 0 0 (d :: digits) with
  | ok exponent =>
    obtain ⟨given, answers⟩ := gives_floatOf negative significand
      (if lowers then power - exponent else power + exponent)
    refine ⟨given, fun rest place closed => ?_⟩
    simp only [List.cons_append, readExponentDigits, digit, Bool.not_true, Bool.false_eq_true,
      if_false, taken rest place closed, value]
    exact answers _
  | error read =>
    by_cases large : (significand != 0 && !lowers) = true
    · refine ⟨none, fun rest place closed => ?_⟩
      simp only [List.cons_append, readExponentDigits, digit, Bool.not_true, Bool.false_eq_true,
        if_false, taken rest place closed, value, large, if_true]
      exact ⟨_, rfl⟩
    · refine ⟨some (.float (Binary64.zero negative)), fun rest place closed => ?_⟩
      show readExponentDigits negative lowers significand power _ = _
      simp only [List.cons_append, readExponentDigits, digit, Bool.not_true, Bool.false_eq_true,
        if_false, taken rest place closed, value, large]

/-- An exponent, with its sign. -/
theorem gives_readExponent (negative : Bool) (significand : Nat) (power : Int)
    (passes : skipExponent ⟨bytes, position⟩ = .ok ⟨[], behind⟩) :
    ∃ value, Gives (readExponent negative significand power) bytes value := by
  -- A plus, a minus or no sign stands before the digits.
  cases bytes with
  | nil => cases passes
  | cons b bytes =>
    simp only [skipExponent, Cursor.next_cons] at passes
    by_cases plus : b = 0x2B
    · subst plus
      obtain ⟨value, gives⟩ := gives_readExponentDigits negative false significand power passes
      exact ⟨value, fun rest place closed => gives rest (place.after 0x2B) closed⟩
    · by_cases minus : b = 0x2D
      · subst minus
        obtain ⟨value, gives⟩ := gives_readExponentDigits negative true significand power passes
        exact ⟨value, fun rest place closed => gives rest (place.after 0x2D) closed⟩
      · have noPlus : (b == 0x2B) = false := beq_eq_false_iff_ne.mpr plus
        have noMinus : (b == 0x2D) = false := beq_eq_false_iff_ne.mpr minus
        simp only [noPlus, noMinus, Bool.or_self, Bool.false_eq_true, if_false] at passes
        obtain ⟨value, gives⟩ := gives_readExponentDigits negative false significand power passes
        refine ⟨value, fun rest place closed => ?_⟩
        simp only [List.cons_append, readExponent, noPlus, noMinus, Bool.false_eq_true, if_false]
        exact gives rest place closed

/-- A fraction, with its exponent. -/
theorem gives_readFraction (negative : Bool) (significand : Nat) (power : Int)
    (passes : skipFraction ⟨bytes, position⟩ = .ok ⟨[], behind⟩) :
    ∃ value, Gives (readFraction negative significand power) bytes value := by
  obtain ⟨digits, tail, rfl, all, stops⟩ := split_digits bytes
  have taken (rest : List UInt8) (place : Position) (closed : Closed rest) :
      readDigits ⟨digits ++ tail ++ rest, place⟩ = (digits, ⟨tail ++ rest, place.afterAll digits⟩) := by
    rw [List.append_assoc]
    exact readDigits_append place all (stops.append closed)
  simp only [skipFraction, readDigits_append position all stops] at passes
  -- Behind the digits the fraction ends, or its exponent follows.
  split at passes
  · cases passes
  · rename_i nonempty
    cases tail with
    | nil =>
      -- The number ends with its fraction: what follows it is no letter of an exponent.
      obtain ⟨value, answers⟩ := gives_floatOf negative (absorb significand digits).1
        (power - (absorb significand digits).2)
      refine ⟨value, fun rest place closed => ?_⟩
      simp only [readFraction, taken rest place closed, if_neg nonempty]
      cases rest with
      | nil => simpa using answers _
      | cons b rest =>
        have noLetter : isExponentLetter b = false := (closed b rest rfl).2.2
        simp only [List.nil_append, noLetter, Bool.false_eq_true, if_false, List.append_nil]
        exact answers _
    | cons b tail =>
      simp only [Cursor.next_cons] at passes
      split at passes
      · rename_i letter
        -- The exponent closes the number, whatever follows.
        obtain ⟨value, gives⟩ := gives_readExponent negative (absorb significand digits).1
          (power - (absorb significand digits).2) passes
        refine ⟨value, fun rest place closed => ?_⟩
        simp only [readFraction, taken rest place closed, if_neg nonempty, List.cons_append,
          Cursor.next_cons, if_pos letter, Position.afterAll_append, Position.afterAll_cons]
        exact gives rest _ closed
      · cases passes

/-- A number behind its sign. -/
theorem gives_readNumber (negative : Bool)
    (passes : skipNumber ⟨bytes, position⟩ = .ok ⟨[], behind⟩) :
    ∃ value, Gives (readNumber negative) bytes value := by
  cases leading bytes with
  | nothing => cases passes
  | other more noDigit =>
    simp only [skipNumber, noDigit, Bool.not_false, if_true] at passes
    cases passes
  | @digits d digits tail digit all stops =>
    -- The same digits are taken whatever follows the text.
    have taken (rest : List UInt8) (place : Position) (closed : Closed rest) :=
      readDigits_leading place all (stops.append closed)
    have old := readDigits_leading position all stops
    simp only [skipNumber, digit, Bool.not_true, Bool.false_eq_true, if_false,
      old] at passes
    split at passes
    · cases passes
    · rename_i noZero
      cases tail with
      | nil =>
        -- The number ends here, and what follows does not continue it.
        obtain ⟨value, answers⟩ : ∃ value, ∀ c, Answers
            (if (absorb 0 (d :: digits)).2 < (d :: digits).length then
              floatOf negative (absorb 0 (d :: digits)).1
                ((d :: digits).length - (absorb 0 (d :: digits)).2 : Int) c
            else .ok (wholeNumber negative (absorb 0 (d :: digits)).1, c)) value c := by
          split
          · exact gives_floatOf _ _ _
          · exact ⟨some _, fun c => rfl⟩
        refine ⟨value, fun rest place closed => ?_⟩
        simp only [List.cons_append, List.append_assoc, readNumber, digit, Bool.not_true,
          Bool.false_eq_true, if_false, taken rest place closed, if_neg noZero]
        cases rest with
        | nil => simpa using answers _
        | cons b rest =>
          obtain ⟨_, noPoint, noLetter⟩ := closed b rest rfl
          have point : (b == 0x2E) = false := beq_eq_false_iff_ne.mpr noPoint
          simp only [List.nil_append, point, noLetter, Bool.false_eq_true, if_false, List.append_nil]
          exact answers _
      | cons b tail =>
        have taken (rest : List UInt8) (place : Position) (closed : Closed rest) :
            readDigits ⟨d :: (digits ++ b :: (tail ++ rest)), place⟩ =
              (d :: digits, ⟨b :: (tail ++ rest), place.afterAll (d :: digits)⟩) :=
          taken rest place closed
        simp only [Cursor.next_cons] at passes
        split at passes
        · rename_i point
          obtain ⟨value, gives⟩ := gives_readFraction negative (absorb 0 (d :: digits)).1
            ((d :: digits).length - (absorb 0 (d :: digits)).2) passes
          refine ⟨value, fun rest place closed => ?_⟩
          simp only [List.cons_append, List.append_assoc, readNumber, digit, Bool.not_true,
            Bool.false_eq_true, if_false, taken rest place closed, if_neg noZero,
            Cursor.next_cons, if_pos point, Position.afterAll_append, Position.afterAll_cons]
          exact gives rest _ closed
        · rename_i noPoint
          split at passes
          · rename_i letter
            obtain ⟨value, gives⟩ := gives_readExponent negative (absorb 0 (d :: digits)).1
              ((d :: digits).length - (absorb 0 (d :: digits)).2) passes
            refine ⟨value, fun rest place closed => ?_⟩
            simp only [List.cons_append, List.append_assoc, readNumber, digit, Bool.not_true,
              Bool.false_eq_true, if_false, taken rest place closed, if_neg noZero,
              Cursor.next_cons, if_neg noPoint, if_pos letter, Position.afterAll_append,
              Position.afterAll_cons]
            exact gives rest _ closed
          · cases passes

/-- A number is read as the same number, or as none, whatever follows. -/
theorem gives_number (passes : PassesNumber bytes) :
    Gives readScalar bytes (answerOf readScalar bytes) := by
  -- Behind the sign, or from the first digit on, the number is read as it was passed.
  obtain ⟨negative, body, behind, rfl, skips⟩ := passes
  cases negative with
  | true =>
    obtain ⟨value, gives⟩ := gives_readNumber true skips
    have number : Gives readScalar (0x2D :: body) value :=
      fun rest place closed => gives rest (place.after 0x2D) closed
    exact number.answerOf
  | false =>
    obtain ⟨value, gives⟩ := gives_readNumber false skips
    obtain ⟨b, more, rfl, digit⟩ := digit_of_skipNumber skips
    have number : Gives readScalar (b :: more) value := by
      intro rest place closed
      rw [List.cons_append, readScalar_digit digit]
      exact gives rest place closed
    exact number.answerOf

end Numbers

section Texts

/-- What is read of a text behind some bytes of it does not depend on what follows the text. -/
def GivesText (bytes : List UInt8) : Prop :=
  ∀ read, ∃ value, ∀ rest position,
    Answers (textBytes read position (bytes ++ rest)) value ⟨rest, position.afterAll bytes⟩

/-- A code unit is a character, or one together with the code unit behind it, or refused. -/
theorem givesText_unit {h1 h2 h3 h4 : UInt8} {n : Nat} {bytes : List UInt8}
    (value : hexFour? h1 h2 h3 h4 = some n) (later : GivesText bytes)
    (paired : isHighSurrogate n = true → ∀ read, ∃ value, ∀ rest position,
      Answers (textBytes read position (0x5C :: 0x75 :: h1 :: h2 :: h3 :: h4 :: (bytes ++ rest))) value
        ⟨rest, position.afterAll (0x5C :: 0x75 :: h1 :: h2 :: h3 :: h4 :: bytes)⟩) :
    GivesText (0x5C :: 0x75 :: h1 :: h2 :: h3 :: h4 :: bytes) := by
  intro read
  have quote : ((0x5C : UInt8) == 0x22) = false := rfl
  -- Of a pair the second half stands alone nowhere, and the first half needs the second.
  cases low : isLowSurrogate n with
  | true =>
    refine ⟨none, fun rest position => ?_⟩
    rw [List.cons_append, textBytes.eq_def]
    simp only [List.cons_append, quote, Bool.false_eq_true, if_false, BEq.rfl, if_true, value, low]
    exact ⟨_, rfl⟩
  | false =>
    cases high : isHighSurrogate n with
    | true => exact paired high read
    | false =>
      obtain ⟨given, answers⟩ := later ((String.utf8EncodeChar (Char.ofNat n)).reverse ++ read)
      refine ⟨given, fun rest position => ?_⟩
      rw [List.cons_append, textBytes.eq_def]
      simp only [List.cons_append, quote, Bool.false_eq_true, if_false, BEq.rfl, if_true, value,
        low, high, Bool.not_false]
      exact answers rest _

/-- A text that has the form of one is read the same whatever follows it, and so is one behind the
first of two code units. -/
theorem givesText_passes {bytes : List UInt8} (passes : PassesText bytes) :
    GivesText bytes ∧ ∀ h1 h2 h3 h4 n, hexFour? h1 h2 h3 h4 = some n →
      GivesText (0x5C :: 0x75 :: h1 :: h2 :: h3 :: h4 :: bytes) := by
  have slash : ((0x5C : UInt8) == 0x22) = false := rfl
  have notLow {n : Nat} (high : isHighSurrogate n = true) : isLowSurrogate n = false := by
    simp only [isHighSurrogate, Bool.and_eq_true, decide_eq_true_eq] at high
    simp only [isLowSurrogate, Bool.and_eq_false_iff, decide_eq_false_iff_not]
    omega
  -- By induction on the form: a code unit looks at the one behind it, and no further.
  induction passes with
  | close =>
    have ends : GivesText [0x22] := by
      refine fun read => ⟨some read.reverse, fun rest position => ?_⟩
      show textBytes read position (0x22 :: rest) = _
      rw [textBytes.eq_def]
      simp only [BEq.rfl, if_true, Position.afterAll_cons, Position.afterAll_nil]
    refine ⟨ends, fun h1 h2 h3 h4 n value => givesText_unit value ends fun high read => ?_⟩
    refine ⟨none, fun rest position => ?_⟩
    have noSlash : ((0x22 : UInt8) != 0x5C) = true := rfl
    rw [textBytes.eq_def]
    simp only [List.cons_append, slash, Bool.false_eq_true, if_false, BEq.rfl, if_true, value,
      notLow high, high, Bool.not_true, noSlash]
    exact ⟨_, rfl⟩
  | @itself b bytes alone later ih =>
    obtain ⟨noQuote, noSlash, noControl⟩ := alone
    have gives : GivesText (b :: bytes) := by
      intro read
      obtain ⟨given, answers⟩ := ih.1 (b :: read)
      refine ⟨given, fun rest position => ?_⟩
      rw [List.cons_append, textBytes.eq_def]
      simp only [beq_eq_false_iff_ne.mpr noQuote, beq_eq_false_iff_ne.mpr noSlash, noControl,
        Bool.false_eq_true, if_false]
      exact answers rest _
    refine ⟨gives, fun h1 h2 h3 h4 n value => givesText_unit value gives fun high read => ?_⟩
    refine ⟨none, fun rest position => ?_⟩
    rw [textBytes.eq_def]
    simp only [List.cons_append, slash, Bool.false_eq_true, if_false, BEq.rfl, if_true, value,
      notLow high, high, Bool.not_true, bne_iff_ne.mpr noSlash]
    exact ⟨_, rfl⟩
  | @letter e b bytes stands later ih =>
    have gives : GivesText (0x5C :: e :: bytes) := by
      intro read
      obtain ⟨given, answers⟩ := ih.1 (b :: read)
      refine ⟨given, fun rest position => ?_⟩
      rw [List.cons_append, textBytes.eq_def]
      simp only [List.cons_append, slash, Bool.false_eq_true, if_false, BEq.rfl, if_true,
        ne_unit_of_escapedByte? stands, stands]
      exact answers rest _
    refine ⟨gives, fun h1 h2 h3 h4 n value => givesText_unit value gives fun high read => ?_⟩
    refine ⟨none, fun rest position => ?_⟩
    have noUnit : (e != 0x75) = true := bne_iff_ne.mpr (beq_eq_false_iff_ne.mp (ne_unit_of_escapedByte? stands))
    rw [textBytes.eq_def]
    simp only [List.cons_append, slash, Bool.false_eq_true, if_false, BEq.rfl, if_true, value,
      notLow high, high, Bool.not_true, bne_self_eq_false, noUnit]
    exact ⟨_, rfl⟩
  | @unit k1 k2 k3 k4 low bytes second later ih =>
    have gives : GivesText (0x5C :: 0x75 :: k1 :: k2 :: k3 :: k4 :: bytes) :=
      ih.2 k1 k2 k3 k4 low second
    refine ⟨gives, fun h1 h2 h3 h4 n value => givesText_unit value gives fun high read => ?_⟩
    cases isLow : isLowSurrogate low with
    | true =>
      obtain ⟨given, answers⟩ := ih.1 ((String.utf8EncodeChar (pairedChar n low)).reverse ++ read)
      refine ⟨given, fun rest position => ?_⟩
      rw [textBytes.eq_def]
      simp only [List.cons_append, slash, Bool.false_eq_true, if_false, BEq.rfl, if_true, value,
        notLow high, high, Bool.not_true, bne_self_eq_false, second, isLow]
      exact answers rest _
    | false =>
      refine ⟨none, fun rest position => ?_⟩
      rw [textBytes.eq_def]
      simp only [List.cons_append, slash, Bool.false_eq_true, if_false, BEq.rfl, if_true, value,
        notLow high, high, Bool.not_true, bne_self_eq_false, second, isLow]
      exact ⟨_, rfl⟩

/-- A text is read as the same text, or as none, whatever follows. -/
theorem gives_text {bytes : List UInt8} (passes : PassesText bytes) :
    Gives readText bytes (answerOf readText bytes) := by
  -- The bytes of the text are read, and then decoded.
  obtain ⟨value, answers⟩ := (givesText_passes passes).1 []
  cases value with
  | none =>
    have refused : Gives readText bytes none := by
      intro rest position _
      obtain ⟨fault, refused⟩ := answers rest position
      exact ⟨fault, by rw [readText, refused]⟩
    exact refused.answerOf
  | some inside =>
    have read (rest : List UInt8) (position : Position) :
        textBytes [] position (bytes ++ rest) = .ok (inside, ⟨rest, position.afterAll bytes⟩) :=
      answers rest position
    cases decoded : Utf8.decode inside with
    | error count =>
      have refused : Gives readText bytes none := by
        intro rest position _
        simp only [Answers, readText, read, decoded]
        exact ⟨_, rfl⟩
      exact refused.answerOf
    | ok s =>
      have given : Gives readText bytes (some s) := by
        intro rest position _
        show readText _ = _
        rw [readText, read]
        simp only [decoded]
      exact given.answerOf

end Texts

end TemplateFacts.Json
