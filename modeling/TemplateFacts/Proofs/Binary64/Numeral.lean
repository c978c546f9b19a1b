import Mathlib.Data.List.TakeWhile
import TemplateFacts.Binary64.Read
import TemplateFacts.Proofs.Text.Decimal

/-!
Which texts write a double-precision number: a sign if any, and then a name, or digits with a point
among them if any and a power of ten behind them if any.
-/

namespace TemplateFacts.Binary64

/-- A sign that may stand before a number, and whether the number is negative. -/
inductive Sign : Bool → List Char → Prop
  | none : Sign false []
  | plus : Sign false ['+']
  | minus : Sign true ['-']

/-- An integer from its sign and its magnitude. -/
def withSign (negative : Bool) (n : Nat) : Int := if negative then -(n : Int) else n

/-- The power of ten that may stand behind a number. -/
inductive Exponent : List Char → Int → Prop
  | none : Exponent [] 0
  | power {letter : Char} {negative : Bool} {sign digits : List Char}
    (isLetter : letter = 'e' ∨ letter = 'E') (signed : Sign negative sign) (nonempty : digits ≠ [])
    (isDigits : ∀ c ∈ digits, Text.isDigit c = true) :
    Exponent (letter :: (sign ++ digits)) (withSign negative (Text.digitsValue digits))

/-- The digits of a number, with a point among them or without. -/
inductive Magnitude (negative : Bool) : List Char → Binary64 → Prop
  | whole {digits exponent : List Char} {power : Int} (nonempty : digits ≠ [])
    (isDigits : ∀ c ∈ digits, Text.isDigit c = true) (scaled : Exponent exponent power) :
    Magnitude negative (digits ++ exponent) (ofDigits negative digits power)
  /-- Each digit behind the point takes one from the power of ten. -/
  | pointed {whole fraction exponent : List Char} {power : Int} (nonempty : whole ++ fraction ≠ [])
    (isDigits : ∀ c ∈ whole ++ fraction, Text.isDigit c = true) (scaled : Exponent exponent power) :
    Magnitude negative (whole ++ '.' :: (fraction ++ exponent))
      (ofDigits negative (whole ++ fraction) (power - fraction.length))

/-- The characters write a number, in decimal or by its name in any case. -/
inductive Writes : List Char → Binary64 → Prop
  | number {negative : Bool} {sign cs : List Char} {x : Binary64} (signed : Sign negative sign)
    (magnitude : Magnitude negative cs x) : Writes (sign ++ cs) x
  | infinite {negative : Bool} {sign cs : List Char} (signed : Sign negative sign)
    (named : Text.asciiLower (String.ofList cs) = "inf" ∨ Text.asciiLower (String.ofList cs) = "infinity") :
    Writes (sign ++ cs) (.infinite negative)
  | nan {negative : Bool} {sign cs : List Char} (signed : Sign negative sign)
    (named : Text.asciiLower (String.ofList cs) = "nan") : Writes (sign ++ cs) .nan

section Sign

variable {negative : Bool} {sign cs : List Char}

/-- What is read as a sign is one, and stands before what is left. -/
theorem sign_of_readSign (cs : List Char) :
    ∃ sign, Sign (readSign cs).1 sign ∧ cs = sign ++ (readSign cs).2 := by
  -- The reader takes one sign or none, and each way is a form of the grammar.
  unfold readSign
  split
  · exact ⟨['-'], .minus, rfl⟩
  · exact ⟨['+'], .plus, rfl⟩
  · exact ⟨[], .none, rfl⟩

/-- A sign is read as such when none follows it. -/
theorem readSign_of_sign (signed : Sign negative sign) (last : ∀ c ∈ cs.head?, c ≠ '+' ∧ c ≠ '-') :
    readSign (sign ++ cs) = (negative, cs) := by
  -- Behind an unwritten sign the reader must not find one: `last` excludes both marks.
  cases signed with
  | plus => rfl
  | minus => rfl
  | none =>
    rw [List.nil_append]
    unfold readSign
    split
    · exact absurd rfl (last '-' rfl).2
    · exact absurd rfl (last '+' rfl).1
    · rfl

/-- A digit is no sign. -/
theorem last_of_isDigit (isDigits : ∀ c ∈ cs, Text.isDigit c = true) :
    ∀ c ∈ cs.head?, c ≠ '+' ∧ c ≠ '-' := by
  -- Neither mark is a digit, so a run of digits cannot begin with one.
  intro c first
  have digit := isDigits c (List.mem_of_mem_head? first)
  constructor
  · rintro rfl
    cases digit
  · rintro rfl
    cases digit

end Sign

section Digits

variable {negative : Bool} {digits whole fraction rest cs : List Char} {power : Int} {x : Binary64}

/-- What begins with no digit. -/
def Stops (rest : List Char) : Prop := ∀ c ∈ rest.head?, Text.isDigit c = false

/-- Digits are taken up to what is none. -/
theorem span_digits (isDigits : ∀ c ∈ digits, Text.isDigit c = true) (stops : Stops rest) :
    (digits ++ rest).takeWhile Text.isDigit = digits ∧ (digits ++ rest).dropWhile Text.isDigit = rest := by
  -- The run ends exactly where `stops` says that no digit comes.
  rw [List.takeWhile_append_of_pos isDigits, List.dropWhile_append_of_pos isDigits]
  cases rest with
  | nil => simp
  | cons c rest => simp [stops c rfl]

/-- Characters begin with digits, if only with none. -/
theorem exists_span (cs : List Char) : ∃ digits rest, cs = digits ++ rest ∧
    (∀ c ∈ digits, Text.isDigit c = true) ∧ Stops rest := by
  -- The digits at the front are the run, and what stops the reader is no digit.
  refine ⟨cs.takeWhile Text.isDigit, cs.dropWhile Text.isDigit, List.takeWhile_append_dropWhile.symm,
    fun c => List.mem_takeWhile_imp, fun c first => ?_⟩
  have stops := List.head?_dropWhile_not Text.isDigit cs
  rw [Option.mem_def.mp first] at stops
  simpa using stops

/-- Nothing but a power of ten is read as one. -/
theorem readExponent?_eq_some : readExponent? cs = some power ↔ Exponent cs power := by
  constructor
  · intro reads
    unfold readExponent? at reads
    -- Without a letter there is no exponent.
    split at reads
    · cases reads
      exact .none
    · rename_i letter cs
      obtain ⟨sign, signed, split⟩ := sign_of_readSign cs
      -- A sign may follow the letter, and the rest has to be digits.
      generalize readSign cs = read at reads signed split
      obtain ⟨negative, digits⟩ := read
      subst split
      split at reads
      · rename_i isLetter
        dsimp only at reads
        cases number : Text.readNat? digits with
        | none =>
          rw [number] at reads
          cases reads
        | some n =>
          obtain ⟨nonempty, isDigits, rfl⟩ := Text.readNat?_eq_some.mp number
          rw [number] at reads
          obtain rfl := Option.some.inj reads
          exact .power (by simpa using isLetter) signed nonempty isDigits
      · cases reads
  · intro written
    cases written with
    | none => rfl
    | power isLetter signed nonempty isDigits =>
      have number := Text.readNat?_eq_some.mpr ⟨nonempty, isDigits, rfl⟩
      -- The first digit is no sign, so the sign is what is written.
      rw [readExponent?, readSign_of_sign signed (last_of_isDigit isDigits), if_pos (by simpa using isLetter)]
      simp only [number]
      rfl

/-- A power of ten begins with neither a digit nor a point. -/
theorem Exponent.first (scaled : Exponent cs power) : Stops cs ∧ cs.head? ≠ some '.' := by
  -- An exponent begins with its letter, which is neither a digit nor a point.
  cases scaled with
  | none => exact ⟨nofun, by simp⟩
  | power isLetter _ _ _ =>
    rcases isLetter with rfl | rfl
    · exact ⟨fun c first => Option.some.inj first ▸ rfl, by simp⟩
    · exact ⟨fun c first => Option.some.inj first ▸ rfl, by simp⟩

/-- A number without a point is read by its digits and what follows them. -/
theorem readUnsigned?_whole (isDigits : ∀ c ∈ digits, Text.isDigit c = true) (stops : Stops rest)
    (noPoint : rest.head? ≠ some '.') : readUnsigned? negative (digits ++ rest) =
      if digits = [] then none else (readExponent? rest).map (ofDigits negative digits) := by
  -- Without a point the reader goes from the whole part straight to the exponent.
  obtain ⟨taken, left⟩ := span_digits isDigits stops
  rw [readUnsigned?, taken, left]
  split
  rename_i fraction others parts
  split at parts
  · exact absurd rfl noPoint
  · cases parts
    simp

/-- A number with a point is read by the digits on both sides of it and what follows them. -/
theorem readUnsigned?_pointed (isWhole : ∀ c ∈ whole, Text.isDigit c = true)
    (isFraction : ∀ c ∈ fraction, Text.isDigit c = true) (stops : Stops rest) :
    readUnsigned? negative (whole ++ '.' :: (fraction ++ rest)) =
      if whole ++ fraction = [] then none
      else (readExponent? rest).map fun power =>
        ofDigits negative (whole ++ fraction) (power - fraction.length) := by
  -- The two runs of digits are taken one after the other, with the point between them.
  have point : Stops ('.' :: (fraction ++ rest)) := fun c first => Option.some.inj first ▸ rfl
  obtain ⟨taken, left⟩ := span_digits isWhole point
  obtain ⟨taken', left'⟩ := span_digits isFraction stops
  rw [readUnsigned?, taken, left]
  simp [taken', left']

/-- Nothing but the digits of a number is read as one. -/
theorem readUnsigned?_eq_some : readUnsigned? negative cs = some x ↔ Magnitude negative cs x := by
  -- Digits are taken as far as they go, so that what follows them says whether there is a point.
  constructor
  · intro reads
    obtain ⟨whole, rest, rfl, isWhole, stops⟩ := exists_span cs
    by_cases point : rest.head? = some '.'
    · -- Both parts around the point together have a digit at least.
      obtain ⟨more, rfl⟩ := List.head?_eq_some_iff.mp point
      obtain ⟨fraction, rest, rfl, isFraction, stops⟩ := exists_span more
      rw [readUnsigned?_pointed isWhole isFraction stops] at reads
      split at reads
      · cases reads
      · rename_i nonempty
        obtain ⟨power, scaled, rfl⟩ := Option.map_eq_some_iff.mp reads
        exact .pointed nonempty (List.forall_mem_append.mpr ⟨isWhole, isFraction⟩)
          (readExponent?_eq_some.mp scaled)
    · rw [readUnsigned?_whole isWhole stops point] at reads
      split at reads
      · cases reads
      · rename_i nonempty
        obtain ⟨power, scaled, rfl⟩ := Option.map_eq_some_iff.mp reads
        exact .whole nonempty isWhole (readExponent?_eq_some.mp scaled)
  · intro written
    -- What an exponent begins with is no digit and no point, so that the parts are the same.
    cases written with
    | whole nonempty isDigits scaled =>
      rw [readUnsigned?_whole isDigits scaled.first.1 scaled.first.2, if_neg nonempty,
        readExponent?_eq_some.mpr scaled]
      rfl
    | pointed nonempty isDigits scaled =>
      obtain ⟨isWhole, isFraction⟩ := List.forall_mem_append.mp isDigits
      rw [readUnsigned?_pointed isWhole isFraction scaled.first.1, if_neg nonempty,
        readExponent?_eq_some.mpr scaled]
      rfl

end Digits

section Text

variable {negative : Bool} {cs : List Char} {x : Binary64}

/-- The digits of a number begin with one of them, or with a point. -/
theorem Magnitude.first (magnitude : Magnitude negative cs x) :
    ∃ c rest, cs = c :: rest ∧ (Text.isDigit c = true ∨ c = '.') := by
  -- A numeral begins with a digit of its whole part, or with the point when that part is empty.
  cases magnitude with
  | @whole digits exponent power nonempty isDigits scaled =>
    obtain ⟨c, digits, rfl⟩ := List.exists_cons_of_ne_nil nonempty
    exact ⟨c, _, rfl, .inl (isDigits c List.mem_cons_self)⟩
  | @pointed whole fraction exponent power nonempty isDigits scaled =>
    cases whole with
    | nil => exact ⟨'.', _, rfl, .inr rfl⟩
    | cons c whole => exact ⟨c, _, rfl, .inl (isDigits c List.mem_cons_self)⟩

/-- What is lowered to a small letter is a letter. -/
theorem le_of_toLower {c : Char} (lowered : 'a' ≤ c.toLower) : 'A' ≤ c := by
  -- Either the character is a capital letter itself, or lowering leaves it and `'a'` is above `'A'`.
  delta Char.toLower at lowered
  split at lowered
  · rename_i capital
    exact capital.1
  · exact Char.le_trans (by decide) lowered

/-- The names of numbers that are no digits. -/
def IsName (cs : List Char) : Prop :=
  Text.asciiLower (String.ofList cs) = "inf" ∨ Text.asciiLower (String.ofList cs) = "infinity" ∨
    Text.asciiLower (String.ofList cs) = "nan"

/-- A name begins with a letter. -/
theorem IsName.first (named : IsName cs) : ∃ c rest, cs = c :: rest ∧ 'A' ≤ c := by
  -- The three names begin with a small letter when lowered, so with a letter as they are written.
  have lowered {name : String} (same : Text.asciiLower (String.ofList cs) = name) :
      cs.map Char.toLower = name.toList := by
    rw [← same, Text.asciiLower, String.toList_ofList, String.toList_ofList]
  have begins {first : Char} {name : List Char} (same : cs.map Char.toLower = first :: name)
      (small : 'a' ≤ first) : ∃ c rest, cs = c :: rest ∧ 'A' ≤ c := by
    obtain ⟨c, rest, rfl, rfl, _⟩ := List.map_eq_cons_iff.mp same
    exact ⟨c, rest, rfl, le_of_toLower small⟩
  rcases named with same | same | same
  · exact begins (lowered same) (by decide)
  · exact begins (lowered same) (by decide)
  · exact begins (lowered same) (by decide)

/-- The digits of a number are no name. -/
theorem Magnitude.not_isName (magnitude : Magnitude negative cs x) : ¬ IsName cs := by
  -- A numeral begins with a digit or a point, a name with a letter, and both are below the letters.
  intro named
  obtain ⟨c, rest, rfl, first⟩ := magnitude.first
  obtain ⟨d, _, same, letter⟩ := named.first
  obtain ⟨rfl, _⟩ := List.cons.inj same
  rcases first with digit | rfl
  · rw [Text.isDigit, Bool.and_eq_true, decide_eq_true_eq, decide_eq_true_eq] at digit
    exact absurd (Char.le_trans letter digit.2) (by decide)
  · exact absurd letter (by decide)

/-- No sign begins a name or the digits of a number. -/
theorem last_of_first {c : Char} {rest : List Char} (unsigned : Text.isDigit c = true ∨ c = '.' ∨ 'A' ≤ c) :
    ∀ d ∈ (c :: rest).head?, d ≠ '+' ∧ d ≠ '-' := by
  -- Digits, the point and the letters are all apart from the two signs.
  intro d first
  obtain rfl := Option.some.inj first
  constructor
  · rintro rfl
    exact absurd unsigned (by decide)
  · rintro rfl
    exact absurd unsigned (by decide)

/-- Nothing but what writes a number is read as one. -/
theorem ofText?_eq_some {s : String} : ofText? s = some x ↔ Writes s.toList x := by
  -- A name begins with a letter and a numeral does not, so that the names can be tried first.
  constructor
  · intro reads
    obtain ⟨sign, signed, split⟩ := sign_of_readSign s.toList
    unfold ofText? at reads
    generalize readSign s.toList = read at reads signed split
    obtain ⟨negative, cs⟩ := read
    rw [split]
    dsimp only at reads signed ⊢
    split at reads
    · rename_i named
      cases reads
      exact .infinite signed (by simpa using named)
    · split at reads
      · rename_i named
        cases reads
        exact .nan signed (by simpa using named)
      · exact .number signed (readUnsigned?_eq_some.mp reads)
  · intro written
    generalize whole : s.toList = cs at written
    cases written with
    | number signed magnitude =>
      -- A magnitude begins with a digit or a point, and so it is no name.
      have unnamed := magnitude.not_isName
      obtain ⟨c, rest, rfl, first⟩ := magnitude.first
      simp only [IsName, not_or] at unnamed
      rw [ofText?, whole, readSign_of_sign signed (last_of_first (first.imp_right .inl))]
      simp only [beq_iff_eq, Bool.or_eq_true, unnamed, or_self, if_false]
      exact readUnsigned?_eq_some.mpr magnitude
    | @infinite negative sign cs signed named =>
      have isName : IsName cs := named.imp_right .inl
      obtain ⟨c, rest, rfl, letter⟩ := isName.first
      rw [ofText?, whole, readSign_of_sign signed (last_of_first (.inr (.inr letter)))]
      simp only [beq_iff_eq, Bool.or_eq_true, named, if_true]
    | @nan negative sign cs signed named =>
      have isName : IsName cs := .inr (.inr named)
      obtain ⟨c, rest, rfl, letter⟩ := isName.first
      -- The name is none of those for infinity.
      have other : ("nan" == "inf" || "nan" == "infinity") = false := by decide
      rw [ofText?, whole, readSign_of_sign signed (last_of_first (.inr (.inr letter)))]
      simp only [named, other, Bool.false_eq_true, if_false, BEq.rfl, if_true]

end Text

end TemplateFacts.Binary64
