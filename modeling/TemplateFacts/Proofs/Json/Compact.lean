import TemplateFacts.Proofs.Json.Reader

/-!
Written documents: the bytes of a document on one line spell it, and so they are read back as the
document, as it is kept. New lines and indentation are blanks, so the bytes of a document over several
lines spell it as well.
-/

namespace TemplateFacts.Json

/-- The bytes of some characters. -/
def encodeChars (cs : List Char) : List UInt8 := cs.flatMap String.utf8EncodeChar

@[simp] theorem encodeChars_cons (c : Char) (cs : List Char) :
    encodeChars (c :: cs) = String.utf8EncodeChar c ++ encodeChars cs := rfl

@[simp] theorem encodeChars_append (cs ds : List Char) :
    encodeChars (cs ++ ds) = encodeChars cs ++ encodeChars ds := List.flatMap_append

/-- The bytes of a text on one line. -/
theorem encode_compact (j : Json) : Utf8.encode (compact j) = encodeChars (compactChars j) := by
  rw [compact, Utf8.encode, String.toList_ofList]
  rfl

section Digits

/-- The byte of a decimal digit. -/
def digitByte (c : Char) : UInt8 := UInt8.ofNat c.toNat

/-- The bytes of digits are one for each. -/
theorem encodeChars_digits {cs : List Char} (digits : ∀ c ∈ cs, Text.isDigit c = true) :
    encodeChars cs = cs.map digitByte := by
  -- Digits are ASCII, so each is one byte.
  induction cs with
  | nil => rfl
  | cons c cs ih =>
    have digit := digits c List.mem_cons_self
    simp only [Text.isDigit, Bool.and_eq_true, decide_eq_true_eq] at digit
    have most : c.toNat ≤ 57 := digit.2
    rw [encodeChars_cons, Utf8.utf8EncodeChar_ascii (by omega),
      ih fun d member => digits d (List.mem_cons_of_mem c member)]
    rfl

/-- The byte of a digit is a digit of the same value. -/
theorem digitByte_digit {c : Char} (digit : Text.isDigit c = true) :
    isDigit (digitByte c) = true ∧ digitValue (digitByte c) = c.toNat - 48 := by
  -- The byte has the character's code, which lies between those of `'0'` and `'9'`.
  simp only [Text.isDigit, Bool.and_eq_true, decide_eq_true_eq] at digit
  have least : 48 ≤ c.toNat := digit.1
  have most : c.toNat ≤ 57 := digit.2
  have code : (digitByte c).toNat = c.toNat := UInt8.toNat_ofNat_of_lt' (Nat.lt_of_le_of_lt most (by decide))
  constructor
  · simp only [isDigit, Bool.and_eq_true, decide_eq_true_eq, UInt8.le_iff_toNat_le, code]
    exact ⟨least, most⟩
  · rw [digitValue, code]

/-- Digits that fit a significand are all taken into it. -/
theorem absorb_fits {cs : List Char} (digits : ∀ c ∈ cs, Text.isDigit c = true) {start : Nat}
    (fits : cs.foldl (fun n c => n * 10 + (c.toNat - 48)) start ≤ greatestSignificand) :
    absorb start (cs.map digitByte) =
      (cs.foldl (fun n c => n * 10 + (c.toNat - 48)) start, cs.length) := by
  -- More digits make a number greater.
  have grows (ds : List Char) : ∀ n, n ≤ ds.foldl (fun n c => n * 10 + (c.toNat - 48)) n := by
    induction ds with
    | nil => exact fun n => Nat.le_refl n
    | cons d ds ih =>
      intro n
      have later := ih (n * 10 + (d.toNat - 48))
      rw [List.foldl_cons]
      omega
  induction cs generalizing start with
  | nil => rfl
  | cons c cs ih =>
    rw [List.foldl_cons] at fits ⊢
    have value := (digitByte_digit (digits c List.mem_cons_self)).2
    have small : ¬ start * 10 + (c.toNat - 48) > greatestSignificand :=
      Nat.not_lt.mpr (Nat.le_trans (grows cs _) fits)
    rw [List.map_cons, absorb]
    simp only [value, small, if_false, ih (fun d member => digits d (List.mem_cons_of_mem c member)) fits,
      List.length_cons]

/-- A number of more than one digit does not begin with a zero. -/
theorem noZero_toDigits {n : Nat} (several : 10 ≤ n) :
    ∃ c cs, Nat.toDigits 10 n = c :: cs ∧ c ≠ '0' := by
  -- By strong induction on the number, which loses its last digit at each step.
  induction n using Nat.strongRecOn with
  | ind n ih =>
    have shorter : n / 10 < n := Nat.div_lt_self (by omega) (by decide)
    rw [Nat.toDigits_of_base_le (by decide) several]
    by_cases more : 10 ≤ n / 10
    · obtain ⟨c, cs, same, noZero⟩ := ih (n / 10) shorter more
      exact ⟨c, cs ++ [(n % 10).digitChar], by rw [same, List.cons_append], noZero⟩
    · have one : n / 10 < 10 := Nat.not_le.mp more
      refine ⟨(n / 10).digitChar, [(n % 10).digitChar], ?_, ?_⟩
      · rw [Nat.toDigits_of_lt_base one, List.singleton_append]
      · have digits : ∀ m < 10, 0 < m → m.digitChar ≠ '0' := by decide
        exact digits _ one (by omega)

/-- Only a zero has the byte of a zero. -/
theorem digitByte_ne_zero {c : Char} (digit : Text.isDigit c = true) (other : c ≠ '0') :
    digitByte c ≠ 0x30 := by
  -- `'0'` is the only character with that code.
  intro zero
  simp only [Text.isDigit, Bool.and_eq_true, decide_eq_true_eq] at digit
  have most : c.toNat ≤ 57 := digit.2
  have code : (digitByte c).toNat = c.toNat :=
    UInt8.toNat_ofNat_of_lt' (Nat.lt_of_le_of_lt most (by decide))
  rw [zero] at code
  exact other (Char.toNat_inj.mp code.symm)

/-- The bytes of the digits of a number are digits, and a zero stands alone. -/
theorem encodeChars_toDigits (n : Nat) :
    ∃ b more, encodeChars (Nat.toDigits 10 n) = b :: more ∧ (∀ c ∈ b :: more, isDigit c = true) ∧
      (b == 0x30 && decide ((b :: more).length > 1)) = false := by
  have digits : ∀ c ∈ Nat.toDigits 10 n, Text.isDigit c = true :=
    fun c member => Text.isDigit_of_mem_toDigits member
  have bytes : ∀ b ∈ (Nat.toDigits 10 n).map digitByte, isDigit b = true := by
    intro b member
    obtain ⟨c, inside, rfl⟩ := List.mem_map.mp member
    exact (digitByte_digit (digits c inside)).1
  obtain ⟨b, more, split⟩ : ∃ b more, (Nat.toDigits 10 n).map digitByte = b :: more := by
    cases same : (Nat.toDigits 10 n).map digitByte with
    | nil => exact absurd (List.map_eq_nil_iff.mp same) Nat.toDigits_ne_nil
    | cons b more => exact ⟨b, more, rfl⟩
  -- The digits are there, and the first of several is no zero.
  refine ⟨b, more, (encodeChars_digits digits).trans split, split ▸ bytes, ?_⟩
  by_cases several : 10 ≤ n
  · obtain ⟨c, cs, same, other⟩ := noZero_toDigits several
    have digit : Text.isDigit c = true := digits c (by rw [same]; exact List.mem_cons_self)
    rw [same, List.map_cons] at split
    obtain ⟨rfl, -⟩ := List.cons.inj split
    rw [beq_eq_false_iff_ne.mpr (digitByte_ne_zero digit other), Bool.false_and]
  · rw [Nat.toDigits_of_lt_base (by omega)] at split
    obtain ⟨_, rfl⟩ := List.cons.inj split
    exact Bool.and_false _

/-- The digits of a number are read as the number if it fits a significand. -/
theorem readNumber_toDigits {n : Nat} (negative : Bool) (fits : n ≤ greatestSignificand) :
    ∃ behind, readNumber negative ⟨encodeChars (Nat.toDigits 10 n), 1, 0⟩ =
      .ok (wholeNumber negative n, ⟨[], behind⟩) := by
  have digits : ∀ c ∈ Nat.toDigits 10 n, Text.isDigit c = true :=
    fun c member => Text.isDigit_of_mem_toDigits member
  have value : (Nat.toDigits 10 n).foldl (fun n c => n * 10 + (c.toNat - 48)) 0 = n :=
    Text.digitsValue_toDigits n
  have taken := absorb_fits digits (Nat.le_trans (Nat.le_of_eq value) fits)
  obtain ⟨b, more, split, bytes, alone⟩ := encodeChars_toDigits n
  have read := readDigits_append ⟨1, 0⟩ bytes stops_nil
  have length : (b :: more).length = (Nat.toDigits 10 n).length := by
    rw [← split, encodeChars_digits digits, List.length_map]
  rw [value, ← encodeChars_digits digits, split] at taken
  rw [List.append_nil] at read
  rw [split]
  -- All digits are taken into the significand, which is the number, and a zero stands alone.
  refine ⟨(⟨1, 0⟩ : Position).afterAll (b :: more), ?_⟩
  simp only [readNumber, bytes b List.mem_cons_self, Bool.not_true, Bool.false_eq_true, if_false, read,
    alone, taken]
  rw [← length]
  simp only [Nat.lt_irrefl, if_false]

/-- The digits of a number are passed over. -/
theorem skipNumber_toDigits (n : Nat) :
    ∃ behind, skipNumber ⟨encodeChars (Nat.toDigits 10 n), 1, 0⟩ = .ok ⟨[], behind⟩ := by
  -- The digits of a number are one, or begin with another than zero, so nothing is left behind.
  obtain ⟨b, more, split, bytes, alone⟩ := encodeChars_toDigits n
  have read := readDigits_append ⟨1, 0⟩ bytes stops_nil
  rw [List.append_nil] at read
  rw [split]
  refine ⟨(⟨1, 0⟩ : Position).afterAll (b :: more), ?_⟩
  simp only [skipNumber, bytes b List.mem_cons_self, Bool.not_true, Bool.false_eq_true, if_false, read,
    alone]

/-- A written integer has the form of a number. -/
theorem passesNumber_intChars (n : Int) : PassesNumber (encodeChars (intChars n)) := by
  -- A sign is passed on its own, and the digits of the size follow.
  obtain ⟨behind, passes⟩ := skipNumber_toDigits n.natAbs
  by_cases negative : n < 0
  · refine ⟨true, _, behind, ?_, passes⟩
    rw [intChars, if_pos negative, encodeChars_cons]
    rfl
  · refine ⟨false, _, behind, ?_, passes⟩
    rw [intChars, if_neg negative]
    rfl

/-- No natural number is below the least integer that is kept. -/
theorem leastInt_le_natCast (n : Nat) : leastInt ≤ (n : Int) := by
  unfold leastInt
  omega

/-- A written integer that is kept as one spells it. -/
theorem spellsNumber_intChars {n : Int} (least : leastInt ≤ n) (greatest : n ≤ greatestInt) :
    SpellsNumber (.int n) (encodeChars (intChars n)) := by
  unfold leastInt at least
  unfold greatestInt at greatest
  have fits : n.natAbs ≤ greatestSignificand := by
    unfold greatestSignificand
    omega
  by_cases negative : n < 0
  · obtain ⟨behind, read⟩ := readNumber_toDigits true fits
    -- It is not the negative zero, and not below the least integer that is kept.
    have kept : wholeNumber true n.natAbs = .int n := by
      have some : (n.natAbs == 0) = false := beq_eq_false_iff_ne.mpr (by omega)
      have small : ¬ n.natAbs > leastInt.natAbs := by
        unfold leastInt
        omega
      simp only [wholeNumber, Bool.not_true, Bool.false_eq_true, if_false, some, small,
        decide_false, Bool.or_self]
      congr 1
      omega
    refine ⟨true, encodeChars (Nat.toDigits 10 n.natAbs), behind, ?_, ?_⟩
    · rw [intChars, if_pos negative, encodeChars_cons]
      rfl
    · rw [read, kept]
  · -- Without a sign the digits are the number.
    obtain ⟨behind, read⟩ := readNumber_toDigits false fits
    have kept : wholeNumber false n.natAbs = .int n := by
      simp only [wholeNumber, Bool.not_false, if_true]
      congr 1
      omega
    refine ⟨false, encodeChars (Nat.toDigits 10 n.natAbs), behind, ?_, ?_⟩
    · rw [intChars, if_neg negative]
      rfl
    · rw [read, kept]

end Digits

section Texts

/-- The byte of a hexadecimal digit. -/
def hexByte (n : Nat) : UInt8 := UInt8.ofNat (Text.hexDigit n).toNat

/-- A written character spells itself. -/
theorem spellsChar_escapedChar (c : Char) : SpellsChar c (encodeChars (escapedChar c)) := by
  -- Two digits are enough for the control characters.
  have units : ∀ n < 32, encodeChars ['\\', 'u', '0', '0', Text.hexDigit (n / 16), Text.hexDigit (n % 16)] =
      [0x5C, 0x75, 0x30, 0x30, hexByte (n / 16), hexByte (n % 16)] ∧
      hexFour? 0x30 0x30 (hexByte (n / 16)) (hexByte (n % 16)) = some n := by decide +kernel
  unfold escapedChar
  -- Seven characters have a letter of their own.
  split_ifs with quote slash control b f n r t
  · rw [beq_iff_eq] at quote
    exact .letter c 0x22 0x22 (by decide) (by rw [quote]; decide)
  · rw [beq_iff_eq] at slash
    exact .letter c 0x5C 0x5C (by decide) (by rw [slash]; decide)
  · rw [beq_iff_eq] at b
    exact .letter c 0x62 0x08 (by decide) b.symm
  · rw [beq_iff_eq] at f
    exact .letter c 0x66 0x0C (by decide) f.symm
  · rw [beq_iff_eq] at n
    exact .letter c 0x6E 0x0A (by decide) (by rw [n]; decide)
  · rw [beq_iff_eq] at r
    exact .letter c 0x72 0x0D (by decide) (by rw [r]; decide)
  · rw [beq_iff_eq] at t
    exact .letter c 0x74 0x09 (by decide) (by rw [t]; decide)
  · -- The other control characters are written by their code.
    obtain ⟨bytes, value⟩ := units c.toNat control
    rw [bytes]
    exact .unit c 0x30 0x30 _ _ value
  · -- All other characters stand for themselves.
    have noQuote : c ≠ '"' := fun same => quote (beq_iff_eq.mpr same)
    have noSlash : c ≠ '\\' := fun same => slash (beq_iff_eq.mpr same)
    have plain : IsPlain c := Nat.not_lt.mp control
    rw [encodeChars_cons]
    simpa [encodeChars] using SpellsChar.itself c plain noQuote noSlash

/-- A written text spells itself behind its quote. -/
theorem encodeChars_textChars (s : String) :
    ∃ inside, encodeChars (textChars s) = 0x22 :: inside ∧ SpellsText s inside := by
  -- Each character is spelt by its own escape, up to the closing quote.
  have spells (cs : List Char) : SpellsChars cs (encodeChars (cs.flatMap escapedChar ++ ['"'])) := by
    induction cs with
    | nil => exact .close
    | cons c cs ih =>
      rw [List.flatMap_cons, List.append_assoc, encodeChars_append]
      exact .char (spellsChar_escapedChar c) ih
  exact ⟨_, rfl, spells s.toList⟩

end Texts

mutual
/-- A document that is read back as it is: it has no floats, and its integers are kept as such. -/
def IsExact : Json → Prop
  -- A text may hold any characters.
  | .list xs => IsExactItems xs
  | .object ms => IsExactMembers ms
  | .int n => leastInt ≤ n ∧ n ≤ greatestInt
  | .float _ => False
  | .null => True
  | .bool _ => True
  | .text _ => True
termination_by structural j => j

/-- All items are read back as they are. -/
def IsExactItems : List Json → Prop
  | [] => True
  | x :: xs => IsExact x ∧ IsExactItems xs
termination_by structural xs => xs

/-- The values of all members are read back as they are. -/
def IsExactMembers : List (String × Json) → Prop
  | [] => True
  | m :: ms => IsExactMember m ∧ IsExactMembers ms
termination_by structural ms => ms

/-- The value of a member is read back as it is. -/
def IsExactMember : String × Json → Prop
  | (_, x) => IsExact x
termination_by structural m => m
end

/-- Nothing stands before the first part. -/
theorem lead_nil : Lead true [] := fun b member => by cases member

/-- A comma alone stands before all other parts. -/
theorem lead_comma : Lead false [0x2C] :=
  ⟨[], [], fun b member => (by cases member), fun b member => (by cases member), rfl⟩

mutual
/-- A written document spells itself. -/
theorem spells_compactChars :
    (j : Json) → IsExact j → Spells .strict j (encodeChars (compactChars j))
  | .null, _ => rfl
  | .bool true, _ => rfl
  | .bool false, _ => rfl
  | .int _, ⟨least, greatest⟩ => spellsNumber_intChars least greatest
  | .text s, _ => by
    obtain ⟨inside, same, spells⟩ := encodeChars_textChars s
    exact ⟨inside, spells, same⟩
  | .list [], _ => ⟨[], lead_nil, rfl⟩
  | .list (x :: xs), ⟨first, later⟩ => by
    obtain ⟨inside, same, spells⟩ := spells_compactItems xs later
    refine ⟨encodeChars (compactChars x) ++ inside, ⟨[], _, inside, lead_nil,
      spells_compactChars x first, spells, rfl⟩, ?_⟩
    rw [compactChars, encodeChars_cons, encodeChars_append, same, List.append_assoc]
    rfl
  | .object [], _ => ⟨[], lead_nil, rfl⟩
  | .object (m :: ms), ⟨first, later⟩ => by
    obtain ⟨inside, same, spells⟩ := spells_compactMembers ms later
    refine ⟨encodeChars (compactMember m) ++ inside, ⟨[], _, inside, lead_nil,
      spells_compactMember m first, spells, rfl⟩, ?_⟩
    rw [compactChars, encodeChars_cons, encodeChars_append, same, List.append_assoc]
    rfl

/-- The written items behind the first one spell themselves, up to the closing bracket. -/
theorem spells_compactItems : (xs : List Json) → IsExactItems xs →
    ∃ inside, encodeChars (compactItems xs) = inside ++ [0x5D] ∧ SpellsItems .strict false xs inside
  | [], _ => ⟨[], rfl, lead_nil⟩
  | x :: xs, ⟨first, later⟩ => by
    obtain ⟨inside, same, spells⟩ := spells_compactItems xs later
    refine ⟨[0x2C] ++ (encodeChars (compactChars x) ++ inside), ?_, [0x2C], _, inside, lead_comma,
      spells_compactChars x first, spells, rfl⟩
    rw [compactItems, encodeChars_cons, encodeChars_append, same, List.append_assoc,
      List.append_assoc]
    rfl

/-- The written members behind the first one spell themselves, up to the closing brace. -/
theorem spells_compactMembers : (ms : List (String × Json)) → IsExactMembers ms →
    ∃ inside, encodeChars (compactMembers ms) = inside ++ [0x7D] ∧
      SpellsMembers .strict false ms inside
  | [], _ => ⟨[], rfl, lead_nil⟩
  | m :: ms, ⟨first, later⟩ => by
    obtain ⟨inside, same, spells⟩ := spells_compactMembers ms later
    refine ⟨[0x2C] ++ (encodeChars (compactMember m) ++ inside), ?_, [0x2C], _, inside, lead_comma,
      spells_compactMember m first, spells, rfl⟩
    rw [compactMembers, encodeChars_cons, encodeChars_append, same, List.append_assoc,
      List.append_assoc]
    rfl

/-- A written member spells itself. -/
theorem spells_compactMember : (m : String × Json) → IsExactMember m →
    SpellsMember .strict m (encodeChars (compactMember m))
  | (name, x), exact => by
    obtain ⟨inName, same, spells⟩ := encodeChars_textChars name
    refine ⟨inName, [0x3A], encodeChars (compactChars x), spells,
      ⟨[], [], fun b member => (by cases member), fun b member => (by cases member), rfl⟩,
      spells_compactChars x exact, ?_⟩
    rw [compactMember, encodeChars_append, same, encodeChars_cons]
    rfl
end

/-- A written document is read back as it is kept. -/
theorem ofBytes_compact {j : Json} (exact : IsExact j) (shallow : nesting j ≤ greatestDepth) :
    ofBytes (Utf8.encode (compact j)) = .ok (settle j) := by
  -- The compact text spells the value with no blank around it.
  have none : IsBlank [] := fun b member => by cases member
  have read := ofBytes_spells none (spells_compactChars j exact) none shallow
  rw [List.nil_append, List.append_nil] at read
  rw [encode_compact, read]

/-- The bytes of a text over several lines. -/
theorem encode_pretty (j : Json) : Utf8.encode (pretty j) = encodeChars (prettyChars 0 j) := by
  rw [pretty, Utf8.encode, String.toList_ofList]
  rfl

/-- A new line with its indentation is blank. -/
theorem isBlank_indentation (level : Nat) : IsBlank (encodeChars (indentation level)) := by
  -- A line feed and spaces only.
  intro b member
  obtain ⟨c, inside, written⟩ := List.mem_flatMap.mp member
  rcases List.mem_cons.mp inside with rfl | space
  · rw [List.mem_singleton.mp written]
    rfl
  · rw [(List.mem_replicate.mp space).2] at written
    rw [List.mem_singleton.mp written]
    rfl

/-- A comma and a new line stand before all parts but the first. -/
theorem lead_line (level : Nat) : Lead false (0x2C :: encodeChars (indentation level)) :=
  ⟨[], _, fun b member => (by cases member), isBlank_indentation level, rfl⟩

/-- A colon and a space stand between a name and its value. -/
theorem colon_space : Colon [0x3A, 0x20] := by
  -- One space behind the colon.
  refine ⟨[], [0x20], fun b member => (by cases member), fun b member => ?_, rfl⟩
  rw [List.mem_singleton.mp member]
  rfl

mutual
/-- A document over several lines spells itself. -/
theorem spells_prettyChars (level : Nat) :
    (j : Json) → IsExact j → Spells .strict j (encodeChars (prettyChars level j))
  | .null, _ => rfl
  | .bool true, _ => rfl
  | .bool false, _ => rfl
  | .int _, ⟨least, greatest⟩ => spellsNumber_intChars least greatest
  | .text s, _ => by
    obtain ⟨inside, same, spells⟩ := encodeChars_textChars s
    exact ⟨inside, spells, same⟩
  | .list [], _ => ⟨[], lead_nil, rfl⟩
  | .list (x :: xs), ⟨first, later⟩ => by
    obtain ⟨inside, same, spells⟩ := spells_prettyItems level xs later
    refine ⟨_, ⟨_, _, inside, isBlank_indentation (level + 1),
      spells_prettyChars (level + 1) x first, spells, rfl⟩, ?_⟩
    rw [prettyChars, encodeChars_cons, encodeChars_append, encodeChars_append, same]
    simp only [List.append_assoc]
    rfl
  | .object [], _ => ⟨[], lead_nil, rfl⟩
  | .object (m :: ms), ⟨first, later⟩ => by
    obtain ⟨inside, same, spells⟩ := spells_prettyMembers level ms later
    refine ⟨_, ⟨_, _, inside, isBlank_indentation (level + 1),
      spells_prettyMember (level + 1) m first, spells, rfl⟩, ?_⟩
    rw [prettyChars, encodeChars_cons, encodeChars_append, encodeChars_append, same]
    simp only [List.append_assoc]
    rfl

/-- The items behind the first one spell themselves, up to the closing bracket. -/
theorem spells_prettyItems (level : Nat) : (xs : List Json) → IsExactItems xs →
    ∃ inside, encodeChars (prettyItems level xs) = inside ++ [0x5D] ∧
      SpellsItems .strict false xs inside
  | [], _ => ⟨_, by rw [prettyItems, encodeChars_append]; rfl, isBlank_indentation level⟩
  | x :: xs, ⟨first, later⟩ => by
    obtain ⟨inside, same, spells⟩ := spells_prettyItems level xs later
    refine ⟨_, ?_, _, _, inside, lead_line (level + 1), spells_prettyChars (level + 1) x first,
      spells, rfl⟩
    rw [prettyItems, encodeChars_cons, encodeChars_append, encodeChars_append, same]
    simp only [List.append_assoc, List.cons_append]
    rfl

/-- The members behind the first one spell themselves, up to the closing brace. -/
theorem spells_prettyMembers (level : Nat) : (ms : List (String × Json)) → IsExactMembers ms →
    ∃ inside, encodeChars (prettyMembers level ms) = inside ++ [0x7D] ∧
      SpellsMembers .strict false ms inside
  | [], _ => ⟨_, by rw [prettyMembers, encodeChars_append]; rfl, isBlank_indentation level⟩
  | m :: ms, ⟨first, later⟩ => by
    obtain ⟨inside, same, spells⟩ := spells_prettyMembers level ms later
    refine ⟨_, ?_, _, _, inside, lead_line (level + 1), spells_prettyMember (level + 1) m first,
      spells, rfl⟩
    rw [prettyMembers, encodeChars_cons, encodeChars_append, encodeChars_append, same]
    simp only [List.append_assoc, List.cons_append]
    rfl

/-- A member spells itself. -/
theorem spells_prettyMember (level : Nat) : (m : String × Json) → IsExactMember m →
    SpellsMember .strict m (encodeChars (prettyMember level m))
  | (name, x), exact => by
    obtain ⟨inName, same, spells⟩ := encodeChars_textChars name
    refine ⟨inName, _, _, spells, colon_space, spells_prettyChars level x exact, ?_⟩
    rw [prettyMember, encodeChars_append, same, encodeChars_cons, encodeChars_cons]
    rfl
end

/-- A text over several lines that ends with a line feed is read back as the document, as it is kept. -/
theorem ofText_pretty {j : Json} (exact : IsExact j) (shallow : nesting j ≤ greatestDepth) :
    ofText (pretty j ++ "\n") = .ok (settle j) := by
  -- The pretty text spells the value, and the line feed behind it is blank.
  have none : IsBlank [] := fun b member => by cases member
  have feed : IsBlank [0x0A] := fun b member => by rw [List.mem_singleton.mp member]; rfl
  have read := ofBytes_spells none (spells_prettyChars 0 j exact) feed shallow
  rw [ofText, Utf8.encode_append, encode_pretty]
  exact read

end TemplateFacts.Json
