import TemplateFacts.Proofs.Json.Cursor
import TemplateFacts.Proofs.Json.Writer

/-!
Texts of a document: every character may stand as itself or as one of its escapes, and is read as
itself. A text that is only passed over may hold code units that are no characters.
-/

namespace TemplateFacts.Json

/-- The bytes spell a character inside a text, as itself or as one of its escapes. -/
inductive SpellsChar : Char → List UInt8 → Prop where
  | itself (c : Char) (plain : IsPlain c) (noQuote : c ≠ '"') (noSlash : c ≠ '\\') :
      SpellsChar c (String.utf8EncodeChar c)
  | letter (c : Char) (e b : UInt8) (stands : escapedByte? e = some b) (same : b.toNat = c.toNat) :
      SpellsChar c [0x5C, e]
  | unit (c : Char) (h1 h2 h3 h4 : UInt8) (value : hexFour? h1 h2 h3 h4 = some c.toNat) :
      SpellsChar c [0x5C, 0x75, h1, h2, h3, h4]
  /-- Two code units together name a character. -/
  | pair (high low : Nat) (h1 h2 h3 h4 k1 k2 k3 k4 : UInt8)
      (first : hexFour? h1 h2 h3 h4 = some high) (isHigh : isHighSurrogate high = true)
      (second : hexFour? k1 k2 k3 k4 = some low) (isLow : isLowSurrogate low = true) :
      SpellsChar (pairedChar high low)
        [0x5C, 0x75, h1, h2, h3, h4, 0x5C, 0x75, k1, k2, k3, k4]

/-- The bytes spell characters up to the closing quote. -/
inductive SpellsChars : List Char → List UInt8 → Prop where
  | close : SpellsChars [] [0x22]
  | char {c : Char} {cs : List Char} {piece bytes : List UInt8} (first : SpellsChar c piece)
      (later : SpellsChars cs bytes) : SpellsChars (c :: cs) (piece ++ bytes)

/-- The bytes spell a text, behind its opening quote. -/
def SpellsText (s : String) (bytes : List UInt8) : Prop := SpellsChars s.toList bytes

section Read

variable {read bytes piece rest : List UInt8} {position : Position}

/-- The byte stands for itself inside a text. -/
def StandsAlone (b : UInt8) : Prop := b ≠ 0x22 ∧ b ≠ 0x5C ∧ ¬ b < 0x20

/-- Bytes that stand for themselves are read as they are. -/
theorem textBytes_alone (alone : ∀ b ∈ bytes, StandsAlone b) :
    textBytes read position (bytes ++ rest) =
      textBytes (bytes.reverse ++ read) (position.afterAll bytes) rest := by
  -- By induction on the bytes, which are kept in reverse.
  induction bytes generalizing read position with
  | nil => rfl
  | cons b bytes ih =>
    obtain ⟨noQuote, noSlash, noControl⟩ := alone b List.mem_cons_self
    have quote : (b == 0x22) = false := beq_eq_false_iff_ne.mpr noQuote
    have slash : (b == 0x5C) = false := beq_eq_false_iff_ne.mpr noSlash
    rw [List.cons_append, textBytes.eq_def]
    simp only [quote, slash, noControl, Bool.false_eq_true, if_false]
    rw [ih fun c member => alone c (List.mem_cons_of_mem b member), List.reverse_cons,
      List.append_assoc, List.singleton_append, Position.afterAll_cons]

/-- The bytes of a plain character stand for themselves, unless it is a mark of the grammar. -/
theorem standsAlone_of_plain {c : Char} (plain : IsPlain c) (noQuote : c ≠ '"')
    (noSlash : c ≠ '\\') {b : UInt8} (member : b ∈ String.utf8EncodeChar c) : StandsAlone b := by
  -- A byte of the first half is the character itself.
  have itself (ascii : b.toNat < 128) : c.toNat = b.toNat :=
    Utf8.toNat_of_mem_utf8EncodeChar member ascii
  refine ⟨?_, ?_, ?_⟩
  · rintro rfl
    exact noQuote (Char.toNat_inj.mp (itself (by decide)))
  · rintro rfl
    exact noSlash (Char.toNat_inj.mp (itself (by decide)))
  · intro control
    have small : b.toNat < 32 := UInt8.lt_iff_toNat_lt.mp control
    have code := itself (by omega)
    unfold IsPlain at plain
    omega

/-- A letter that is an escape is not the mark of a code unit. -/
theorem ne_unit_of_escapedByte? {e b : UInt8} (stands : escapedByte? e = some b) :
    (e == 0x75) = false := by
  -- `u` opens an escape by number and stands for no byte of its own.
  rw [beq_eq_false_iff_ne]
  rintro rfl
  have none : escapedByte? 0x75 = none := by decide
  rw [none] at stands
  cases stands

/-- An escape stands for a byte of the first half. -/
theorem lt_of_escapedByte? {e b : UInt8} (stands : escapedByte? e = some b) : b.toNat < 128 := by
  -- Every short escape is one of eight ASCII characters.
  unfold escapedByte? at stands
  split_ifs at stands with itself
  · simp only [Bool.or_eq_true, beq_iff_eq] at itself
    rw [Option.some.injEq] at stands
    rcases itself with (rfl | rfl) | rfl <;> rw [← stands] <;> decide
  all_goals
    rw [Option.some.injEq] at stands
    rw [← stands]
    decide

/-- A character is no surrogate. -/
theorem not_surrogate (c : Char) : isLowSurrogate c.toNat = false ∧ isHighSurrogate c.toNat = false := by
  -- A character is never a surrogate, high or low.
  have valid := c.valid
  simp only [UInt32.isValidChar, Nat.isValidChar] at valid
  have code : c.val.toNat = c.toNat := rfl
  simp only [isLowSurrogate, isHighSurrogate, Bool.and_eq_false_iff, decide_eq_false_iff_not]
  omega

/-- A spelled character is read as its bytes. -/
theorem textBytes_char {c : Char} (spells : SpellsChar c piece) :
    textBytes read position (piece ++ rest) =
      textBytes ((String.utf8EncodeChar c).reverse ++ read) (position.afterAll piece) rest := by
  -- Each way to write a character is one branch of the reader.
  cases spells with
  | itself _ plain noQuote noSlash =>
    exact textBytes_alone fun b member => standsAlone_of_plain plain noQuote noSlash member
  | letter _ e b stands same =>
    have ascii : c.toNat < 128 := by
      rw [← same]
      exact lt_of_escapedByte? stands
    have one : String.utf8EncodeChar c = [b] := by
      rw [Utf8.utf8EncodeChar_ascii ascii, ← same, UInt8.ofNat_toNat]
    have quote : ((0x5C : UInt8) == 0x22) = false := rfl
    rw [List.cons_append, textBytes.eq_def]
    simp only [List.cons_append, List.nil_append, quote, Bool.false_eq_true, if_false,
      BEq.rfl, if_true, ne_unit_of_escapedByte? stands, stands, one, List.reverse_singleton,
      Position.afterAll_cons, Position.afterAll_nil]
  | unit _ h1 h2 h3 h4 value =>
    have quote : ((0x5C : UInt8) == 0x22) = false := rfl
    rw [List.cons_append, textBytes.eq_def]
    simp only [List.cons_append, List.nil_append, quote, Bool.false_eq_true, if_false,
      BEq.rfl, if_true, value, not_surrogate c, Bool.not_false, Char.ofNat_toNat,
      Position.afterAll_cons, Position.afterAll_nil]
  | pair high low h1 h2 h3 h4 k1 k2 k3 k4 first isHigh second isLow =>
    have quote : ((0x5C : UInt8) == 0x22) = false := rfl
    have notLow : isLowSurrogate high = false := by
      simp only [isHighSurrogate, Bool.and_eq_true, decide_eq_true_eq] at isHigh
      simp only [isLowSurrogate, Bool.and_eq_false_iff, decide_eq_false_iff_not]
      omega
    have slash : ((0x5C : UInt8) != 0x5C) = false := rfl
    have mark : ((0x75 : UInt8) != 0x75) = false := rfl
    rw [List.cons_append, textBytes.eq_def]
    simp only [List.cons_append, List.nil_append, quote, Bool.false_eq_true, if_false,
      BEq.rfl, if_true, first, notLow, isHigh, Bool.not_true, slash, mark, second, isLow,
      Position.afterAll_cons, Position.afterAll_nil]

/-- Spelled characters are read as their bytes. -/
theorem textBytes_chars {cs : List Char} (spells : SpellsChars cs bytes) :
    textBytes read position (bytes ++ rest) =
      .ok (read.reverse ++ cs.flatMap String.utf8EncodeChar, ⟨rest, position.afterAll bytes⟩) := by
  -- The induction is on the spelling; the characters read are kept in reverse.
  induction spells generalizing read position with
  | close =>
    rw [List.cons_append, textBytes.eq_def]
    simp only [List.nil_append, BEq.rfl, if_true, List.flatMap_nil, List.append_nil, Position.afterAll_cons, Position.afterAll_nil]
  | char first later ih =>
    rw [List.append_assoc, textBytes_char first, ih, List.reverse_append, List.reverse_reverse,
      List.flatMap_cons, List.append_assoc, Position.afterAll_append]

/-- A spelled text is read. -/
theorem readText_spells {s : String} (spells : SpellsText s bytes) :
    readText ⟨bytes ++ rest, position⟩ = .ok (s, ⟨rest, position.afterAll bytes⟩) := by
  -- The bytes read are the text's own encoding, so decoding them gives the text.
  have encoded : Utf8.decode (s.toList.flatMap String.utf8EncodeChar) = .ok s :=
    Utf8.decode_encode s
  simp only [readText, textBytes_chars spells, List.reverse_nil, List.nil_append, encoded]

end Read

/-- The bytes of a text that is passed over, up to its closing quote. -/
inductive PassesText : List UInt8 → Prop where
  | close : PassesText [0x22]
  | itself {b : UInt8} {bytes : List UInt8} (alone : StandsAlone b) (later : PassesText bytes) :
      PassesText (b :: bytes)
  | letter {e b : UInt8} {bytes : List UInt8} (stands : escapedByte? e = some b)
      (later : PassesText bytes) : PassesText (0x5C :: e :: bytes)
  /-- A code unit need not be a character. -/
  | unit {h1 h2 h3 h4 : UInt8} {n : Nat} {bytes : List UInt8} (value : hexFour? h1 h2 h3 h4 = some n)
      (later : PassesText bytes) : PassesText (0x5C :: 0x75 :: h1 :: h2 :: h3 :: h4 :: bytes)

/-- Bytes that stand for themselves are passed over. -/
theorem PassesText.alone {bytes rest : List UInt8} (alone : ∀ b ∈ bytes, StandsAlone b)
    (later : PassesText rest) : PassesText (bytes ++ rest) := by
  -- Byte after byte, up to where the rest begins.
  induction bytes with
  | nil => exact later
  | cons b bytes ih =>
    exact .itself (alone b List.mem_cons_self) (ih fun c member => alone c (List.mem_cons_of_mem b member))

/-- A text that can be read can be passed over. -/
theorem SpellsText.passes {s : String} {bytes : List UInt8} (spells : SpellsText s bytes) :
    PassesText bytes := by
  unfold SpellsText at spells
  generalize s.toList = cs at spells
  -- By induction on how the text is written; each character is passed over as it is written.
  induction spells with
  | close => exact .close
  | char first later ih =>
    cases first with
    | itself _ plain noQuote noSlash =>
      exact .alone (fun b member => standsAlone_of_plain plain noQuote noSlash member) ih
    | letter _ e b stands same => exact .letter stands ih
    | unit _ h1 h2 h3 h4 value => exact .unit value ih
    | pair high low h1 h2 h3 h4 k1 k2 k3 k4 first _ second _ => exact .unit first (.unit second ih)

/-- A text is passed over up to its closing quote. -/
theorem skipTextFrom_passes {bytes rest : List UInt8} {position : Position}
    (passes : PassesText bytes) :
    skipTextFrom position (bytes ++ rest) = .ok ⟨rest, position.afterAll bytes⟩ := by
  have slash : ((0x5C : UInt8) == 0x22) = false := rfl
  -- By induction on the form of the text, each case of which is one branch of the pass.
  induction passes generalizing position with
  | close =>
    rw [List.cons_append, skipTextFrom.eq_def]
    simp only [List.nil_append, BEq.rfl, if_true, Position.afterAll_cons, Position.afterAll_nil]
  | itself alone later ih =>
    obtain ⟨noQuote, noSlash, noControl⟩ := alone
    rw [List.cons_append, skipTextFrom.eq_def]
    simp only [beq_eq_false_iff_ne.mpr noQuote,
      beq_eq_false_iff_ne.mpr noSlash, noControl, Bool.false_eq_true, if_false, ih,
      Position.afterAll_cons]
  | letter stands later ih =>
    rw [List.cons_append, skipTextFrom.eq_def]
    simp only [List.cons_append, slash, Bool.false_eq_true, if_false, BEq.rfl, if_true,
      ne_unit_of_escapedByte? stands, stands, ih, Position.afterAll_cons]
  | unit value later ih =>
    rw [List.cons_append, skipTextFrom.eq_def]
    simp only [List.cons_append, slash, Bool.false_eq_true, if_false, BEq.rfl, if_true,
      value, ih, Position.afterAll_cons, Position.afterAll_nil]

end TemplateFacts.Json
