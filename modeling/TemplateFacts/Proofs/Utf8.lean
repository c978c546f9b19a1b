import Mathlib.Tactic.SplitIfs
import TemplateFacts.Utf8

/-!
Reading undoes writing: the bytes of a text are text, and say that text. The first byte of a
character fixes how many follow, and each of these carries six bits of it.
-/

namespace TemplateFacts.Utf8

section Head

variable {first second third fourth : UInt8}

/-- The least byte that may stand second, as a number. -/
theorem secondRange_least (first : UInt8) :
    (secondRange first).1.toNat =
      if first.toNat = 224 then 160 else if first.toNat = 240 then 144 else 128 := by
  -- Only after two of the first bytes the range begins later.
  have same (b : UInt8) : (first == b) = decide (first.toNat = b.toNat) := by
    rw [Bool.eq_iff_iff, beq_iff_eq, decide_eq_true_eq, UInt8.toNat_inj]
  simp only [secondRange, same, decide_eq_true_eq, UInt8.reduceToNat]
  split_ifs <;> first | rfl | omega

/-- The greatest byte that may stand second, as a number. -/
theorem secondRange_greatest (first : UInt8) :
    (secondRange first).2.toNat =
      if first.toNat = 237 then 159 else if first.toNat = 244 then 143 else 191 := by
  -- Two first bytes narrow the range from above: those of the surrogates and of the last plane.
  have same (b : UInt8) : (first == b) = decide (first.toNat = b.toNat) := by
    rw [Bool.eq_iff_iff, beq_iff_eq, decide_eq_true_eq, UInt8.toNat_inj]
  simp only [secondRange, same, decide_eq_true_eq, UInt8.reduceToNat]
  split_ifs <;> first | rfl | omega

/-- A byte below the first continuation is a character by itself. -/
theorem head_one (rest : List UInt8) (low : first.toNat < 128) :
    head first rest = .scalar (Char.ofNat first.toNat) 1 := by
  have below : first < 0x80 := UInt8.lt_iff_toNat_lt.mpr low
  simp only [head, below, if_true]

/-- Which bytes continue a character, as numbers. -/
theorem isContinuation_iff (b : UInt8) :
    isContinuation b = true ↔ 128 ≤ b.toNat ∧ b.toNat ≤ 191 := by
  simp only [isContinuation, Bool.and_eq_true, decide_eq_true_eq, UInt8.le_iff_toNat_le,
    UInt8.reduceToNat]

/-- The first byte of a longer character, and a second byte in its range. -/
structure Leads (first second : UInt8) : Prop where
  least : 194 ≤ first.toNat
  greatest : first.toNat ≤ 244
  continues : 128 ≤ second.toNat ∧ second.toNat ≤ 191
  notOverlong : (first.toNat = 224 → 160 ≤ second.toNat) ∧ (first.toNat = 240 → 144 ≤ second.toNat)
  isScalar : (first.toNat = 237 → second.toNat ≤ 159) ∧ (first.toNat = 244 → second.toNat ≤ 143)

/-- What the first two bytes of a longer character leave to be decided. -/
theorem head_of_leads (leads : Leads first second) (rest : List UInt8) :
    head first (second :: rest) =
      if first.toNat < 224 then
        .scalar (Char.ofNat (first.toNat % 32 * 64 + second.toNat % 64)) 2
      else match rest with
        | [] => .cut 2
        | third :: rest =>
          if !isContinuation third then .broken 2
          else if first.toNat < 240 then
            .scalar (Char.ofNat ((first.toNat % 16 * 64 + second.toNat % 64) * 64
              + third.toNat % 64)) 3
          else match rest with
            | [] => .cut 3
            | fourth :: _ =>
              if !isContinuation fourth then .broken 3
              else .scalar (Char.ofNat (((first.toNat % 8 * 64 + second.toNat % 64) * 64
                + third.toNat % 64) * 64 + fourth.toNat % 64)) 4 := by
  -- The other branches are those of bytes outside the ranges.
  obtain ⟨least, greatest, continues, notOverlong, isScalar⟩ := leads
  have notOne : ¬ first.toNat < 128 := by omega
  have notBelow : ¬ first.toNat < 194 := by omega
  have notAbove : ¬ 244 < first.toNat := by omega
  -- The second byte is in the range that belongs to the first.
  have inRange : ¬ second.toNat < (secondRange first).1.toNat := by
    rw [secondRange_least]; split_ifs <;> omega
  have inRange' : ¬ (secondRange first).2.toNat < second.toNat := by
    rw [secondRange_greatest]; split_ifs <;> omega
  -- What is left is decided by the bytes that follow, as far as there are any.
  rcases rest with _ | ⟨third, _ | ⟨fourth, rest⟩⟩ <;>
    simp only [head, low6, UInt8.lt_iff_toNat_lt, UInt8.reduceToNat, Bool.or_eq_true,
      decide_eq_true_eq, notOne, notBelow, notAbove, inRange, inRange', or_self, if_false]

end Head

/-- The first character of a text is read from its bytes, whatever follows them. -/
theorem head_utf8EncodeChar (c : Char) (rest : List UInt8) :
    ∃ first more, String.utf8EncodeChar c = first :: more ∧
      head first (more ++ rest) = .scalar c (more.length + 1) := by
  -- By the number of bytes, each of which is a quotient of the code point.
  have valid := c.valid
  simp only [UInt32.isValidChar, Nat.isValidChar] at valid
  have number (n : Nat) (small : n < 256) : (UInt8.ofNat n).toNat = n :=
    UInt8.toNat_ofNat_of_lt' small
  have code : Char.ofNat c.val.toNat = c := Char.ofNat_toNat c
  unfold String.utf8EncodeChar
  simp only
  generalize codePoint : c.val.toNat = n at valid code
  split
  · -- One byte.
    refine ⟨_, _, rfl, ?_⟩
    have first := number n (by omega)
    rw [head_one _ (by omega), first, code]
    rfl
  · split
    · -- Two bytes.
      refine ⟨_, _, rfl, ?_⟩
      have first := number (n / 64 % 32 + 192) (by omega)
      have second := number (n % 64 + 128) (by omega)
      have leads : Leads (UInt8.ofNat (n / 64 % 32 + 192)) (UInt8.ofNat (n % 64 + 128)) := by
        constructor <;> omega
      rw [List.cons_append, head_of_leads leads, if_pos (by omega), first, second]
      have whole : (n / 64 % 32 + 192) % 32 * 64 + (n % 64 + 128) % 64 = n := by omega
      rw [whole, code]
      rfl
    · split
      · -- Three bytes.
        refine ⟨_, _, rfl, ?_⟩
        have first := number (n / 4096 % 16 + 224) (by omega)
        have second := number (n / 64 % 64 + 128) (by omega)
        have third := number (n % 64 + 128) (by omega)
        have leads : Leads (UInt8.ofNat (n / 4096 % 16 + 224))
            (UInt8.ofNat (n / 64 % 64 + 128)) := by
          constructor <;> omega
        have continues : isContinuation (UInt8.ofNat (n % 64 + 128)) = true := by
          rw [isContinuation_iff]; omega
        rw [List.cons_append, head_of_leads leads, if_neg (by omega)]
        simp only [List.cons_append, continues, Bool.not_true, Bool.false_eq_true, if_false]
        rw [if_pos (by omega), first, second, third]
        have whole : ((n / 4096 % 16 + 224) % 16 * 64 + (n / 64 % 64 + 128) % 64) * 64
            + (n % 64 + 128) % 64 = n := by omega
        rw [whole, code]
        rfl
      · -- Four bytes.
        refine ⟨_, _, rfl, ?_⟩
        have first := number (n / 262144 % 8 + 240) (by omega)
        have second := number (n / 4096 % 64 + 128) (by omega)
        have third := number (n / 64 % 64 + 128) (by omega)
        have fourth := number (n % 64 + 128) (by omega)
        have leads : Leads (UInt8.ofNat (n / 262144 % 8 + 240))
            (UInt8.ofNat (n / 4096 % 64 + 128)) := by
          constructor <;> omega
        have continues : isContinuation (UInt8.ofNat (n / 64 % 64 + 128)) = true := by
          rw [isContinuation_iff]; omega
        have continues' : isContinuation (UInt8.ofNat (n % 64 + 128)) = true := by
          rw [isContinuation_iff]; omega
        rw [List.cons_append, head_of_leads leads, if_neg (by omega)]
        simp only [List.cons_append, continues, continues', Bool.not_true, Bool.false_eq_true,
          if_false]
        rw [if_neg (by omega), first, second, third, fourth]
        have whole : (((n / 262144 % 8 + 240) % 8 * 64 + (n / 4096 % 64 + 128) % 64) * 64
            + (n / 64 % 64 + 128) % 64) * 64 + (n % 64 + 128) % 64 = n := by omega
        rw [whole, code]
        rfl

/-- The bytes that belong to the character read last are passed over. -/
theorem lossyChars_skip (skipped rest : List UInt8) :
    lossyChars skipped.length (skipped ++ rest) = lossyChars 0 rest := by
  -- A byte that belongs to a character already read gives none of its own.
  induction skipped with
  | nil => rfl
  | cons b skipped ih => exact ih

/-- The bytes that belong to the character read last hold no fault. -/
theorem firstFault_skip (skipped rest : List UInt8) (offset : Nat) :
    firstFault skipped.length offset (skipped ++ rest) =
      firstFault 0 (offset + skipped.length) rest := by
  -- A byte that belongs to a character already read only moves the offset.
  induction skipped generalizing offset with
  | nil => rfl
  | cons b skipped ih =>
    simp only [List.length_cons, List.cons_append, firstFault]
    rw [ih, Nat.add_right_comm, Nat.add_assoc]

/-- The characters of encoded characters are these characters. -/
theorem lossyChars_encoded (cs : List Char) (rest : List UInt8) :
    lossyChars 0 (cs.flatMap String.utf8EncodeChar ++ rest) = cs ++ lossyChars 0 rest := by
  -- Each character is read off its own bytes, and the others of them are skipped.
  induction cs with
  | nil => rfl
  | cons c cs ih =>
    obtain ⟨first, more, encoded, read⟩ := head_utf8EncodeChar c
      (cs.flatMap String.utf8EncodeChar ++ rest)
    simp only [List.flatMap_cons, encoded, List.cons_append, List.append_assoc, lossyChars, read]
    rw [Nat.add_sub_cancel, lossyChars_skip, ih]

/-- Encoded characters hold no fault. -/
theorem firstFault_encoded (cs : List Char) (rest : List UInt8) (offset : Nat) :
    firstFault 0 offset (cs.flatMap String.utf8EncodeChar ++ rest) =
      firstFault 0 (offset + (cs.flatMap String.utf8EncodeChar).length) rest := by
  -- Each character is read off its own bytes, so the first fault is in the rest.
  induction cs generalizing offset with
  | nil => rfl
  | cons c cs ih =>
    obtain ⟨first, more, encoded, read⟩ := head_utf8EncodeChar c
      (cs.flatMap String.utf8EncodeChar ++ rest)
    simp only [List.flatMap_cons, encoded, List.cons_append, List.append_assoc, firstFault, read,
      List.length_cons, List.length_append]
    rw [Nat.add_sub_cancel, firstFault_skip, ih]
    congr 1
    omega

/-- Nothing is lost of the bytes of a text. -/
theorem decodeLossy_encode (s : String) : decodeLossy (encode s) = s := by
  -- With nothing behind them the characters are the text's own.
  have characters := lossyChars_encoded s.toList []
  rw [List.append_nil, lossyChars, List.append_nil] at characters
  rw [decodeLossy, encode, characters, String.ofList_toList]

/-- The bytes of a text say this text. -/
theorem decode_encode (s : String) : decode (encode s) = .ok s := by
  -- Without a fault the strict reading is the one that replaces faults.
  have faultless := firstFault_encoded s.toList [] 0
  rw [List.append_nil] at faultless
  simp only [decode, encode, faultless, firstFault]
  rw [← encode, decodeLossy_encode]

/-- The bytes of a text and of what follows it stand side by side. -/
@[simp] theorem encode_append (s t : String) : encode (s ++ t) = encode s ++ encode t := by
  simp [encode]

/-- The bytes of a text are those that it is kept as. -/
theorem encode_eq (s : String) : encode s = s.toByteArray.data.toList := by
  -- A text is made of its characters, and is kept as their bytes.
  have whole : s.toByteArray = (String.ofList s.toList).toByteArray := by rw [String.ofList_toList]
  rw [whole, String.toByteArray_ofList, List.utf8Encode, List.data_toByteArray]
  rfl

/-- Texts with the same bytes are the same. -/
theorem encode_injective {s t : String} (same : encode s = encode t) : s = t := by
  -- Decoding gives either text back.
  have decoded := congrArg decode same
  rw [decode_encode, decode_encode] at decoded
  exact Except.ok.inj decoded

/-- A character of the first half of a byte is written as that byte. -/
theorem utf8EncodeChar_ascii {c : Char} (ascii : c.toNat < 128) :
    String.utf8EncodeChar c = [UInt8.ofNat c.toNat] := by
  -- Below 128 the encoding is the code itself.
  have small : c.val.toNat ≤ 127 := Nat.le_of_lt_succ ascii
  simp only [String.utf8EncodeChar, small, if_true]
  rfl

/-- Only a character of the first half of a byte is written with such a byte. -/
theorem toNat_of_mem_utf8EncodeChar {c : Char} {b : UInt8} (member : b ∈ String.utf8EncodeChar c)
    (ascii : b.toNat < 128) : c.toNat = b.toNat := by
  by_cases small : c.toNat < 128
  · rw [utf8EncodeChar_ascii small, List.mem_singleton] at member
    rw [member, UInt8.toNat_ofNat_of_lt' (Nat.lt_trans small (by decide))]
  · -- All bytes of a longer character lie in the other half.
    exfalso
    have long : ¬ c.val.toNat ≤ 127 := fun short => small (Nat.lt_succ_of_le short)
    have number (n : Nat) (inside : n < 256) (upper : 128 ≤ n) : ¬ (UInt8.ofNat n).toNat < 128 := by
      rw [UInt8.toNat_ofNat_of_lt' inside]
      omega
    simp only [String.utf8EncodeChar, long, if_false] at member
    split at member
    · simp only [List.mem_cons, List.not_mem_nil, or_false] at member
      rcases member with rfl | rfl <;> exact number _ (by omega) (by omega) ascii
    · split at member
      · simp only [List.mem_cons, List.not_mem_nil, or_false] at member
        rcases member with rfl | rfl | rfl <;> exact number _ (by omega) (by omega) ascii
      · simp only [List.mem_cons, List.not_mem_nil, or_false] at member
        rcases member with rfl | rfl | rfl | rfl <;> exact number _ (by omega) (by omega) ascii

/-- Only a text with a character of the first half of a byte has that byte. -/
theorem mem_encode_ascii {s : String} {b : UInt8} (member : b ∈ encode s) (ascii : b.toNat < 128) :
    ∃ c ∈ s.toList, c.toNat = b.toNat := by
  -- The byte is one of a character, and a character of several bytes has none below 128.
  obtain ⟨c, inside, written⟩ := List.mem_flatMap.mp member
  exact ⟨c, inside, toNat_of_mem_utf8EncodeChar written ascii⟩

/-- A text of such characters has one byte for each. -/
theorem encode_ascii {cs : List Char} (ascii : ∀ c ∈ cs, c.toNat < 128) :
    encode (String.ofList cs) = cs.map fun c => UInt8.ofNat c.toNat := by
  -- Each character is one byte.
  rw [encode, String.toList_ofList]
  induction cs with
  | nil => rfl
  | cons c cs ih =>
    rw [List.flatMap_cons, List.map_cons, utf8EncodeChar_ascii (ascii c List.mem_cons_self),
      ih fun d member => ascii d (List.mem_cons_of_mem c member), List.singleton_append]

/-- The bytes of a lesser character are less, whatever follows them. -/
theorem utf8EncodeChar_lt {c d : Char} (less : c < d) (rest rest' : List UInt8) :
    String.utf8EncodeChar c ++ rest < String.utf8EncodeChar d ++ rest' := by
  -- More bytes have a greater first byte, and as many bytes are quotients of the two code points.
  have code : c.val.toNat < d.val.toNat := less
  have valid := c.valid
  have valid' := d.valid
  simp only [UInt32.isValidChar, Nat.isValidChar] at valid valid'
  have lt_iff {m n : Nat} (small : m < 256) (small' : n < 256) :
      UInt8.ofNat m < UInt8.ofNat n ↔ m < n := by
    rw [UInt8.lt_iff_toNat_lt, UInt8.toNat_ofNat_of_lt' small, UInt8.toNat_ofNat_of_lt' small']
  have eq_iff {m n : Nat} (small : m < 256) (small' : n < 256) :
      UInt8.ofNat m = UInt8.ofNat n ↔ m = n := by
    rw [← UInt8.toNat_inj, UInt8.toNat_ofNat_of_lt' small, UInt8.toNat_ofNat_of_lt' small']
  have twice (k : Nat) : k / 4096 = k / 64 / 64 := by rw [Nat.div_div_eq_div_mul]
  have thrice (k : Nat) : k / 262144 = k / 64 / 64 / 64 := by
    rw [Nat.div_div_eq_div_mul, Nat.div_div_eq_div_mul]
  unfold String.utf8EncodeChar
  simp only [twice, thrice]
  generalize c.val.toNat = m at code valid
  generalize d.val.toNat = n at code valid'
  split_ifs <;>
    simp (disch := omega) only [List.cons_append, List.nil_append, List.cons_lt_cons_iff, lt_iff,
      eq_iff] <;>
    omega

/-- Texts are in the order of their bytes. -/
theorem encode_lt {s t : String} (less : s < t) : encode s < encode t := by
  -- The first characters that differ are those whose bytes differ first.
  have chars : s.toList < t.toList := String.lt_iff.mp less
  unfold encode
  generalize s.toList = cs at chars ⊢
  generalize t.toList = ds at chars ⊢
  induction chars with
  | @nil d ds =>
    obtain ⟨first, more, same, _⟩ := head_utf8EncodeChar d []
    rw [List.flatMap_cons, same]
    exact List.nil_lt_cons first _
  | rel less => exact utf8EncodeChar_lt less _ _
  | cons _ ih => exact List.append_left_lt ih

end TemplateFacts.Utf8
