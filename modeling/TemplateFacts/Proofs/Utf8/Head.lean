import Mathlib.Tactic.ByContra
import TemplateFacts.Proofs.Utf8

/-!
What is read of bytes at once: a character, a byte alone, or what begins a character and is broken or
cut off. Bytes that are read without a fault are those of a text.
-/

namespace TemplateFacts.Utf8

/-- The number of bytes that are read at once. -/
def Head.width : Head → Nat
  | .scalar _ width => width
  | .broken width => width
  | .cut width => width

/-- The character that these bytes are read as. -/
def Head.mark : Head → Char
  | .scalar c _ => c
  | .broken _ => '\uFFFD'
  | .cut _ => '\uFFFD'

section Head

variable {first second third fourth : UInt8} {rest more : List UInt8}

/-- Without two bytes that lead a character, what is read at once is the first byte alone. -/
theorem head_of_unled (unled : ¬ Leads first second) (rest more : List UInt8) :
    head first (second :: rest) = head first (second :: more) ∧
      (head first (second :: rest)).width = 1 ∧
      (head first (second :: rest)).mark = (head first []).mark := by
  unfold head
  -- The second byte is looked at only if the first begins more than one, and then is out of range.
  split
  · exact ⟨rfl, rfl, rfl⟩
  · split
    · exact ⟨rfl, rfl, rfl⟩
    · rename_i isFirst
      simp only
      split
      · exact ⟨rfl, rfl, rfl⟩
      · rename_i inRange
        simp only [Bool.or_eq_true, decide_eq_true_eq, UInt8.lt_iff_toNat_lt, UInt8.reduceToNat,
          not_or, secondRange_least, secondRange_greatest] at isFirst inRange
        obtain ⟨least, greatest⟩ := inRange
        refine absurd ?_ unled
        split_ifs at least greatest <;> constructor <;> omega

/-- The last byte is read alone. -/
theorem width_head_nil (first : UInt8) : (head first []).width = 1 := by
  -- A single byte is a character of one byte or broken.
  unfold head
  split
  · rfl
  · split <;> rfl

/-- Two bytes that lead a character are read at once, and more behind them if they are there. -/
theorem width_of_leads (leads : Leads first second) (rest : List UInt8) :
    2 ≤ (head first (second :: rest)).width ∧
      (head first (second :: rest)).width ≤ rest.length + 2 := by
  rw [head_of_leads leads]
  -- By how many bytes the first one asks for, and how many of them are there.
  split
  · simp [Head.width]
  · split
    · simp [Head.width]
    · split
      · simp [Head.width]
      · split
        · simp [Head.width]
        · split
          · simp [Head.width]
          · split <;> simp [Head.width]

/-- Something is read, and no more than there is. -/
theorem width_head (first : UInt8) (rest : List UInt8) :
    1 ≤ (head first rest).width ∧ (head first rest).width ≤ rest.length + 1 := by
  -- A second byte that does not fit is not taken; else the width is within the bytes that are there.
  cases rest with
  | nil => exact ⟨Nat.le_of_eq (width_head_nil first).symm, Nat.le_of_eq (width_head_nil first)⟩
  | cons second rest =>
    by_cases leads : Leads first second
    · obtain ⟨least, greatest⟩ := width_of_leads leads rest
      exact ⟨Nat.le_of_succ_le least, greatest⟩
    · rw [(head_of_unled leads rest rest).2.1, List.length_cons]
      omega

/-- What follows the bytes that are read at once does not count, and of bytes that are read at once
only together a part is cut off. -/
theorem head_append (first : UInt8) (rest more : List UInt8) :
    ((head first (rest ++ more)).width ≤ rest.length + 1 ∧
      (head first rest).width = (head first (rest ++ more)).width ∧
      (head first rest).mark = (head first (rest ++ more)).mark) ∨
    (rest.length + 1 < (head first (rest ++ more)).width ∧
      head first rest = .cut (rest.length + 1)) := by
  cases rest with
  | nil =>
    -- Nothing follows either way.
    cases more with
    | nil => exact .inl ⟨Nat.le_of_eq (width_head_nil first), rfl, rfl⟩
    | cons second more =>
      by_cases leads : Leads first second
      · refine .inr ⟨(width_of_leads leads more).1, ?_⟩
        obtain ⟨least, greatest, -, -, -⟩ := leads
        have notOne : ¬ first.toNat < 128 := by omega
        have notBelow : ¬ first.toNat < 194 := by omega
        have notAbove : ¬ 244 < first.toNat := by omega
        simp only [head, UInt8.lt_iff_toNat_lt, UInt8.reduceToNat, Bool.or_eq_true,
          decide_eq_true_eq, notOne, notBelow, notAbove, or_self, if_false]
        rfl
      · -- What does not lead on stands alone, whatever follows.
        obtain ⟨-, one, mark⟩ := head_of_unled leads more more
        exact .inl ⟨Nat.le_of_eq one, (width_head_nil first).trans one.symm, mark.symm⟩
  | cons second rest =>
    by_cases leads : Leads first second
    · rw [List.cons_append, head_of_leads leads, head_of_leads leads]
      -- The bytes behind these two are looked at one after another, until nothing is missed.
      by_cases two : first.toNat < 224
      · simp [two, Head.width]
      · cases rest with
        | nil =>
          cases more with
          | nil => simp [two, Head.width]
          | cons third more =>
            -- A byte that does not continue the character ends what is looked at.
            cases continues : isContinuation third with
            | false => simp [two, continues, Head.width, Head.mark]
            | true =>
              by_cases three : first.toNat < 240
              · simp [two, continues, three, Head.width]
              · cases more with
                | nil => simp [two, continues, three, Head.width]
                | cons fourth more =>
                  cases continues' : isContinuation fourth <;>
                    simp [two, continues, three, continues', Head.width]
        | cons third rest =>
          cases continues : isContinuation third with
          | false => simp [two, continues, Head.width]
          | true =>
            by_cases three : first.toNat < 240
            · simp [two, continues, three, Head.width]
            · cases rest with
              | nil =>
                cases more with
                | nil => simp [two, continues, three, Head.width]
                | cons fourth more =>
                  cases continues' : isContinuation fourth <;>
                    simp [two, continues, three, continues', Head.width, Head.mark]
              | cons fourth rest =>
                cases continues' : isContinuation fourth <;>
                  simp [two, continues, three, continues', Head.width]
    · -- A byte that does not lead on is a fault of its own.
      obtain ⟨same, one, -⟩ := head_of_unled leads rest (rest ++ more)
      rw [List.cons_append, ← same]
      exact .inl ⟨by rw [one, List.length_cons]; omega, rfl, rfl⟩

/-- Two bytes that are read at once lead a character. -/
theorem leads_of_wide (wide : 1 < (head first rest).width) :
    ∃ second behind, rest = second :: behind ∧ Leads first second := by
  -- Without a second byte that fits the width is one.
  cases rest with
  | nil =>
    rw [width_head_nil] at wide
    cases Nat.lt_irrefl 1 wide
  | cons second rest =>
    refine ⟨second, rest, rfl, ?_⟩
    by_contra unled
    rw [(head_of_unled unled rest rest).2.1] at wide
    exact Nat.lt_irrefl 1 wide

end Head

section Character

variable {first second third fourth : UInt8} {rest : List UInt8}

/-- The code point of a character is the number that it was made from. -/
theorem toNat_ofNat {n : Nat} (valid : n.isValidChar) : (Char.ofNat n).val.toNat = n := by
  rw [Char.ofNat, dif_pos valid]
  exact UInt32.toNat_ofNatLT

/-- A byte is made from its number. -/
theorem ofNat_eq {n : Nat} {b : UInt8} (same : n = b.toNat) : UInt8.ofNat n = b := by
  rw [same, UInt8.ofNat_toNat]

/-- Two bytes below those that lead longer characters are a character. -/
theorem encode_two (leads : Leads first second) (short : first.toNat < 224) :
    String.utf8EncodeChar (Char.ofNat (first.toNat % 32 * 64 + second.toNat % 64)) =
      [first, second] := by
  -- The code is put together of five and six bits and taken apart again.
  obtain ⟨least, greatest, continues, notOverlong, isScalar⟩ := leads
  have code := toNat_ofNat (n := first.toNat % 32 * 64 + second.toNat % 64) (.inl (by omega))
  simp only [String.utf8EncodeChar, code]
  rw [if_neg (by omega), if_pos (by omega), ofNat_eq (b := first) (by omega),
    ofNat_eq (b := second) (by omega)]

/-- A third byte completes a longer character. -/
theorem encode_three (leads : Leads first second) (long : 224 ≤ first.toNat)
    (short : first.toNat < 240) (continues : isContinuation third = true) :
    String.utf8EncodeChar (Char.ofNat ((first.toNat % 16 * 64 + second.toNat % 64) * 64
      + third.toNat % 64)) = [first, second, third] := by
  -- The code is put together of four, six and six bits and taken apart again.
  obtain ⟨least, greatest, continues', notOverlong, isScalar⟩ := leads
  rw [isContinuation_iff] at continues
  have code := toNat_ofNat (n := (first.toNat % 16 * 64 + second.toNat % 64) * 64
    + third.toNat % 64) (by unfold Nat.isValidChar; omega)
  simp only [String.utf8EncodeChar, code]
  rw [if_neg (by omega), if_neg (by omega), if_pos (by omega), ofNat_eq (b := first) (by omega),
    ofNat_eq (b := second) (by omega), ofNat_eq (b := third) (by omega)]

/-- A third and a fourth byte complete the longest characters. -/
theorem encode_four (leads : Leads first second) (long : 240 ≤ first.toNat)
    (continues : isContinuation third = true) (continues' : isContinuation fourth = true) :
    String.utf8EncodeChar (Char.ofNat (((first.toNat % 8 * 64 + second.toNat % 64) * 64
      + third.toNat % 64) * 64 + fourth.toNat % 64)) = [first, second, third, fourth] := by
  -- The code is put together of three and three times six bits and taken apart again.
  obtain ⟨least, greatest, continues'', notOverlong, isScalar⟩ := leads
  rw [isContinuation_iff] at continues continues'
  have code := toNat_ofNat (n := ((first.toNat % 8 * 64 + second.toNat % 64) * 64
    + third.toNat % 64) * 64 + fourth.toNat % 64) (by unfold Nat.isValidChar; omega)
  simp only [String.utf8EncodeChar, code]
  rw [if_neg (by omega), if_neg (by omega), if_neg (by omega), ofNat_eq (b := first) (by omega),
    ofNat_eq (b := second) (by omega), ofNat_eq (b := third) (by omega),
    ofNat_eq (b := fourth) (by omega)]

/-- Bytes that are read at once are a single one, or they begin a character. -/
theorem begins_of_wide (wide : 1 < (head first rest).width) :
    ∃ c, (first :: rest).take (head first rest).width <+: String.utf8EncodeChar c := by
  obtain ⟨second, rest, rfl, leads⟩ := leads_of_wide wide
  -- Missing bytes are made up for by the least ones that continue a character.
  have least : isContinuation 128 = true := by decide
  rw [head_of_leads leads]
  by_cases two : first.toNat < 224
  · exact ⟨_, [], by rw [if_pos two, encode_two leads two]; rfl⟩
  rw [if_neg two]
  by_cases three : first.toNat < 240
  · have whole {third : UInt8} (continues : isContinuation third = true) :
        ∃ c, String.utf8EncodeChar c = [first, second, third] :=
      ⟨_, encode_three leads (Nat.not_lt.mp two) three continues⟩
    cases rest with
    | nil =>
      obtain ⟨c, encoded⟩ := whole least
      exact ⟨c, [128], encoded.symm⟩
    | cons third rest =>
      cases continues : isContinuation third with
      | false =>
        obtain ⟨c, encoded⟩ := whole least
        exact ⟨c, [128], by simp [encoded, continues, Head.width]⟩
      | true =>
        obtain ⟨c, encoded⟩ := whole continues
        exact ⟨c, [], by simp [encoded, continues, three, Head.width]⟩
  · have whole {third fourth : UInt8} (continues : isContinuation third = true)
        (continues' : isContinuation fourth = true) :
        ∃ c, String.utf8EncodeChar c = [first, second, third, fourth] :=
      ⟨_, encode_four leads (Nat.not_lt.mp three) continues continues'⟩
    -- The third and the fourth byte are those that are there, as long as they continue the character.
    cases rest with
    | nil =>
      obtain ⟨c, encoded⟩ := whole least least
      exact ⟨c, [128, 128], encoded.symm⟩
    | cons third rest =>
      cases continues : isContinuation third with
      | false =>
        obtain ⟨c, encoded⟩ := whole least least
        exact ⟨c, [128, 128], by simp [encoded, continues, Head.width]⟩
      | true =>
        cases rest with
        | nil =>
          obtain ⟨c, encoded⟩ := whole continues least
          exact ⟨c, [128], by simp [encoded, continues, three, Head.width]⟩
        | cons fourth rest =>
          cases continues' : isContinuation fourth with
          | false =>
            obtain ⟨c, encoded⟩ := whole continues least
            exact ⟨c, [128], by simp [encoded, continues, continues', three, Head.width]⟩
          | true =>
            obtain ⟨c, encoded⟩ := whole continues continues'
            exact ⟨c, [], by simp [encoded, continues, continues', three, Head.width]⟩

/-- A character is read of its own bytes. -/
theorem take_of_scalar {c : Char} {width : Nat} (read : head first rest = .scalar c width) :
    (first :: rest).take width = String.utf8EncodeChar c := by
  by_cases low : first.toNat < 128
  · rw [head_one rest low] at read
    cases read
    have code : (Char.ofNat first.toNat).toNat = first.toNat := toNat_ofNat (.inl (by omega))
    rw [utf8EncodeChar_ascii (by rw [code]; exact low), code, UInt8.ofNat_toNat]
    rfl
  · have wide : 1 < (head first rest).width := by
      -- The other characters are read of two bytes at least.
      have notOne : ¬ first < 0x80 := fun below => low (UInt8.lt_iff_toNat_lt.mp below)
      rw [read, Head.width]
      simp only [head, notOne, if_false] at read
      repeat' split at read
      all_goals cases read <;> decide
    -- Which of the three widths it is says how many bytes continue it.
    obtain ⟨second, rest, rfl, leads⟩ := leads_of_wide wide
    rw [head_of_leads leads] at read
    split at read
    · rename_i two
      cases read
      exact (encode_two leads two).symm
    · rename_i two
      split at read
      · cases read
      · split at read
        · cases read
        · rename_i continues
          rw [Bool.not_eq_true, Bool.not_eq_false'] at continues
          split at read
          · rename_i three
            cases read
            exact (encode_three leads (Nat.not_lt.mp two) three continues).symm
          · rename_i three
            split at read
            · cases read
            · split at read
              · cases read
              · rename_i continues'
                rw [Bool.not_eq_true, Bool.not_eq_false'] at continues'
                cases read
                exact (encode_four leads (Nat.not_lt.mp three) continues continues').symm

/-- Behind its first byte a character has bytes that continue it. -/
theorem isContinuation_of_mem_tail {c : Char} {b : UInt8}
    (member : b ∈ (String.utf8EncodeChar c).tail) : isContinuation b = true := by
  have number (n : Nat) : isContinuation (UInt8.ofNat (n % 64 + 128)) = true := by
    rw [isContinuation_iff, UInt8.toNat_ofNat_of_lt' (show n % 64 + 128 < 256 by omega)]
    omega
  -- By the number of bytes of the character: each behind the first has six bits and the mark.
  unfold String.utf8EncodeChar at member
  simp only at member
  split at member
  · cases member
  · split at member
    · rcases List.mem_singleton.mp member with rfl
      exact number _
    · split at member <;> simp only [List.tail_cons, List.mem_cons, List.not_mem_nil, or_false] at member
      · rcases member with rfl | rfl <;> exact number _
      · rcases member with rfl | rfl | rfl <;> exact number _

/-- A byte that continues a character does not begin one. -/
theorem head_of_continuation (continues : isContinuation first = true) (rest : List UInt8) :
    head first rest = .broken 1 := by
  -- The byte is neither ASCII nor a first byte.
  rw [isContinuation_iff] at continues
  have notOne : ¬ first.toNat < 128 := by omega
  have below : first.toNat < 194 := by omega
  simp only [head, UInt8.lt_iff_toNat_lt, UInt8.reduceToNat, Bool.or_eq_true, decide_eq_true_eq,
    notOne, below, true_or, if_true, if_false]

end Character


section Decode

/-- What is skipped is left out. -/
theorem lossyChars_eq_drop (skip : Nat) (bytes : List UInt8) :
    lossyChars skip bytes = lossyChars 0 (bytes.drop skip) := by
  -- Skipping is dropping; the induction is on the bytes.
  induction bytes generalizing skip with
  | nil => cases skip <;> rfl
  | cons b bytes ih =>
    cases skip with
    | zero => rfl
    | succ skip => exact ih skip

/-- Bytes are read as one character, and then those behind them. -/
theorem lossyChars_cons (first : UInt8) (rest : List UInt8) :
    lossyChars 0 (first :: rest) =
      (head first rest).mark :: lossyChars 0 ((first :: rest).drop (head first rest).width) := by
  -- The mark of the head, and then what is behind its width.
  obtain ⟨width, some⟩ : ∃ width, (head first rest).width = width + 1 :=
    Nat.exists_eq_add_one_of_ne_zero (Nat.ne_of_gt (width_head first rest).1)
  rw [some, List.drop_succ_cons, ← lossyChars_eq_drop]
  rw [lossyChars]
  split <;> rename_i same <;> rw [same] at some ⊢ <;>
    simp only [Head.width] at some <;> rw [some, Nat.add_sub_cancel] <;> rfl

/-- The place of a fault does not depend on what was skipped before it. -/
theorem firstFault_eq_drop (skip offset : Nat) (bytes : List UInt8) :
    firstFault skip offset bytes = firstFault 0 (offset + skip) (bytes.drop skip) := by
  -- Skipping is dropping, with the offset moved on; the induction is on the bytes.
  induction bytes generalizing skip offset with
  | nil => cases skip <;> rfl
  | cons b bytes ih =>
    cases skip with
    | zero => rfl
    | succ skip => rw [firstFault, ih, List.drop_succ_cons, Nat.add_right_comm, Nat.add_assoc]

/-- Bytes without a fault are those of the characters that they are read as. -/
theorem encoded_of_firstFault {bytes : List UInt8} {offset : Nat}
    (faultless : firstFault 0 offset bytes = none) :
    bytes = (lossyChars 0 bytes).flatMap String.utf8EncodeChar := by
  -- By induction on the bytes, of which those of one character are taken away.
  induction size : bytes.length using Nat.strongRecOn generalizing bytes offset with
  | ind count ih =>
    cases bytes with
    | nil => rfl
    | cons first rest =>
      rw [firstFault] at faultless
      -- Only a whole character leaves no fault.
      split at faultless
      · rename_i c width read
        obtain ⟨least, -⟩ := width_head first rest
        rw [read, Head.width] at least
        rw [firstFault_eq_drop] at faultless
        have shorter : (rest.drop (width - 1)).length < count := by
          rw [List.length_drop, ← size, List.length_cons]
          omega
        have behind := ih _ shorter faultless rfl
        have split : rest.drop (width - 1) = (first :: rest).drop width := by
          obtain ⟨less, rfl⟩ := Nat.exists_eq_add_one_of_ne_zero (Nat.ne_of_gt least)
          rfl
        rw [lossyChars_cons, read, Head.mark, Head.width, List.flatMap_cons, ← take_of_scalar read,
          ← split, ← behind, split, List.take_append_drop]
      · cases faultless
      · cases faultless

/-- Bytes are read as a text exactly when they are its bytes. -/
theorem decode_eq_ok {bytes : List UInt8} {s : String} : decode bytes = .ok s ↔ bytes = encode s := by
  -- Without a fault the bytes are the encoding of the characters that were read off them.
  constructor
  · intro read
    unfold decode at read
    split at read
    · rename_i faultless
      cases read
      rw [encode, decodeLossy, String.toList_ofList]
      exact encoded_of_firstFault faultless
    · cases read
  · rintro rfl
    exact decode_encode s

end Decode

end TemplateFacts.Utf8
