import TemplateFacts.Text.Digits

/-! Decimal digits are read back as the number that they were written for. -/

namespace TemplateFacts.Text

/-- A written number has digits only. -/
theorem isDigit_of_mem_toDigits {n : Nat} {c : Char} (member : c ∈ Nat.toDigits 10 n) :
    isDigit c = true := by
  -- Both tests are about the same range of codes.
  have digit : c.isDigit = true :=
    Nat.isDigit_of_mem_toDigits (by decide) (by decide) member
  rw [Char.isDigit_iff_toNat] at digit
  simp only [isDigit, Bool.and_eq_true, decide_eq_true_eq]
  exact ⟨digit.1, digit.2⟩

/-- The digits of a number write this number. -/
theorem digitsValue_toDigits (n : Nat) : digitsValue (Nat.toDigits 10 n) = n := by
  -- The core library moves the digits up by multiplying from the left.
  have written : Nat.ofDigitChars 10 (Nat.toDigits 10 n) 0 = n := Nat.ofDigitChars_ten_toDigits
  rw [Nat.ofDigitChars_eq_foldl] at written
  simp only [digitsValue, Nat.mul_comm _ 10]
  exact written

/-- A written number is read. -/
theorem readNat?_toDigits (n : Nat) : readNat? (Nat.toDigits 10 n) = some n := by
  -- The digits are there and are digits, so their value is read.
  have nonempty : (Nat.toDigits 10 n).isEmpty = false :=
    List.isEmpty_eq_false_iff.mpr Nat.toDigits_ne_nil
  have digits : (Nat.toDigits 10 n).all isDigit = true := by
    rw [List.all_eq_true]
    exact fun c member => isDigit_of_mem_toDigits member
  simp only [readNat?, nonempty, digits, Bool.not_true, Bool.or_self, Bool.false_eq_true, if_false,
    digitsValue_toDigits]

/-- A written number is read where a plus sign might precede it. -/
theorem readSignedNat?_toDigits (n : Nat) : readSignedNat? (Nat.toDigits 10 n) = some n := by
  -- The first digit is no sign.
  have read := readNat?_toDigits n
  unfold readSignedNat?
  split
  · rename_i rest signed
    have member : '+' ∈ Nat.toDigits 10 n := by rw [signed]; exact List.mem_cons_self
    exact absurd (isDigit_of_mem_toDigits member) (by decide)
  · exact read

/-- A text that is read as a number has nothing but digits behind its sign. -/
theorem isDigit_of_readNat? {cs : List Char} {n : Nat} (reads : readNat? cs = some n) :
    ∀ c ∈ cs, isDigit c = true := by
  -- What is read is all digits.
  unfold readNat? at reads
  split at reads
  · cases reads
  · rename_i digits
    rw [Bool.or_eq_true, not_or, Bool.not_eq_true, Bool.not_eq_true, Bool.not_eq_false'] at digits
    exact List.all_eq_true.mp digits.2

/-- Which texts are read as a number: those that have a digit, and digits only. -/
theorem readNat?_eq_some {cs : List Char} {n : Nat} :
    readNat? cs = some n ↔ cs ≠ [] ∧ (∀ c ∈ cs, isDigit c = true) ∧ digitsValue cs = n := by
  -- The two tests come first, and the value is the digits' own.
  rw [readNat?, ← List.all_eq_true, ne_eq, ← List.isEmpty_iff]
  cases cs.isEmpty <;> cases cs.all isDigit <;> simp

/-- A number may have a plus sign before its digits. -/
theorem readSignedNat?_eq_some {cs : List Char} {n : Nat} :
    readSignedNat? cs = some n ↔ ∃ sign digits, cs = sign ++ digits ∧ (sign = [] ∨ sign = ['+']) ∧
      digits ≠ [] ∧ (∀ c ∈ digits, isDigit c = true) ∧ digitsValue digits = n := by
  constructor
  · intro reads
    unfold readSignedNat? at reads
    split at reads
    · rename_i digits
      exact ⟨['+'], digits, rfl, .inr rfl, readNat?_eq_some.mp reads⟩
    · exact ⟨[], cs, rfl, .inl rfl, readNat?_eq_some.mp reads⟩
  · rintro ⟨sign, digits, rfl, rfl | rfl, number⟩
    · -- The first digit is no sign.
      unfold readSignedNat?
      split
      · rename_i rest signed
        rw [List.nil_append] at signed
        exact absurd (number.2.1 '+' (signed ▸ List.mem_cons_self)) (by decide)
      · exact readNat?_eq_some.mpr number
    · exact readNat?_eq_some.mpr number

/-- A text with a character that is neither sign nor digit is not read as a number. -/
theorem readSignedNat?_of_mem {cs : List Char} {c : Char} (member : c ∈ cs)
    (noDigit : isDigit c = false) (noSign : c ≠ '+') : readSignedNat? cs = none := by
  cases reads : readSignedNat? cs with
  | none => rfl
  | some n =>
    -- All that is read are digits, but for a sign in front.
    exfalso
    unfold readSignedNat? at reads
    split at reads
    · rename_i rest
      have inside : c ∈ rest := by
        rcases List.mem_cons.mp member with sign | inside
        · exact absurd sign noSign
        · exact inside
      rw [isDigit_of_readNat? reads c inside] at noDigit
      cases noDigit
    · rw [isDigit_of_readNat? reads c member] at noDigit
      cases noDigit

/-- More digits write no smaller number. -/
theorem digitsValue_le_append (cs ds : List Char) : digitsValue cs ≤ digitsValue (cs ++ ds) := by
  -- Whatever has been read so far only grows.
  have grows (n : Nat) : n ≤ ds.foldl (fun n c => n * 10 + (c.toNat - 48)) n := by
    induction ds generalizing n with
    | nil => exact Nat.le_refl n
    | cons d ds ih =>
      have step : n ≤ n * 10 + (d.toNat - 48) := by omega
      exact Nat.le_trans step (ih _)
  rw [digitsValue, digitsValue, List.foldl_append]
  exact grows _

/-- The first digits of a number write a number that is no greater. -/
theorem readSignedNat?_part {n : Nat} {digits : List Char} (begins : digits <+: Nat.toDigits 10 n)
    (nonempty : digits ≠ []) : ∃ m ≤ n, readSignedNat? digits = some m := by
  -- A front of the digits is digits again, and its value is no greater.
  have isDigit : ∀ c ∈ digits, isDigit c = true := fun c member =>
    isDigit_of_mem_toDigits (begins.subset member)
  obtain ⟨others, whole⟩ := begins
  refine ⟨digitsValue digits, ?_, ?_⟩
  · calc digitsValue digits ≤ digitsValue (digits ++ others) := digitsValue_le_append digits others
      _ = n := by rw [whole, digitsValue_toDigits]
  · unfold readSignedNat?
    split
    · exact absurd (isDigit '+' List.mem_cons_self) (by decide)
    · have some : digits.isEmpty = false := List.isEmpty_eq_false_iff.mpr nonempty
      have all : digits.all Text.isDigit = true := List.all_eq_true.mpr isDigit
      simp only [readNat?, some, all, Bool.not_true, Bool.or_self, Bool.false_eq_true, if_false]

end TemplateFacts.Text
