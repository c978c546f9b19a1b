import Mathlib.Data.Bool.AllAny
import Mathlib.Tactic.SplitIfs
import TemplateFacts.Json.Writer
import TemplateFacts.Proofs.Text.Decimal
import TemplateFacts.Proofs.Utf8

/-!
What is written on one line: a document has no control character outside its escapes, and so no line
feed, and an object ends with its brace.
-/

namespace TemplateFacts.Json

/-- A character that is no control character. -/
def IsPlain (c : Char) : Prop := 32 ≤ c.toNat

instance (c : Char) : Decidable (IsPlain c) := inferInstanceAs (Decidable (32 ≤ c.toNat))

section Plain

/-- A character of a text is plain when all its characters are seen to be. -/
theorem isPlain_of_all {c : Char} {cs : List Char} (member : c ∈ cs)
    (all : (cs.all fun d => decide (IsPlain d)) = true) : IsPlain c :=
  List.all_iff_forall_prop.mp all c member

/-- The digits of a number are plain. -/
theorem isPlain_toDigits {n : Nat} {c : Char} (member : c ∈ Nat.toDigits 10 n) : IsPlain c := by
  -- The digits are printable.
  have digit := Text.isDigit_of_mem_toDigits member
  simp only [Text.isDigit, Bool.and_eq_true, decide_eq_true_eq] at digit
  have least : 48 ≤ c.toNat := digit.1
  unfold IsPlain
  omega

/-- A character is escaped unless it is plain, and escapes are plain. -/
theorem isPlain_escapedChar {c d : Char} (member : d ∈ escapedChar c) : IsPlain d := by
  have digits : ∀ n < 16, IsPlain (Text.hexDigit n) := by decide
  unfold escapedChar at member
  split_ifs at member with quote backslash control
  · exact isPlain_of_all member (by decide)
  · exact isPlain_of_all member (by decide)
  · exact isPlain_of_all member (by decide)
  · exact isPlain_of_all member (by decide)
  · exact isPlain_of_all member (by decide)
  · exact isPlain_of_all member (by decide)
  · exact isPlain_of_all member (by decide)
  · -- Control characters without a letter are written as two digits.
    have small : c.toNat / 16 < 16 := by omega
    have smaller : c.toNat % 16 < 16 := by omega
    simp only [List.mem_cons, List.not_mem_nil, or_false] at member
    rcases member with rfl | rfl | rfl | rfl | rfl | rfl
    · decide
    · decide
    · decide
    · decide
    · exact digits _ small
    · exact digits _ smaller
  · rw [List.mem_singleton] at member
    subst member
    exact Nat.not_lt.mp control

/-- A written text is plain. -/
theorem isPlain_textChars {s : String} {c : Char} (member : c ∈ textChars s) : IsPlain c := by
  -- A text is its two quotes and the escapes between them.
  simp only [textChars, List.mem_cons, List.mem_append, List.mem_flatMap, List.not_mem_nil,
    or_false] at member
  rcases member with rfl | ⟨d, _, inside⟩ | rfl
  · decide
  · exact isPlain_escapedChar inside
  · decide

/-- A written integer is plain. -/
theorem isPlain_intChars {n : Int} {c : Char} (member : c ∈ intChars n) : IsPlain c := by
  -- A sign and digits.
  unfold intChars at member
  split at member
  · rcases List.mem_cons.mp member with rfl | digit
    · decide
    · exact isPlain_toDigits digit
  · exact isPlain_toDigits member

/-- Digits with a point among them have nothing but digits on both sides. -/
theorem mem_positional {digits : List Char} {point : Int} {c : Char}
    (member : c ∈ (Binary64.positional digits point).1 ∨
      c ∈ (Binary64.positional digits point).2) : c = '0' ∨ c ∈ digits := by
  -- The point stands in front of all digits, or behind some of them.
  unfold Binary64.positional at member
  split at member
  · simp only [List.mem_singleton, List.mem_append, List.mem_replicate] at member
    rcases member with zero | ⟨_, zero⟩ | inside
    · exact .inl zero
    · exact .inl zero
    · exact .inr inside
  · simp only [List.mem_append, List.mem_replicate] at member
    rcases member with (inside | ⟨_, zero⟩) | inside
    · exact .inr (List.mem_of_mem_take inside)
    · exact .inl zero
    · exact .inr (List.mem_of_mem_drop inside)

/-- A written float is plain. -/
theorem isPlain_documentText {x : Binary64} {c : Char} (member : c ∈ x.documentText.toList) :
    IsPlain c := by
  have sign (negative : Bool) (inside : c ∈ (Binary64.signText negative).toList) : IsPlain c :=
    isPlain_of_all inside (by cases negative <;> decide)
  -- Each way to write a number uses its own few characters besides the digits.
  unfold Binary64.documentText at member
  split at member
  · exact isPlain_of_all member (by decide)
  · exact isPlain_of_all member (by decide)
  · rename_i negative _
    rw [String.toList_append, List.mem_append] at member
    rcases member with inside | inside
    · exact sign negative inside
    · exact isPlain_of_all inside (by decide)
  · rename_i negative significand exponent _
    rw [String.toList_append, List.mem_append] at member
    rcases member with inside | inside
    · exact sign negative inside
    · simp only at inside
      generalize (Binary64.shortest significand exponent).digits = number at inside
      generalize ((Nat.toDigits 10 number).length + (Binary64.shortest significand exponent).power : Int)
        = point at inside
      have plain : ∀ d, d = '0' ∨ d ∈ Nat.toDigits 10 number → IsPlain d := by
        rintro d (rfl | digit)
        · decide
        · exact isPlain_toDigits digit
      split at inside
      · -- The digits stand around the point.
        rw [String.toList_ofList, List.mem_append, List.mem_cons] at inside
        rcases inside with whole | rfl | fraction
        · exact plain c (mem_positional (.inl whole))
        · decide
        · split at fraction
          · exact isPlain_of_all fraction (by decide)
          · exact plain c (mem_positional (.inr fraction))
      · simp only [String.toList_append, String.toList_ofList, List.mem_append] at inside
        -- One digit stands before the point, and the power behind the letter.
        rcases inside with (mantissa | exponential) | power
        · split at mantissa
          · rename_i first second rest digits
            simp only [List.mem_cons] at mantissa
            rcases mantissa with rfl | rfl | rfl | inside
            · exact isPlain_toDigits (by rw [digits]; simp)
            · decide
            · exact isPlain_toDigits (by rw [digits]; simp)
            · exact isPlain_toDigits (n := number) (by rw [digits]; simp [inside])
          · exact isPlain_toDigits mantissa
        · split at exponential
          · exact isPlain_of_all exponential (by decide)
          · exact isPlain_of_all exponential (by decide)
        · exact isPlain_toDigits (n := (point - 1).natAbs) (by simpa using power)

mutual
/-- A document on one line is plain. -/
theorem isPlain_compactChars {c : Char} : (j : Json) → c ∈ compactChars j → IsPlain c
  | .null, member => isPlain_of_all member (by decide)
  | .bool true, member => isPlain_of_all member (by decide)
  | .bool false, member => isPlain_of_all member (by decide)
  | .int _, member => isPlain_intChars member
  | .float _, member => isPlain_documentText member
  | .text _, member => isPlain_textChars member
  | .list [], member => isPlain_of_all member (by decide)
  | .list (x :: xs), member => by
    simp only [compactChars, List.mem_cons, List.mem_append] at member
    rcases member with rfl | first | later
    · decide
    · exact isPlain_compactChars x first
    · exact isPlain_compactItems xs later
  | .object [], member => isPlain_of_all member (by decide)
  | .object (m :: ms), member => by
    simp only [compactChars, List.mem_cons, List.mem_append] at member
    rcases member with rfl | first | later
    · decide
    · exact isPlain_compactMember m first
    · exact isPlain_compactMembers ms later

/-- The items behind the first one are plain. -/
theorem isPlain_compactItems {c : Char} : (xs : List Json) → c ∈ compactItems xs → IsPlain c
  | [], member => isPlain_of_all member (by decide)
  | x :: xs, member => by
    simp only [compactItems, List.mem_cons, List.mem_append] at member
    rcases member with rfl | first | later
    · decide
    · exact isPlain_compactChars x first
    · exact isPlain_compactItems xs later

/-- The members behind the first one are plain. -/
theorem isPlain_compactMembers {c : Char} :
    (ms : List (String × Json)) → c ∈ compactMembers ms → IsPlain c
  | [], member => isPlain_of_all member (by decide)
  | m :: ms, member => by
    simp only [compactMembers, List.mem_cons, List.mem_append] at member
    rcases member with rfl | first | later
    · decide
    · exact isPlain_compactMember m first
    · exact isPlain_compactMembers ms later

/-- A member is plain. -/
theorem isPlain_compactMember {c : Char} : (m : String × Json) → c ∈ compactMember m → IsPlain c
  | (_, x), member => by
    simp only [compactMember, List.mem_append, List.mem_cons] at member
    rcases member with inName | rfl | inValue
    · exact isPlain_textChars inName
    · decide
    · exact isPlain_compactChars x inValue
end

end Plain

/-- An object ends with its brace. -/
theorem compactMembers_ends (ms : List (String × Json)) :
    ∃ front, compactMembers ms = front ++ ['\x7d'] := by
  -- The last member written is followed by the closing brace.
  induction ms with
  | nil => exact ⟨[], rfl⟩
  | cons m ms ih =>
    obtain ⟨front, ends⟩ := ih
    exact ⟨',' :: (compactMember m ++ front), by simp [compactMembers, ends]⟩

/-- The bytes of an object on one line end with its brace. -/
theorem encode_compact_ends (members : List (String × Json)) :
    ∃ front, Utf8.encode (compact (.object members)) = front ++ [125] := by
  -- With or without members the last character is the brace.
  obtain ⟨front, ends⟩ : ∃ front, compactChars (.object members) = front ++ ['\x7d'] := by
    cases members with
    | nil => exact ⟨['\x7b'], rfl⟩
    | cons m ms =>
      obtain ⟨front, ends⟩ := compactMembers_ends ms
      exact ⟨'\x7b' :: (compactMember m ++ front), by simp [compactChars, ends]⟩
  refine ⟨Utf8.encode (String.ofList front), ?_⟩
  rw [compact, ends, String.ofList_append, Utf8.encode_append]
  rfl

/-- The bytes of a document on one line have no line feed. -/
theorem noFeed_encode_compact (j : Json) : 10 ∉ Utf8.encode (compact j) := by
  -- A line feed would come from a character below the space, and there is none.
  intro feed
  obtain ⟨c, member, code⟩ := Utf8.mem_encode_ascii feed (by decide)
  rw [compact, String.toList_ofList] at member
  have plain : 32 ≤ c.toNat := isPlain_compactChars j member
  rw [code] at plain
  exact absurd plain (by decide)

end TemplateFacts.Json
