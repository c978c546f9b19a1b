import Mathlib.Data.List.TakeWhile
import TemplateFacts.Proofs.Text.Decimal
import TemplateFacts.Text.Blank

/-! What is left of a text whose ends are stripped. -/

namespace TemplateFacts.Text

variable {test : Char → Bool} {c : Char} {cs : List Char}

/-- Nothing is stripped where the test fails everywhere. -/
theorem stripChars_of_none (none : ∀ c ∈ cs, test c = false) : stripChars test cs = cs := by
  -- Neither end holds a character to strip.
  have kept (ds : List Char) (same : ∀ c ∈ ds, c ∈ cs) : ds.dropWhile test = ds := by
    rw [List.dropWhile_eq_self_iff]
    intro nonempty
    rw [none _ (same _ (List.getElem_mem nonempty))]
    exact Bool.false_ne_true
  rw [stripChars, kept cs fun _ member => member, kept cs.reverse fun _ => List.mem_reverse.mp,
    List.reverse_reverse]

/-- Characters in front for which the test holds are stripped. -/
theorem stripChars_append {front : List Char} (holds : ∀ c ∈ front, test c = true) :
    stripChars test (front ++ cs) = stripChars test cs := by
  rw [stripChars, List.dropWhile_append_of_pos holds, stripChars]

/-- Characters at the end for which the test holds are stripped. -/
theorem stripChars_append_behind {back : List Char} (holds : ∀ c ∈ back, test c = true) :
    stripChars test (cs ++ back) = stripChars test cs := by
  -- What is cut off at the end goes first when the text is turned around.
  have reversed : ∀ c ∈ back.reverse, test c = true :=
    fun c member => holds c (List.mem_reverse.mp member)
  rw [stripChars, stripChars, List.dropWhile_append]
  split
  · rename_i empty
    rw [List.isEmpty_iff.mp empty, List.dropWhile_eq_nil_iff.mpr holds]
  · rw [List.reverse_append, List.dropWhile_append_of_pos reversed]

/-- A character for which the test fails is not dropped. -/
theorem mem_dropWhile_of_false (member : c ∈ cs) (fails : test c = false) :
    c ∈ cs.dropWhile test := by
  -- A character that fails the test is not among those dropped.
  rw [← List.takeWhile_append_dropWhile (p := test) (l := cs), List.mem_append] at member
  rcases member with taken | dropped
  · rw [List.mem_takeWhile_imp taken] at fails
    cases fails
  · exact dropped

/-- A character for which the test fails is not stripped. -/
theorem mem_stripChars (member : c ∈ cs) (fails : test c = false) : c ∈ stripChars test cs := by
  -- A character that fails the test survives both ends.
  rw [stripChars, List.mem_reverse]
  refine mem_dropWhile_of_false ?_ fails
  rw [List.mem_reverse]
  exact mem_dropWhile_of_false member fails

/-- A digit is no white space. -/
theorem isBlank_of_isDigit (digit : isDigit c = true) : isBlank c = false := by
  -- The digits lie between 48 and 57, where no blank is.
  have least : 48 ≤ c.toNat := by
    simp only [isDigit, Bool.and_eq_true, decide_eq_true_eq] at digit
    exact digit.1
  have greatest : c.toNat ≤ 57 := by
    simp only [isDigit, Bool.and_eq_true, decide_eq_true_eq] at digit
    exact digit.2
  simp only [isBlank, Bool.or_eq_false_iff, Bool.and_eq_false_iff, decide_eq_false_iff_not,
    beq_eq_false_iff_ne]
  omega

/-- A written number has no white space. -/
theorem stripChars_toDigits (n : Nat) :
    stripChars isBlank (Nat.toDigits 10 n) = Nat.toDigits 10 n :=
  stripChars_of_none fun _ member => isBlank_of_isDigit (isDigit_of_mem_toDigits member)

end TemplateFacts.Text
