import TemplateFacts.Text.Lines

/-! The pieces of a text between its separators: they hold no separator, and their join is the text. -/

namespace TemplateFacts.Text

section Chars

variable {test : Char → Bool} {cs piece : List Char} {c : Char}

/-- Characters are cut as the core library cuts lists. -/
theorem splitChars_eq (test : Char → Bool) (cs : List Char) : splitChars test cs = cs.splitOnP test := by
  -- Both cut at each separator; the induction is on the characters.
  induction cs with
  | nil => simp [splitChars]
  | cons c cs ih =>
    obtain ⟨piece, pieces, split⟩ := List.exists_cons_of_ne_nil (List.splitOnP_ne_nil test cs)
    rw [splitChars, List.splitOnP_cons_eq_if_modifyHead, ih, split]
    rfl

/-- A separator between two lists of characters separates their pieces. -/
theorem splitChars_separator (first : List Char) (separates : test c = true) (more : List Char) :
    splitChars test (first ++ c :: more) = splitChars test first ++ splitChars test more := by
  simp only [splitChars_eq, List.splitOnP_append_cons _ _ separates]

/-- Characters without a separator are their only piece. -/
theorem splitChars_whole (none : ∀ c ∈ cs, test c = false) : splitChars test cs = [cs] := by
  rw [splitChars_eq, List.splitOnP_eq_singleton none]

/-- The pieces of a text do not hold the separator. -/
theorem splitChars_noSeparator (member : piece ∈ splitChars test cs) (inside : c ∈ piece) :
    test c = false := by
  -- A piece ends before the next separator; the induction is on the characters.
  induction cs generalizing piece with
  | nil =>
    rw [splitChars, List.mem_singleton] at member
    subst member
    cases inside
  | cons d cs ih =>
    rw [splitChars] at member
    split at member
    · rcases List.mem_cons.mp member with rfl | later
      · cases inside
      · exact ih later inside
    · rename_i other
      split at member
      · rename_i first pieces split
        rcases List.mem_cons.mp member with rfl | later
        · rcases List.mem_cons.mp inside with rfl | inside
          · exact Bool.not_eq_true _ ▸ other
          · exact ih (split ▸ List.mem_cons_self) inside
        · exact ih (split ▸ List.mem_cons_of_mem _ later) inside
      · rw [List.mem_singleton] at member
        subst member
        rw [List.mem_singleton.mp inside]
        exact Bool.not_eq_true _ ▸ other

end Chars

section Split

variable {separator : Char} {s piece : String} {pieces : List String}

/-- The pieces of a text are those of its characters. -/
theorem split_eq (separator : Char) (s : String) :
    split separator s = (s.toList.splitOn separator).map String.ofList := by
  rw [split, splitChars_eq]
  rfl

/-- The pieces of a text are at least one. -/
theorem split_ne_nil (separator : Char) (s : String) : split separator s ≠ [] := by
  rw [split_eq, ne_eq, List.map_eq_nil_iff]
  exact List.splitOn_ne_nil separator s.toList

/-- The pieces of a text do not hold the separator. -/
theorem separator_notMem (member : piece ∈ split separator s) : separator ∉ piece.toList := by
  -- Each character of a piece fails the test, and the separator passes it.
  obtain ⟨chars, isPiece, rfl⟩ := List.mem_map.mp member
  intro inside
  rw [String.toList_ofList] at inside
  have other := splitChars_noSeparator isPiece inside
  rw [beq_self_eq_true] at other
  cases other

/-- A text is the join of its pieces. -/
theorem join_singleton_split (separator : Char) (s : String) :
    join (String.singleton separator) (split separator s) = s := by
  -- What is cut at a separator is put together with it again.
  rw [← String.toList_inj, join, String.toList_intercalate, split_eq, List.map_map]
  simp [Function.comp_def]

/-- Texts that do not hold the separator are what their join is cut into. -/
theorem split_join_singleton (nonempty : pieces ≠ []) (apart : ∀ piece ∈ pieces, separator ∉ piece.toList) :
    split separator (join (String.singleton separator) pieces) = pieces := by
  -- No piece holds the separator, so the cuts are where the joins were.
  have whole := List.splitOn_intercalate separator (List.forall_mem_map.mpr apart) (by simpa using nonempty)
  rw [split_eq, join, String.toList_intercalate, String.toList_singleton, whole, List.map_map]
  simp [Function.comp_def]

end Split

end TemplateFacts.Text
