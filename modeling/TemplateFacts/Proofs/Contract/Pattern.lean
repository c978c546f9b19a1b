import TemplateFacts.Contract.Bundled

/-! The pattern of the bundled contract matches exactly the hexadecimal digests. -/

namespace TemplateFacts.Contract

/-- Sixty-four lower-case hexadecimal digits, and nothing else. -/
def IsDigest (s : String) : Prop :=
  s.length = 64 ∧ ∀ c ∈ s.toList, ('0' ≤ c ∧ c ≤ '9') ∨ ('a' ≤ c ∧ c ≤ 'f')

/-- A place that was found stays found. -/
theorem found_foldl_add {trail : Trail} (places : List Place) (some : trail.found ≠ []) :
    (places.foldl Trail.add trail).found ≠ [] := by
  -- Adding a place never takes a found one away.
  induction places generalizing trail with
  | nil => exact some
  | cons place places ih =>
    refine ih ?_
    rw [Trail.add]
    split
    · exact some
    · exact List.cons_ne_nil _ _

/-- Some place is left of some places when those that come again are dropped. -/
theorem distinct_eq_nil {places : List Place} : distinct places = [] ↔ places = [] := by
  -- One place is found at the start already.
  cases places with
  | nil => exact iff_of_true rfl rfl
  | cons place places =>
    have some : (Trail.empty.add place).found ≠ [] := by
      simp [Trail.add, Trail.empty]
    refine iff_of_false (fun none => found_foldl_add places some ?_) (List.cons_ne_nil _ _)
    exact List.reverse_eq_nil_iff.mp none

namespace Pattern

/-- A run of so many characters ends the text when the text has as many, all of the class. -/
theorem runOf_drop {set : Text.CharClass} (n : Nat) (place : Place) :
    (∃ behind ∈ (runOf set n place).drop n, behind.isEnd = true) ↔
      place.rest.length = n ∧ ∀ c ∈ place.rest, set.holds c = true := by
  -- The run keeps one place for each number of digits taken, so the one behind `n` is the last kept.
  induction n generalizing place with
  | zero =>
    cases rest : place.rest with
    | nil => simp [runOf, Place.isEnd, rest]
    | cons c others => simp [runOf, Place.isEnd, rest]
  | succ n ih =>
    cases rest : place.rest with
    | nil => simp [runOf, Place.next?, rest]
    | cons c others =>
      simp only [runOf, Place.next?, rest]
      split
      · rename_i belongs
        rw [List.drop_succ_cons, ih]
        simp [belongs]
      · rename_i differs
        simp [differs]

/-- The pattern for digests matches nowhere but at the beginning. -/
theorem ends_hashPattern_of_before {place : Place} (inside : place.isStart = false) :
    hashPattern.ends place = [] := by
  -- The pattern begins with the anchor, which holds at the start alone.
  simp [hashPattern, ends, inside, distinct_eq_nil]

/-- The characters of a digest are the digits and the first letters. -/
theorem holds_hashDigit (c : Char) :
    hashDigit.holds c = true ↔ ('0' ≤ c ∧ c ≤ '9') ∨ ('a' ≤ c ∧ c ≤ 'f') := by
  -- The class is the two ranges of the pattern's text.
  simp only [hashDigit, Text.CharClass.holds, Text.inRanges, List.any_cons, List.any_nil,
    Bool.or_false, Bool.false_or, Bool.or_eq_true, Bool.and_eq_true, decide_eq_true_eq]
  exact Iff.rfl

/-- The pattern for digests matches at the beginning of a digest. -/
theorem ends_hashPattern {s : String} : hashPattern.ends (.start s) = [] ↔ ¬ IsDigest s := by
  -- Anchored at both ends, the pattern asks for a run of 64 digits that leaves nothing.
  have started : (Place.start s).isStart = true := rfl
  have run : (∃ behind ∈ (runOf hashDigit 64 (.start s)).drop 64, behind.isEnd = true) ↔
      IsDigest s := by
    rw [runOf_drop, IsDigest, Place.start, ← String.length_toList]
    simp only [holds_hashDigit]
  have none : hashPattern.ends (.start s) = [] ↔
      ∀ behind ∈ (runOf hashDigit 64 (.start s)).drop 64, behind.isEnd = false := by
    simp [hashPattern, ends, started, distinct_eq_nil]
  rw [none, ← run]
  simp

/-- The place behind a character is not the beginning. -/
theorem isStart_next {place : Place} {step : Char × Place} (next : place.next? = some step) :
    step.2.isStart = false := by
  -- A step has gone past a character, so it is not at the start any more.
  unfold Place.next? at next
  split at next
  · cases next
  · cases next
    rfl

/-- A place from which nothing can be found leads to none. -/
theorem occursFrom_of_before (n : Nat) {place : Place} (inside : place.isStart = false) :
    hashPattern.occursFrom n place = false := by
  -- The anchor fails at every later place, however many are tried.
  induction n generalizing place with
  | zero => rw [occursFrom, ends_hashPattern_of_before inside]; rfl
  | succ n ih =>
    rw [occursFrom, ends_hashPattern_of_before inside]
    cases next : place.next? with
    | none => rfl
    | some step =>
      simp [ih (isStart_next next)]

/-- The pattern for digests matches exactly the digests. -/
theorem matchesIn_hashPattern (s : String) : hashPattern.matchesIn s = true ↔ IsDigest s := by
  -- Only the match that begins at the start can succeed, for the first character of the pattern is an
  -- anchor.
  have begins : hashPattern.matchesIn s = !(hashPattern.ends (.start s)).isEmpty := by
    rw [matchesIn]
    cases s.length with
    | zero => rw [occursFrom]
    | succ n =>
      rw [occursFrom]
      cases next : (Place.start s).next? with
      | none => rw [Bool.or_false]
      | some step =>
        have behind : step.2.isStart = false := isStart_next next
        simp [occursFrom_of_before n behind]
  rw [begins, Bool.not_eq_true', List.isEmpty_eq_false_iff, ne_eq, ends_hashPattern, Classical.not_not]

end Pattern

end TemplateFacts.Contract
