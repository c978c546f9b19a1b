import TemplateFacts.Proofs.Wire.Framing

/-!
Truncation never invents a message: a stream of frames that is cut off anywhere is read as the
payloads whose frames are there as a whole, and the reader then tells that something is missing.
-/

namespace TemplateFacts.Wire

/-- The bytes are the header for the length cut off directly before its value, or the space. -/
def CutBeforeValue (part : List UInt8) : Prop :=
  part = Utf8.encode (lengthName ++ ":") ∨ part = Utf8.encode (lengthName ++ ": ")

section Lines

variable {n : Nat} {part payload : List UInt8}

/-- There is no carriage return before the end of the header line for a length. -/
theorem noReturn_lengthChars (n : Nat) : '\r' ∉ lengthChars n := by
  -- The line is a name, a colon, a space and digits.
  intro member
  simp only [lengthChars, List.mem_append, List.mem_cons] at member
  rcases member with name | colon | space | digit
  · exact absurd name (by decide)
  · exact absurd colon (by decide)
  · exact absurd space (by decide)
  · exact absurd (Text.isDigit_of_mem_toDigits digit) (by decide)

/-- The characters of a header line for a length are no end of a line. -/
theorem lengthChars_noEnd {c : Char} (member : c ∈ lengthChars n) : c ≠ '\r' ∧ c ≠ '\n' := by
  -- Neither character stands in the length line before its end.
  constructor
  · rintro rfl
    exact noReturn_lengthChars n member
  · exact (lengthChars_plain (List.mem_append_left _ member)).2

/-- Of a line that holds no end but its own, the end is cut off. -/
theorem withoutEnd_of_none {cs ends : List Char} (none : ∀ c ∈ cs, c ≠ '\r' ∧ c ≠ '\n')
    (isEnd : ∀ c ∈ ends, c = '\r' ∨ c = '\n') (nonempty : cs ≠ []) :
    (withoutEnd (String.ofList (cs ++ ends))).toList = cs := by
  -- Only the last character decides how far the end reaches.
  obtain ⟨front, last, rfl⟩ : ∃ front last, cs = front ++ [last] :=
    ⟨_, _, (List.dropLast_concat_getLast nonempty).symm⟩
  have kept : last ≠ '\r' ∧ last ≠ '\n' := none last (by simp)
  rw [List.append_assoc, List.singleton_append, withoutEnd_append isEnd kept]

/-- A part of the header line for a length stops in the name, before the value, or in the value. -/
theorem lengthChars_part {cs : List Char} (begins : cs <+: lengthChars n) :
    cs <+: lengthName.toList ∨
      (cs = lengthName.toList ++ [':'] ∨ cs = lengthName.toList ++ [':', ' ']) ∨
      ∃ digits, digits <+: Nat.toDigits 10 n ∧ digits ≠ [] ∧
        cs = lengthName.toList ++ ':' :: ' ' :: digits := by
  rw [lengthChars] at begins
  -- One step for the colon, one for the space, and what is left are digits.
  rcases prefix_append_cases begins with inName | ⟨behind, rfl, reaches⟩
  · -- It ends inside the name.
    exact .inl inName
  · cases behind with
    | nil =>
      rw [List.append_nil]
      exact .inl List.prefix_rfl
    | cons colon behind =>
      obtain ⟨rfl, inValue⟩ := List.cons_prefix_cons.mp reaches
      cases behind with
      | nil => exact .inr (.inl (.inl rfl))
      | cons space digits =>
        obtain ⟨rfl, inDigits⟩ := List.cons_prefix_cons.mp inValue
        cases digits with
        | nil => exact .inr (.inl (.inr rfl))
        | cons d digits => exact .inr (.inr ⟨d :: digits, inDigits, List.cons_ne_nil _ _, rfl⟩)

/-- A line that begins with the name of the header for the length says what its value says. -/
theorem headerLine_of_value {cs value : List Char}
    (kept : (withoutEnd (String.ofList cs)).toList = lengthName.toList ++ ':' :: value) :
    headerLine (Utf8.encode (String.ofList cs)) = lengthOfValue value := by
  -- The name ends at its colon, and is the one that is looked for.
  have noColon : ∀ c ∈ lengthName.toList, (c != ':') = true := List.all_iff_forall_prop.mp (by decide)
  have named : Text.asciiCaseEq (Text.trim (String.ofList lengthName.toList)) lengthName = true := by
    decide
  have nonempty : lengthName.toList ++ ':' :: value ≠ [] := by simp
  rw [headerLine_of_withoutEnd kept nonempty, List.dropWhile_append_of_pos noColon,
    List.takeWhile_append_of_pos noColon, List.dropWhile_cons_of_neg (by decide),
    List.takeWhile_cons_of_neg (by decide), List.append_nil]
  simp only [named, if_true]

/-- The first digits of a length tell a length as well. -/
theorem lengthOfValue_part {digits : List Char} (small : n ≤ greatestWritten)
    (begins : digits <+: Nat.toDigits 10 n) (nonempty : digits ≠ []) :
    ∃ m, lengthOfValue (' ' :: digits) = .length m := by
  -- No digit is a blank, so that only the space in front is stripped off.
  obtain ⟨m, less, reads⟩ := Text.readSignedNat?_part begins nonempty
  have blanks : ∀ c ∈ digits, Text.isBlank c = false := fun c member =>
    Text.isBlank_of_isDigit (Text.isDigit_of_mem_toDigits (begins.subset member))
  have trimmed : (Text.trim (String.ofList (' ' :: digits))).toList = digits := by
    rw [Text.trim, String.toList_ofList, String.toList_ofList, ← List.singleton_append,
      Text.stripChars_append (List.all_iff_forall_prop.mp (by decide)),
      Text.stripChars_of_none blanks]
  refine ⟨m, ?_⟩
  simp only [lengthOfValue, trimmed, reads]
  rw [if_pos (Nat.le_trans less small)]

/-- Where the cut is, is told by the characters as it is by their bytes. -/
theorem cutBeforeValue_iff {cs : List Char} :
    CutBeforeValue (Utf8.encode (String.ofList cs)) ↔
      cs = lengthName.toList ++ [':'] ∨ cs = lengthName.toList ++ [':', ' '] := by
  -- Texts with the same bytes are the same.
  have same (s : String) : Utf8.encode (String.ofList cs) = Utf8.encode s ↔ cs = s.toList := by
    constructor
    · intro bytes
      rw [← Utf8.encode_injective bytes, String.toList_ofList]
    · rintro rfl
      rw [String.ofList_toList]
  rw [CutBeforeValue, same, same, String.toList_append, String.toList_append]
  rfl

/-- What a part of the header line for a length says when the stream ends in it. -/
theorem headerLine_part (small : n ≤ greatestWritten) (begins : part <+: lengthBytes n)
    (nonempty : part ≠ []) :
    CutBeforeValue part ∧ headerLine part = .wrong (.wrongLength "") ∨
      ¬ CutBeforeValue part ∧ (headerLine part = .other ∨ ∃ m, headerLine part = .length m) := by
  obtain ⟨cs, inside, rfl⟩ := chars_of_prefix begins
  -- Which case it is depends on how far the part reaches in the characters of the line.
  have noColon : ':' ∉ lengthName.toList := by decide
  have noEnd : ∀ c ∈ lengthChars n, c ≠ '\r' ∧ c ≠ '\n' := fun c member => lengthChars_noEnd member
  rcases List.prefix_concat_iff.mp inside with rfl | inLine
  · -- The line is there as a whole, but for the line feed.
    have any : lengthChars n ≠ [] := by simp [lengthChars]
    have isEnd : ∀ c ∈ ['\r'], c = '\r' ∨ c = '\n' := List.all_iff_forall_prop.mp (by decide)
    have kept := withoutEnd_of_none noEnd isEnd any
    refine .inr ⟨?_, .inr ⟨n, ?_⟩⟩
    · -- A carriage return stands in neither of the two cuts.
      have returns : '\r' ∈ lengthChars n ++ ['\r'] := by simp
      rw [cutBeforeValue_iff]
      rintro (same | same)
      · rw [same] at returns
        exact absurd returns (by decide)
      · rw [same] at returns
        exact absurd returns (by decide)
    · rw [headerLine_of_value kept, lengthOfValue_toDigits, if_pos small]
  · -- The part ends before the carriage return, and so has no end of a line to be cut off.
    have some : cs ≠ [] := by
      -- What is left is not empty, so the line is no blank one.
      rintro rfl
      exact nonempty rfl
    have kept : (withoutEnd (String.ofList cs)).toList = cs := by
      have isEnd : ∀ c ∈ ([] : List Char), c = '\r' ∨ c = '\n' := by simp
      have whole := withoutEnd_of_none (fun c member => noEnd c (inLine.subset member)) isEnd some
      rwa [List.append_nil] at whole
    rcases lengthChars_part inLine with inName | (rfl | rfl) | ⟨digits, first, any, rfl⟩
    · -- A part of the name has no colon, and says nothing.
      have before : ∀ c ∈ cs, (c != ':') = true := by
        intro c member
        rw [bne_iff_ne]
        rintro rfl
        exact noColon (inName.subset member)
      refine .inr ⟨?_, .inl ?_⟩
      · rw [cutBeforeValue_iff]
        rintro (rfl | rfl)
        · exact absurd (before ':' (by decide)) (by decide)
        · exact absurd (before ':' (by decide)) (by decide)
      · rw [headerLine_of_withoutEnd kept some, List.dropWhile_eq_nil_iff.mpr before]
    · -- Nothing stands where the number should, and so it does behind the space.
      refine .inl ⟨cutBeforeValue_iff.mpr (.inl rfl), ?_⟩
      rw [headerLine_of_value kept]
      decide
    · refine .inl ⟨cutBeforeValue_iff.mpr (.inr rfl), ?_⟩
      rw [headerLine_of_value kept]
      decide
    · -- Some digits are there, and they are a number of their own.
      refine .inr ⟨?_, .inr ?_⟩
      · rw [cutBeforeValue_iff]
        simp [any]
      · rw [headerLine_of_value kept]
        exact lengthOfValue_part small first any

/-- A line that the stream ends in is a fault, and a malformed one only before the value. -/
theorem readFrame_line (small : n ≤ greatestWritten) (begins : part <+: lengthBytes n)
    (nonempty : part ≠ []) :
    ∃ fault, readFrame true part = .faulty fault ∧ (fault.isMalformed = true ↔ CutBeforeValue part) := by
  -- The three meanings that a front of the line can have are gone through.
  have noFeed : 10 ∉ part := fun feed => noFeed_lengthBytes n (begins.subset feed)
  rw [readFrame, readHeaders_last noFeed, if_neg nonempty]
  rcases headerLine_part small begins nonempty with ⟨cut, line⟩ | ⟨uncut, line | ⟨m, line⟩⟩
  · refine ⟨_, by rw [line], ?_⟩
    simp only [FrameFault.isMalformed, cut]
  · refine ⟨_, by rw [line], ?_⟩
    simp only [FrameFault.isMalformed, Bool.false_eq_true, uncut]
  · refine ⟨_, by rw [line], ?_⟩
    simp only [FrameFault.isMalformed, Bool.false_eq_true, uncut]

/-- A payload of which something is missing is an early end. -/
theorem readPayload_cut (fits : payload.length ≤ greatestPayload) (short : part.length < payload.length) :
    readPayload true (some payload.length) part = .faulty .endInPayload := by
  -- The bytes end before the payload does.
  rw [readPayload]
  simp only [Nat.not_lt.mpr fits, Nat.not_le.mpr short, if_false, if_true]

/-- A stream that ends behind the header line, and before the frame does, ends early. -/
theorem readHeaders_cut (fits : payload.length ≤ greatestPayload) (nonempty : payload ≠ [])
    (begins : part <+: 13 :: 10 :: payload) (isPart : part ≠ 13 :: 10 :: payload) :
    ∃ fault, readHeaders true ⟨some payload.length, true⟩ [] part = .faulty fault ∧
      fault.isMalformed = false := by
  -- The stream ends before the blank line, in it, or in the payload.
  cases part with
  | nil => exact ⟨.endInHeaders, rfl, rfl⟩
  | cons returning part =>
    obtain ⟨rfl, behindReturn⟩ := List.cons_prefix_cons.mp begins
    cases part with
    | nil =>
      -- The carriage return alone is taken for the blank line.
      have blank : headerLine [13] = .blank := by decide
      have short : ([] : List UInt8).length < payload.length := List.length_pos_iff.mpr nonempty
      refine ⟨.endInPayload, ?_, rfl⟩
      show readHeaders true ⟨some payload.length, true⟩ [13] [] = _
      rw [readHeaders]
      simp only [Bool.not_true, List.isEmpty_cons, List.reverse_singleton, blank, Bool.false_eq_true,
        if_false, if_true, readPayload_cut fits short]
    | cons feed part =>
      obtain ⟨rfl, inPayload⟩ := List.cons_prefix_cons.mp behindReturn
      have short : part.length < payload.length := by
        refine Nat.lt_of_le_of_ne inPayload.length_le fun same => isPart ?_
        rw [inPayload.eq_of_length same]
      refine ⟨.endInPayload, ?_, rfl⟩
      rw [readHeaders_blankLine, readPayload_cut fits short]

/-- A frame that the stream ends in is a fault, and a malformed one only before the value. -/
theorem readFrame_cut (fits : payload.length ≤ greatestPayload) (nonempty : payload ≠ [])
    (begins : part <+: writeFrame payload) (isPart : part ≠ writeFrame payload) (any : part ≠ []) :
    ∃ fault, readFrame true part = .faulty fault ∧ (fault.isMalformed = true ↔ CutBeforeValue part) := by
  have small : payload.length ≤ greatestWritten := writable_of_fits fits
  rw [writeFrame_eq] at begins isPart
  -- The stream ends in the header line, directly behind it, or later.
  rcases prefix_append_cases begins with inLine | ⟨behind, rfl, reaches⟩
  · exact readFrame_line small inLine any
  · cases behind with
    | nil =>
      rw [List.append_nil] at any ⊢
      exact readFrame_line small List.prefix_rfl any
    | cons feed behind =>
      obtain ⟨rfl, inRest⟩ := List.cons_prefix_cons.mp reaches
      -- Both cuts are before any line feed.
      have uncut : ¬ CutBeforeValue (lengthBytes payload.length ++ 10 :: behind) := by
        have feed : (10 : UInt8) ∈ lengthBytes payload.length ++ 10 :: behind := by simp
        rintro (same | same)
        · rw [same] at feed
          exact absurd feed (by decide)
        · rw [same] at feed
          exact absurd feed (by decide)
      obtain ⟨fault, reads, early⟩ := readHeaders_cut fits nonempty inRest
        fun same => isPart (by rw [same])
      refine ⟨fault, ?_, ?_⟩
      · rw [readFrame, ← reads]
        exact readHeaders_lengthLine 0 small
      · rw [early]
        simp only [Bool.false_eq_true, uncut]

end Lines

section Streams

variable {payloads whole : List (List UInt8)} {part left : List UInt8}

/-- The bytes are some whole frames of the stream, from its beginning on. -/
def OnBoundary (payloads : List (List UInt8)) (part : List UInt8) : Prop :=
  ∃ k, part = stream (payloads.take k)

/-- The bytes are some whole frames of the stream, and a part of the next one. -/
structure Splits (payloads : List (List UInt8)) (part : List UInt8) (whole : List (List UInt8))
    (left : List UInt8) : Prop where
  first : whole <+: payloads
  joined : part = stream whole ++ left
  /-- Nothing is left behind the last frame. -/
  inside : left ≠ [] → ∃ next, whole ++ [next] <+: payloads
  /-- The next frame is not there as a whole. -/
  missing : ∀ next, whole ++ [next] <+: payloads → left <+: writeFrame next ∧ left ≠ writeFrame next

/-- A part of a stream ends in some frame, or between two of them. -/
theorem splits_of_prefix (begins : part <+: stream payloads) :
    ∃ whole left, Splits payloads part whole left := by
  -- By induction on the payloads: the part ends in the first frame, or reaches behind it.
  induction payloads generalizing part with
  | nil =>
    obtain rfl : part = [] := List.prefix_nil.mp begins
    refine ⟨[], [], List.prefix_rfl, rfl, fun any => absurd rfl any, fun next follows => ?_⟩
    exact absurd (List.prefix_nil.mp follows) (List.cons_ne_nil _ _)
  | cons payload payloads ih =>
    have split : part <+: writeFrame payload ++ stream payloads := begins
    by_cases reaches : writeFrame payload <+: part
    · -- The first frame is there as a whole, and the rest of the part behind it.
      obtain ⟨behind, rfl⟩ := reaches
      obtain ⟨whole, left, s⟩ := ih ((List.prefix_append_right_inj _).mp split)
      refine ⟨payload :: whole, left, List.cons_prefix_cons.mpr ⟨rfl, s.first⟩, ?_, ?_, ?_⟩
      · rw [s.joined, stream, stream, List.flatMap_cons, List.append_assoc]
      · intro any
        obtain ⟨next, follows⟩ := s.inside any
        exact ⟨next, List.cons_prefix_cons.mpr ⟨rfl, follows⟩⟩
      · intro next follows
        exact s.missing next (List.cons_prefix_cons.mp follows).2
    · -- The first frame is not there as a whole.
      have inFirst : part <+: writeFrame payload := by
        rcases prefix_append_cases split with inside | ⟨behind, same, _⟩
        · exact inside
        · exact absurd ⟨behind, same.symm⟩ reaches
      refine ⟨[], part, List.nil_prefix, rfl, fun _ => ⟨payload, ?_⟩, fun next follows => ?_⟩
      · exact List.cons_prefix_cons.mpr ⟨rfl, List.nil_prefix⟩
      · obtain ⟨rfl, _⟩ := List.cons_prefix_cons.mp follows
        refine ⟨inFirst, ?_⟩
        rintro rfl
        exact reaches List.prefix_rfl

namespace Splits

/-- Fewer payloads have fewer frames. -/
theorem stream_take_le {j k : Nat} (less : j ≤ k) :
    stream (payloads.take j) <+: stream (payloads.take k) := by
  -- The first `j` payloads are the front of the first `k`.
  obtain ⟨others, same⟩ := List.take_prefix_take_left (l := payloads) less
  rw [← same, stream, stream, List.flatMap_append]
  exact List.prefix_append _ _

/-- No more frames lie inside the part than it is split into. -/
theorem prefix_iff (s : Splits payloads part whole left) {k : Nat} (few : k ≤ payloads.length) :
    stream (payloads.take k) <+: part ↔ k ≤ whole.length := by
  have taken : whole = payloads.take whole.length := List.prefix_iff_eq_take.mp s.first
  constructor
  · intro lies
    -- One frame more would lie in what is left, which is only a part of it.
    by_contra more
    have next : whole.length < payloads.length := by omega
    have longer : payloads.take (whole.length + 1) = whole ++ [payloads[whole.length]] := by
      rw [List.take_add_one, ← taken, List.getElem?_eq_getElem next]
      rfl
    obtain ⟨missing, isPart⟩ := s.missing payloads[whole.length] (longer ▸ List.take_prefix _ _)
    have lies' : stream whole ++ writeFrame payloads[whole.length] <+: stream whole ++ left := by
      have shorter := (stream_take_le (show whole.length + 1 ≤ k by omega)).trans lies
      rw [longer, s.joined, stream, List.flatMap_append, List.flatMap_singleton] at shorter
      exact shorter
    have within := (List.prefix_append_right_inj _).mp lies'
    exact isPart (missing.eq_of_length_le within.length_le)
  · intro less
    -- What lies in the whole frames lies in the part.
    rw [s.joined]
    refine List.IsPrefix.trans ?_ (List.prefix_append _ _)
    rw [taken]
    exact stream_take_le less

/-- The part ends on a boundary exactly when nothing is left behind the whole frames. -/
theorem onBoundary_iff (s : Splits payloads part whole left) :
    OnBoundary payloads part ↔ left = [] := by
  constructor
  -- The whole frames are no fewer than those up to the boundary, and so nothing is behind them.
  · rintro ⟨k, same⟩
    have inside : min k payloads.length ≤ whole.length := by
      refine (s.prefix_iff (Nat.min_le_right _ _)).mp ?_
      rw [same]
      exact stream_take_le (Nat.min_le_left _ _)
    have fewer : payloads.take k = payloads.take (min k payloads.length) := List.take_eq_take_min
    have short : part.length ≤ (stream whole).length := by
      rw [same, fewer, List.prefix_iff_eq_take.mp s.first]
      exact (stream_take_le inside).length_le
    rw [s.joined, List.length_append] at short
    exact List.length_eq_zero_iff.mp (by omega)
  · rintro rfl
    refine ⟨whole.length, ?_⟩
    rw [← List.prefix_iff_eq_take.mp s.first, s.joined, List.append_nil]

end Splits

/-- Truncation never invents a message: a part of a stream is read as the payloads whose frames lie
inside it as a whole; the reader then ends on a boundary between frames, and tells a fault elsewhere,
which is an early end unless the part stops directly before the value of a length. -/
theorem truncation_invents_nothing
    (fits : ∀ payload ∈ payloads, payload ≠ [] ∧ payload.length ≤ greatestPayload)
    (begins : part <+: stream payloads) :
    ∃ whole left, whole <+: payloads ∧ part = stream whole ++ left ∧
      (∀ k ≤ payloads.length, stream (payloads.take k) <+: part ↔ k ≤ whole.length) ∧
      readMany true whole.length part = some (whole, left) ∧
      (OnBoundary payloads part →
        readFrame true left = .ended ∧ framesOf part = (whole, none)) ∧
      (¬ OnBoundary payloads part → ∃ fault,
        readFrame true left = .faulty fault ∧ framesOf part = (whole, some fault) ∧
        (fault.isMalformed = true ↔ CutBeforeValue left)) := by
  -- The frames that are there are read as by any reader, and what is left tells how it stops.
  obtain ⟨whole, left, s⟩ := splits_of_prefix begins
  have reads : readMany true whole.length part = some (whole, left) := by
    rw [s.joined]
    exact readMany_stream_append true (fun payload member => (fits payload (s.first.subset member)).2) left
  refine ⟨whole, left, s.first, s.joined, fun k few => s.prefix_iff few, reads, fun between => ?_,
    fun within => ?_⟩
  · have ends : readFrame true left = .ended := by
      rw [s.onBoundary_iff.mp between]
      rfl
    exact ⟨ends, framesOf_of_readMany reads ends⟩
  · have any : left ≠ [] := fun none => within (s.onBoundary_iff.mpr none)
    obtain ⟨next, follows⟩ := s.inside any
    obtain ⟨nonempty, short⟩ := fits next (follows.subset (by simp))
    obtain ⟨starts, isPart⟩ := s.missing next follows
    obtain ⟨fault, stops, kind⟩ := readFrame_cut short nonempty starts isPart any
    exact ⟨fault, stops, framesOf_of_readMany reads stops, kind⟩

/-- Two short payloads. -/
def pair : List (List UInt8) := [[123, 125], [91, 93]]

/-- The frames of two payloads, the second one cut off before the value of its length. -/
def cutPair : List UInt8 := writeFrame [123, 125] ++ Utf8.encode (lengthName ++ ":")

/-- A stream that is cut off before the value of a length is read up to the frame before. -/
theorem cut_pair_read :
    (∀ payload ∈ pair, payload ≠ [] ∧ payload.length ≤ greatestPayload) ∧
      cutPair <+: stream pair ∧ ¬ OnBoundary pair cutPair ∧
      ∃ whole left fault, whole <+: pair ∧ cutPair = stream whole ++ left ∧
        framesOf cutPair = (whole, some fault) ∧ (fault.isMalformed = true ↔ CutBeforeValue left) := by
  have fits : ∀ payload ∈ pair, payload ≠ [] ∧ payload.length ≤ greatestPayload := by decide
  have begins : cutPair <+: stream pair := by decide
  have within : ¬ OnBoundary pair cutPair := by
    -- A boundary has at most two frames in front of it, none of which gives these bytes.
    rintro ⟨k, same⟩
    rcases k with _ | _ | k
    · exact absurd same (by decide)
    · exact absurd same (by decide)
    · have all : pair.take (k + 2) = pair := by simp [pair]
      rw [all] at same
      exact absurd same (by decide)
  obtain ⟨whole, left, first, joined, _, _, _, faulty⟩ := truncation_invents_nothing fits begins
  obtain ⟨fault, _, reads, kind⟩ := faulty within
  exact ⟨fits, begins, within, whole, left, fault, first, joined, reads, kind⟩

end Streams

end TemplateFacts.Wire
