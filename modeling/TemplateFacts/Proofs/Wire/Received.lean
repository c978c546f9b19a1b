import Mathlib.Data.List.Infix
import TemplateFacts.Proofs.Wire.Framing

/-!
What the other side makes of a stream that goes on: it takes frame after frame. A frame that was cut
off is passed over if its header ends with a line, and spoils the next frame otherwise.
-/

namespace TemplateFacts.Wire

section Shorter

variable {headers : Headers} {line bytes payload rest : List UInt8}

/-- Every frame takes a byte at least. -/
theorem readHeaders_shorter (reads : readHeaders false headers line bytes = .frame payload rest) :
    rest.length < bytes.length := by
  -- The first byte at least has been taken.
  cases bytes with
  | nil => cases reads
  | cons b bytes => exact Nat.lt_succ_of_le (readHeaders_length_le reads)

end Shorter

/-- The payloads of the frames that have come on a stream that goes on. -/
def received (bytes : List UInt8) : List (List UInt8) :=
  -- What is faulty or not there yet ends the reading.
  match _reads : readFrame false bytes with
  | .frame payload rest => payload :: received rest
  | _ => []
termination_by bytes.length
decreasing_by exact readHeaders_shorter _reads

/-- The payloads that come, given where the reading of headers stands. -/
def receivedFrom (headers : Headers) (returns : Nat) (bytes : List UInt8) : List (List UInt8) :=
  -- Carriage returns may begin the line in hand.
  match readHeaders false headers (List.replicate returns 13) bytes with
  | .frame payload rest => payload :: received rest
  | _ => []

/-- A stream is read from its beginning. -/
theorem received_eq (bytes : List UInt8) : received bytes = receivedFrom ⟨none, false⟩ 0 bytes := by
  have same : readHeaders false ⟨none, false⟩ (List.replicate 0 13) bytes = readFrame false bytes :=
    rfl
  -- A stream begins outside of any header, and without a byte of its first line.
  rw [received, receivedFrom, same]
  split
  · rename_i payload rest reads
    rw [reads]
  · rename_i never
    cases reads : readFrame false bytes with
    | frame payload rest => exact absurd reads (never payload rest)
    | ended => rfl
    | faulty fault => rfl
    | unfinished => rfl

/-- What another side does not mistake for the beginning of a later frame. -/
def Harmless (part : List UInt8) : Prop :=
  -- The header line is written with its end, and the blank line is not.
  part = [] ∨ ∃ n ≤ greatestWritten, part = lengthBytes n ++ [10] ∨ part = lengthBytes n ++ [10, 13]

section Reading

variable {headers : Headers} {returns : Nat} {payload part rest : List UInt8}

/-- A whole frame is received, and what follows it is read from its beginning. -/
theorem receivedFrom_writeFrame (fits : payload.length ≤ greatestPayload) :
    receivedFrom headers returns (writeFrame payload ++ rest) = payload :: received rest := by
  simp only [receivedFrom, readHeaders_writeFrame returns fits]

/-- A harmless part is passed over. -/
theorem receivedFrom_harmless (headers : Headers) (returns : Nat) (rest : List UInt8)
    (harmless : Harmless part) :
    ∃ headers' returns', receivedFrom headers returns (part ++ rest) =
      receivedFrom headers' returns' rest := by
  rcases harmless with rfl | ⟨n, small, rfl | rfl⟩
  · -- Nothing was written, so that the reader stands where it stood.
    exact ⟨headers, returns, rfl⟩
  · -- The header line is taken, and the reader waits for the next one.
    refine ⟨⟨some n, true⟩, 0, ?_⟩
    rw [List.append_assoc, List.singleton_append, receivedFrom, readHeaders_lengthLine returns small]
    rfl
  · -- The carriage return stays in the line in hand, where the next header line is read behind it.
    refine ⟨⟨some n, true⟩, 1, ?_⟩
    have noFeed : (10 : UInt8) ∉ [13] := by decide
    rw [List.append_assoc, List.cons_append, receivedFrom, readHeaders_lengthLine returns small,
      readHeaders_append noFeed]
    rfl

/-- Nothing is received behind a blank line before the payload is there. -/
theorem readHeaders_partUnfit {n : Nat} (unfit : ¬ n ≤ greatestPayload)
    (begins : part <+: 13 :: 10 :: payload) (whole : List UInt8) :
    readHeaders false ⟨some n, true⟩ [] part ≠ .frame whole rest := by
  -- A payload of such a length is refused as soon as the blank line is there, and before it is waited for.
  have split : part <+: [13] ++ 10 :: payload := begins
  rcases prefix_append_cases split with inLine | ⟨more, rfl, reaches⟩
  · rw [readHeaders_unfinished fun feed => absurd (inLine.subset feed) (by decide)]
    intro same
    cases same
  · cases more with
    | nil =>
      rw [readHeaders_unfinished (by decide)]
      intro same
      cases same
    | cons b more =>
      obtain ⟨rfl, _⟩ := List.cons_prefix_cons.mp reaches
      show readHeaders false ⟨some n, true⟩ [] (13 :: 10 :: more) ≠ _
      rw [readHeaders_blankLine, readPayload]
      simp only [Nat.not_le.mp unfit, if_true]
      intro same
      cases same

/-- Nothing is received from a frame that has not come as a whole, however long it is. -/
theorem receivedFrom_part (begins : part <+: writeFrame payload)
    (isPart : part ≠ writeFrame payload) : receivedFrom headers returns part = [] := by
  -- Only a payload that is too long needs another look.
  by_cases fits : payload.length ≤ greatestPayload
  · simp only [receivedFrom, readHeaders_part returns fits begins isPart]
  · -- Of a payload that is too long neither the header line nor anything behind it makes a frame.
    have never (whole rest : List UInt8) :
        readHeaders false headers (List.replicate returns 13) part ≠ .frame whole rest := by
      intro reads
      rw [writeFrame_eq] at begins
      have noFeed : 10 ∉ lengthBytes payload.length := noFeed_lengthBytes payload.length
      -- The part ends inside the header line, or behind it.
      rcases prefix_append_cases begins with inLine | ⟨more, rfl, reaches⟩
      · rw [readHeaders_unfinished fun feed => noFeed (inLine.subset feed)] at reads
        cases reads
      · cases more with
        | nil =>
          rw [List.append_nil, readHeaders_unfinished noFeed] at reads
          cases reads
        | cons b more =>
          obtain ⟨rfl, behind⟩ := List.cons_prefix_cons.mp reaches
          -- A length that cannot be written is a fault at once.
          by_cases small : payload.length ≤ greatestWritten
          · rw [readHeaders_lengthLine returns small] at reads
            exact readHeaders_partUnfit fits behind whole reads
          · obtain ⟨fault, faulty⟩ : ∃ fault, readHeaders false headers (List.replicate returns 13)
                (lengthBytes payload.length ++ 10 :: more) = .faulty fault :=
              readHeaders_longLine returns small
            rw [faulty] at reads
            cases reads
    unfold receivedFrom
    split
    · rename_i whole rest reads
      exact absurd reads (never whole rest)
    · rfl

end Reading

/-- A header line in front of which another one has begun tells no length. -/
theorem headerLine_spoiled {front : List Char} {n : Nat}
    (begins : front <+: lengthChars n ++ ['\r']) (begun : front ≠ []) (m : Nat) :
    headerLine (Utf8.encode (String.ofList front) ++ lengthBytes m ++ [10]) = .other ∨
      ∃ fault, headerLine (Utf8.encode (String.ofList front) ++ lengthBytes m ++ [10]) =
        .wrong fault := by
  -- The beginning ends inside the name, whose like there is no other, or inside the value.
  have names : ∀ front ∈ lengthName.toList.inits, front ≠ [] → ':' ∉ front ∧
      Text.asciiCaseEq (Text.trim (String.ofList (front ++ lengthName.toList))) lengthName = false := by
    decide
  have insideName (begins : front <+: lengthName.toList) :
      headerLine (Utf8.encode (String.ofList front) ++ lengthBytes m ++ [10]) = .other := by
    obtain ⟨noColon, another⟩ := names front ((List.mem_inits _ _).mpr begins) begun
    obtain ⟨name, value⟩ := split_lengthChars noColon m
    rw [headerLine_front, name, value]
    simp only [another, Bool.false_eq_true, if_false]
  have split : front <+: lengthName.toList ++ (':' :: ' ' :: (Nat.toDigits 10 n ++ ['\r'])) := by
    simpa [lengthChars] using begins
  rcases prefix_append_cases split with inName | ⟨more, rfl, reaches⟩
  · exact .inl (insideName inName)
  · cases more with
    | nil => exact .inl (insideName (by rw [List.append_nil]))
    | cons c more =>
      -- The name is whole, and the part ends inside the value.
      obtain ⟨rfl, _⟩ := List.cons_prefix_cons.mp reaches
      have named : ∀ c ∈ lengthName.toList, (c != ':') = true :=
        List.all_iff_forall_prop.mp (by decide)
      have same : Text.asciiCaseEq (Text.trim (String.ofList lengthName.toList)) lengthName = true := by
        decide
      have number : Text.readSignedNat? (Text.trim (String.ofList (more ++ lengthChars m))).toList =
          none := by
        -- The name of the header that follows becomes part of the value, and no number has letters.
        have letter : 'C' ∈ more ++ lengthChars m := List.mem_append_right _ (by simp [lengthChars, lengthName])
        rw [Text.trim, String.toList_ofList, String.toList_ofList]
        exact Text.readSignedNat?_of_mem (Text.mem_stripChars letter (by decide)) (by decide) (by decide)
      right
      rw [headerLine_front, List.append_assoc, List.cons_append, List.takeWhile_append_of_pos named,
        List.dropWhile_append_of_pos named, List.takeWhile_cons_of_neg (by decide),
        List.dropWhile_cons_of_neg (by decide), List.append_nil]
      simp only [same, if_true, lengthOfValue, number]
      exact ⟨_, rfl⟩

section Spoiled

variable {part first second tail : List UInt8}

/-- Nothing is received behind the beginning of a header line. -/
theorem received_spoiledLine {n : Nat} (begins : part <+: lengthBytes n) (begun : part ≠ []) :
    received (part ++ writeFrame second ++ tail) = [] := by
  -- The next header line is read as the rest of the line that was begun.
  obtain ⟨front, chars, written⟩ := chars_of_prefix begins
  have frontBegun : front ≠ [] := by
    rintro rfl
    exact begun written
  have noFeed : 10 ∉ part ++ lengthBytes second.length := by
    intro feed
    rcases List.mem_append.mp feed with inPart | inLine
    · exact noFeed_lengthBytes n (begins.subset inPart)
    · exact noFeed_lengthBytes _ inLine
  have split : part ++ writeFrame second ++ tail =
      (part ++ lengthBytes second.length) ++ 10 :: 13 :: 10 :: (second ++ tail) := by
    rw [writeFrame_eq]
    simp only [List.append_assoc, List.cons_append]
  rw [received_eq, receivedFrom, split, readHeaders_line noFeed]
  -- The spoiled line is a fault, or leaves the frame without a length.
  rcases headerLine_spoiled chars frontBegun second.length with other | ⟨fault, wrong⟩
  · rw [← written] at other
    simp only [List.reverse_nil, List.replicate_zero, List.nil_append, other]
    rw [readHeaders_blankLine]
    rfl
  · rw [← written] at wrong
    simp only [List.reverse_nil, List.replicate_zero, List.nil_append, wrong]

/-- Bytes of a frame that complete another payload do not complete one that ends a line of text. -/
theorem not_completed {front : List UInt8} (ends : second = front ++ [125]) (noFeed : 10 ∉ second)
    {start : List UInt8} {count : Nat} (some : 0 < count) :
    second ≠ start ++ (writeFrame second ++ tail).take count := by
  intro completed
  rw [writeFrame_eq, List.append_assoc, List.cons_append] at completed
  by_cases inLine : count ≤ (lengthBytes second.length).length
  · -- The last byte would be one of the header line.
    rw [List.take_append_of_le_length inLine] at completed
    have taken : (lengthBytes second.length).take count ≠ [] := by
      intro nothing
      rcases List.take_eq_nil_iff.mp nothing with none | empty
      · omega
      · rw [empty] at inLine
        -- A brace ends the payload, and no header line has one.
        simp only [List.length_nil] at inLine
        omega
    obtain ⟨init, last, split⟩ :
        ∃ init last, (lengthBytes second.length).take count = init ++ [last] :=
      ⟨_, _, (List.dropLast_concat_getLast taken).symm⟩
    have inLine : last ∈ lengthBytes second.length := List.mem_of_mem_take (by rw [split]; simp)
    have same := congrArg List.getLast? (ends.symm.trans completed)
    rw [split, ← List.append_assoc, List.getLast?_concat, List.getLast?_concat,
      Option.some.injEq] at same
    exact (lengthBytes_plain inLine).2 same.symm
  · -- The line feed behind the header line would be one of the payload.
    -- A payload holds no line feed.
    refine noFeed ?_
    rw [completed, List.take_append]
    have behind : 0 < count - (lengthBytes second.length).length := by omega
    obtain ⟨k, positive⟩ := Nat.exists_eq_succ_of_ne_zero (Nat.ne_of_gt behind)
    rw [positive, List.take_succ_cons]
    simp

/-- A frame is not received behind a part of another payload. -/
theorem received_ne_of_payload {front start : List UInt8} (begins : start <+: first)
    (ends : second = front ++ [125]) (noFeed : 10 ∉ second) (fits : second.length ≤ greatestPayload) :
    (match readHeaders false ⟨some first.length, true⟩ []
        ([13] ++ 10 :: start ++ (writeFrame second ++ tail)) with
      | .frame payload rest => payload :: received rest
      | _ => []) ≠ [second] := by
  -- If a payload is read at all, it is the other one, completed by the bytes of the frame.
  intro got
  have blank : [13] ++ 10 :: start ++ (writeFrame second ++ tail) =
      13 :: 10 :: (start ++ (writeFrame second ++ tail)) := rfl
  rw [blank, readHeaders_blankLine, readPayload] at got
  split at got
  · rename_i payload rest reads
    rw [List.cons.injEq] at got
    obtain ⟨rfl, nothing⟩ := got
    split at reads
    · cases reads
    · split at reads
      · rw [FrameReading.frame.injEq] at reads
        obtain ⟨taken, left⟩ := reads
        have count : start.length ≤ first.length := begins.length_le
        rw [List.take_append, List.take_of_length_le count] at taken
        rcases Nat.eq_zero_or_pos (first.length - start.length) with none | some
        · -- The other payload is whole, and the frame is received behind it.
          have whole : first.length ≤ start.length := by omega
          rw [List.drop_append, List.drop_of_length_le (by omega), none, List.drop_zero,
            List.nil_append] at left
          rw [← left, received_eq, receivedFrom_writeFrame fits] at nothing
          -- A payload that is not whole is completed by the frame, and is not the one that was sent.
          cases nothing
        · exact not_completed ends noFeed some taken.symm
      · cases reads
  · cases got

/-- A frame is received behind a part of another one only if that part is harmless. -/
theorem harmless_of_received {front : List UInt8} (begins : part <+: writeFrame first)
    (ends : second = front ++ [125]) (noFeed : 10 ∉ second) (fits : second.length ≤ greatestPayload)
    (got : received (part ++ writeFrame second ++ tail) = [second]) : Harmless part := by
  -- The part ends in the header line, in the blank line, or in the payload.
  rw [writeFrame_eq] at begins
  rcases prefix_append_cases begins with inLine | ⟨more, rfl, reaches⟩
  · by_cases empty : part = []
    · exact .inl empty
    · -- A header line that goes on with the frame's own spoils both.
      rw [received_spoiledLine inLine empty] at got
      cases got
  · cases more with
    | nil =>
      rw [List.append_nil] at got
      have begun : lengthBytes first.length ≠ [] := by
        rw [lengthBytes_eq]
        simp
      rw [received_spoiledLine (List.prefix_refl _) begun] at got
      cases got
    | cons b more =>
      obtain ⟨rfl, behind⟩ := List.cons_prefix_cons.mp reaches
      have line : (lengthBytes first.length ++ 10 :: more) ++ writeFrame second ++ tail =
          lengthBytes first.length ++ 10 :: (more ++ (writeFrame second ++ tail)) := by
        simp only [List.append_assoc, List.cons_append]
      rw [received_eq, receivedFrom, line] at got
      -- The header line is whole, so that what follows is the blank line and the payload.
      by_cases small : first.length ≤ greatestWritten
      · rw [readHeaders_lengthLine 0 small] at got
        have shallow : 13 :: 10 :: first = [13] ++ 10 :: first := rfl
        rw [shallow] at behind
        rcases prefix_append_cases behind with inBlank | ⟨more, rfl, inside⟩
        · -- Nothing of the payload is written.
          right
          refine ⟨first.length, small, ?_⟩
          rcases List.prefix_cons_iff.mp inBlank with rfl | ⟨none, rfl, empty⟩
          · exact .inl rfl
          · rw [List.prefix_nil.mp empty]
            exact .inr rfl
        · cases more with
          | nil => exact .inr ⟨first.length, small, .inr rfl⟩
          | cons b more =>
            obtain ⟨rfl, start⟩ := List.cons_prefix_cons.mp inside
            exact absurd got (received_ne_of_payload start ends noFeed fits)
      · -- A length that cannot be written is a fault, and nothing is received behind it.
        obtain ⟨fault, faulty⟩ : ∃ fault, readHeaders false ⟨none, false⟩ (List.replicate 0 13)
            (lengthBytes first.length ++ 10 :: (more ++ (writeFrame second ++ tail))) =
              .faulty fault := readHeaders_longLine 0 small
        rw [faulty] at got
        cases got

end Spoiled

end TemplateFacts.Wire
