import Mathlib.Data.Bool.AllAny
import TemplateFacts.Proofs.Text.Blank
import TemplateFacts.Proofs.Utf8
import TemplateFacts.Wire.Frame

/-!
Reading undoes writing: a frame that has arrived as a whole is read as its payload, and one that has
arrived in part is waited for. Both hold as well behind headers that lead nowhere, as long as these
leave a line at its beginning. So frames that stand side by side are read one after another, each as
its payload, whatever their payloads hold.
-/

namespace TemplateFacts.Wire

section Lines

variable {ended : Bool} {headers : Headers} {line bytes rest : List UInt8}

/-- Bytes without a line feed are gathered in the line in hand. -/
theorem readHeaders_append (noFeed : 10 ∉ bytes) :
    readHeaders ended headers line (bytes ++ rest) =
      readHeaders ended headers (bytes.reverse ++ line) rest := by
  -- By induction on the bytes, each of which goes to the front of the line in hand, that is kept reversed.
  induction bytes generalizing line with
  | nil => rfl
  | cons b bytes ih =>
    rw [List.mem_cons, not_or] at noFeed
    have other : (b == 10) = false := beq_eq_false_iff_ne.mpr (Ne.symm noFeed.1)
    rw [List.cons_append, readHeaders]
    simp only [other, Bool.false_eq_true, if_false]
    rw [ih noFeed.2, List.reverse_cons, List.append_assoc, List.singleton_append]

/-- A line that has not ended yet is waited for. -/
theorem readHeaders_unfinished (noFeed : 10 ∉ bytes) :
    readHeaders false headers line bytes = .unfinished := by
  -- Without a line feed no line ends, and more bytes may come.
  rw [← List.append_nil bytes, readHeaders_append noFeed, readHeaders]
  simp only [Bool.not_false, if_true]

/-- What is read behind a whole line depends on what the line says. -/
theorem readHeaders_line (noFeed : 10 ∉ bytes) :
    readHeaders ended headers line (bytes ++ 10 :: rest) =
      match headerLine (line.reverse ++ bytes ++ [10]) with
      | .wrong fault => .faulty fault
      | .blank =>
        if headers.begun then readPayload ended headers.length rest
        else readHeaders ended headers [] rest
      | .length n => readHeaders ended ⟨some n, true⟩ [] rest
      | .other => readHeaders ended { headers with begun := true } [] rest := by
  -- The line feed completes the line in hand, which is turned around for the first time.
  have whole : line.reverse ++ bytes ++ [10] = (10 :: (bytes.reverse ++ line)).reverse := by simp
  rw [readHeaders_append noFeed, whole]
  rfl

/-- A line in which the stream ends is read as a whole one. -/
theorem readHeaders_last (noFeed : 10 ∉ bytes) :
    readHeaders true headers [] bytes =
      if bytes = [] then if headers.begun then .faulty .endInHeaders else .ended
      else match headerLine bytes with
        | .wrong fault => .faulty fault
        | .blank => if headers.begun then readPayload true headers.length [] else .ended
        | _ => .faulty .endInHeaders := by
  -- The bytes are gathered in the line in hand, which the end of the stream makes a line.
  have gathered : readHeaders true headers [] (bytes ++ []) =
      readHeaders true headers (bytes.reverse ++ []) [] := readHeaders_append noFeed
  rw [List.append_nil, List.append_nil] at gathered
  rw [gathered]
  by_cases none : bytes = []
  · rw [if_pos none, none]
    rfl
  · obtain ⟨b, more, turned⟩ := List.exists_cons_of_ne_nil (mt List.reverse_eq_nil_iff.mp none)
    have whole : bytes = (b :: more).reverse := by rw [← turned, List.reverse_reverse]
    rw [if_neg none, turned, whole]
    rfl

end Lines

/-- The header line that tells a length, without its end. -/
def lengthChars (n : Nat) : List Char := lengthName.toList ++ ':' :: ' ' :: Nat.toDigits 10 n

/-- The bytes of the header line that tells a length, with a carriage return behind them. -/
def lengthBytes (n : Nat) : List UInt8 := Utf8.encode (String.ofList (lengthChars n ++ ['\r']))

/-- A frame is a header line for the length, a blank line, and the payload. -/
theorem writeFrame_eq (payload : List UInt8) :
    writeFrame payload = lengthBytes payload.length ++ 10 :: 13 :: 10 :: payload := by
  -- The pieces of the written header are put together in another way.
  have header : s!"{lengthName}: {payload.length}\r\n\r\n" =
      String.ofList (lengthChars payload.length ++ ['\r']) ++ "\n\r\n" := by
    have itself (s : String) : toString s = s := rfl
    rw [← String.toList_inj]
    simp [lengthChars, itself]
  rw [writeFrame, header, Utf8.encode_append, lengthBytes, List.append_assoc]
  rfl

/-- The characters of a header line for a length are letters, digits, and a few marks. -/
theorem lengthChars_plain {n : Nat} {c : Char} (member : c ∈ lengthChars n ++ ['\r']) :
    c.toNat < 123 ∧ c ≠ '\n' := by
  -- The name is a closed text, and the digits are bounded by the rule for digits.
  simp only [lengthChars, List.mem_append, List.mem_cons, List.not_mem_nil, or_false] at member
  rcases member with (name | rfl | rfl | digit) | rfl
  · have all : ∀ c ∈ lengthName.toList, c.toNat < 123 ∧ c ≠ '\n' :=
      List.all_iff_forall_prop.mp (by decide)
    exact all c name
  · decide
  · decide
  · have isDigit := Text.isDigit_of_mem_toDigits digit
    simp only [Text.isDigit, Bool.and_eq_true, decide_eq_true_eq] at isDigit
    constructor
    · have greatest : c.toNat ≤ 57 := isDigit.2
      omega
    · rintro rfl
      exact absurd isDigit.1 (by decide)
  · decide

/-- The header line for a length has one byte for each of its characters. -/
theorem lengthBytes_eq (n : Nat) :
    lengthBytes n = (lengthChars n ++ ['\r']).map fun c => UInt8.ofNat c.toNat :=
  Utf8.encode_ascii fun _ member => Nat.lt_trans (lengthChars_plain member).1 (by decide)

/-- The header line for a length has no line feed before its end, and no brace. -/
theorem lengthBytes_plain {n : Nat} {b : UInt8} (member : b ∈ lengthBytes n) : b ≠ 10 ∧ b ≠ 125 := by
  rw [lengthBytes_eq] at member
  obtain ⟨c, inside, byte⟩ := List.mem_map.mp member
  have plain : c.toNat < 123 ∧ c ≠ '\n' := lengthChars_plain inside
  -- A byte below 128 is the number of its character, so that what holds of characters holds of bytes.
  have code : b.toNat = c.toNat := by
    rw [← byte, UInt8.toNat_ofNat_of_lt' (Nat.lt_trans plain.1 (by decide))]
  constructor
  · rintro rfl
    exact plain.2 (Char.toNat_inj.mp code.symm)
  · rintro rfl
    exact absurd (code.trans_lt plain.1) (by decide)

/-- A part of the header line for a length is a part of its characters, one byte for each. -/
theorem chars_of_prefix {n : Nat} {part : List UInt8} (begins : part <+: lengthBytes n) :
    ∃ cs, cs <+: lengthChars n ++ ['\r'] ∧ part = Utf8.encode (String.ofList cs) := by
  -- The line is ASCII, so a front of its bytes encodes a front of its characters.
  rw [lengthBytes_eq] at begins
  obtain ⟨cs, inside, same⟩ := List.prefix_map_iff.mp begins
  refine ⟨cs, inside, ?_⟩
  rw [same, Utf8.encode_ascii fun c member =>
    Nat.lt_trans (lengthChars_plain (inside.subset member)).1 (by decide)]

/-- The header line for a length has no line feed before its end. -/
theorem noFeed_lengthBytes (n : Nat) : 10 ∉ lengthBytes n :=
  fun feed => (lengthBytes_plain feed).1 rfl

/-- Frames with the same bytes carry the same payload. -/
theorem writeFrame_injective {first second : List UInt8}
    (same : writeFrame first = writeFrame second) : first = second := by
  -- The first line feed of each ends its header line.
  have cutLine (payload : List UInt8) :
      (writeFrame payload).dropWhile (· != 10) = 10 :: 13 :: 10 :: payload := by
    have noFeed : ∀ b ∈ lengthBytes payload.length, (b != 10) = true :=
      fun b member => bne_iff_ne.mpr (lengthBytes_plain member).1
    rw [writeFrame_eq, List.dropWhile_append_of_pos noFeed, List.dropWhile_cons_of_neg (by decide)]
  have cut := congrArg (List.dropWhile (· != 10)) same
  rw [cutLine, cutLine] at cut
  simpa using cut

/-- The end of a line is cut off, however many carriage returns it has. -/
theorem withoutEnd_append {cs ends : List Char} {last : Char}
    (isEnd : ∀ c ∈ ends, c = '\r' ∨ c = '\n') (kept : last ≠ '\r' ∧ last ≠ '\n') :
    (withoutEnd (String.ofList (cs ++ last :: ends))).toList = cs ++ [last] := by
  -- The end is looked for from behind, where only the marks come before the last character.
  have drops : ∀ c ∈ ends.reverse, (c == '\r' || c == '\n') = true := by
    intro c member
    rw [List.mem_reverse] at member
    rcases isEnd c member with rfl | rfl <;> rfl
  have keeps : (last == '\r' || last == '\n') = false := by simp [kept]
  simp only [withoutEnd, String.toList_ofList, List.reverse_append, List.reverse_cons,
    List.append_assoc, List.singleton_append]
  rw [List.dropWhile_append_of_pos drops, List.dropWhile_cons_of_neg (by simp [kept]),
    List.reverse_cons, List.reverse_reverse]

/-- What a line says depends on what it holds before its end. -/
theorem headerLine_of_withoutEnd {cs header : List Char}
    (kept : (withoutEnd (String.ofList cs)).toList = header) (nonempty : header ≠ []) :
    headerLine (Utf8.encode (String.ofList cs)) =
      match header.dropWhile (· != ':') with
      | [] => .other
      | _ :: value =>
        if Text.asciiCaseEq (Text.trim (String.ofList (header.takeWhile (· != ':')))) lengthName
        then lengthOfValue value
        else .other := by
  -- The bytes are text, and something stands before the end of the line.
  have some : header.isEmpty = false := List.isEmpty_eq_false_iff.mpr nonempty
  generalize behind : header.dropWhile (· != ':') = value
  cases value <;> simp only [headerLine, Utf8.decode_encode, kept, some, behind, Bool.false_eq_true, if_false]

/-- What stands before the header for a length is part of the name, or of the value. -/
theorem headerLine_front (front : List Char) (n : Nat) :
    headerLine (Utf8.encode (String.ofList front) ++ lengthBytes n ++ [10]) =
      match (front ++ lengthChars n).dropWhile (· != ':') with
      | [] => .other
      | _ :: value =>
        if Text.asciiCaseEq (Text.trim (String.ofList
            ((front ++ lengthChars n).takeWhile (· != ':')))) lengthName then lengthOfValue value
        else .other := by
  -- The line ends behind its last digit.
  obtain ⟨digits, last, written⟩ : ∃ digits last, Nat.toDigits 10 n = digits ++ [last] :=
    ⟨_, _, (List.dropLast_concat_getLast Nat.toDigits_ne_nil).symm⟩
  have isDigit : Text.isDigit last = true :=
    Text.isDigit_of_mem_toDigits (n := n) (by rw [written]; simp)
  have kept : last ≠ '\r' ∧ last ≠ '\n' := by
    constructor <;> (rintro rfl; revert isDigit; decide)
  -- The last character of the line is set apart, since what comes before it does not matter for the cut.
  have chars : front ++ lengthChars n = (front ++ lengthName.toList ++ [':', ' '] ++ digits) ++ [last] := by
    simp [lengthChars, written]
  have bytes : Utf8.encode (String.ofList front) ++ lengthBytes n ++ [10] =
      Utf8.encode (String.ofList (front ++ lengthChars n ++ ['\r', '\n'])) := by
    -- The line feed is text as well, so that the whole line is decoded in one piece.
    have feed : ([10] : List UInt8) = Utf8.encode (String.ofList ['\n']) := rfl
    rw [lengthBytes, feed, ← Utf8.encode_append, ← Utf8.encode_append, ← String.ofList_append,
      ← String.ofList_append]
    simp only [List.append_assoc, List.singleton_append]
  have isEnd : ∀ c ∈ ['\r', '\n'], c = '\r' ∨ c = '\n' :=
    List.all_iff_forall_prop.mp (by decide)
  have header : (withoutEnd (String.ofList (front ++ lengthChars n ++ ['\r', '\n']))).toList =
      front ++ lengthChars n := by
    rw [chars, List.append_assoc, List.singleton_append, withoutEnd_append isEnd kept]
  have nonempty : front ++ lengthChars n ≠ [] := by
    rw [chars]
    simp
  rw [bytes, headerLine_of_withoutEnd header nonempty]

/-- The name of the header for the length is no longer than its colon. -/
theorem split_lengthChars {front : List Char} (noColon : ':' ∉ front) (n : Nat) :
    (front ++ lengthChars n).takeWhile (· != ':') = front ++ lengthName.toList ∧
      (front ++ lengthChars n).dropWhile (· != ':') = ':' :: ' ' :: Nat.toDigits 10 n := by
  -- Every character up to the colon is taken, and none of the value.
  have named : ∀ c ∈ front ++ lengthName.toList, (c != ':') = true := by
    intro c member
    rw [bne_iff_ne]
    rintro rfl
    rcases List.mem_append.mp member with before | name
    · exact noColon before
    · exact absurd name (by decide)
  rw [lengthChars, ← List.append_assoc, List.takeWhile_append_of_pos named,
    List.dropWhile_append_of_pos named]
  constructor
  · rw [List.takeWhile_cons_of_neg (by decide), List.append_nil]
  · rw [List.dropWhile_cons_of_neg (by decide)]

/-- The value of the header for a length is this length, unless it is no machine word. -/
theorem lengthOfValue_toDigits (n : Nat) :
    lengthOfValue (' ' :: Nat.toDigits 10 n) =
      if n ≤ greatestWritten then .length n
      else .wrong (.wrongLength (Text.trim (String.ofList (' ' :: Nat.toDigits 10 n)))) := by
  -- The blank behind the colon is stripped off, and digits are none.
  have trimmed : (Text.trim (String.ofList (' ' :: Nat.toDigits 10 n))).toList =
      Nat.toDigits 10 n := by
    rw [Text.trim, String.toList_ofList, String.toList_ofList, ← List.singleton_append,
      Text.stripChars_append (List.all_iff_forall_prop.mp (by decide)), Text.stripChars_toDigits]
  simp only [lengthOfValue, trimmed, Text.readSignedNat?_toDigits]

/-- Carriage returns in front of the header for a length are blanks of its name. -/
theorem headerLine_returns (k n : Nat) :
    headerLine (List.replicate k 13 ++ lengthBytes n ++ [10]) =
      lengthOfValue (' ' :: Nat.toDigits 10 n) := by
  -- The returns are text as well, and are stripped from the name like any blank.
  have returns : (List.replicate k 13 : List UInt8) =
      Utf8.encode (String.ofList (List.replicate k '\r')) := by
    have ascii : ∀ c ∈ List.replicate k '\r', c.toNat < 128 := by
      intro c member
      rw [(List.mem_replicate.mp member).2]
      decide
    rw [Utf8.encode_ascii ascii, List.map_replicate]
    rfl
  -- The colon is the first one of the line, and so the returns belong to the name.
  have noColon : ':' ∉ List.replicate k '\r' := by
    intro member
    exact absurd (List.mem_replicate.mp member).2 (by decide)
  have stripped : Text.stripChars Text.isBlank (List.replicate k '\r' ++ lengthName.toList) =
      lengthName.toList := by
    have blank : ∀ c ∈ List.replicate k '\r', Text.isBlank c = true := by
      intro c member
      rw [(List.mem_replicate.mp member).2]
      decide
    rw [Text.stripChars_append blank]
    decide
  obtain ⟨name, value⟩ := split_lengthChars noColon n
  rw [returns, headerLine_front, name, value]
  have named : Text.trim (String.ofList (List.replicate k '\r' ++ lengthName.toList)) =
      lengthName := by
    rw [Text.trim, String.toList_ofList, stripped, String.ofList_toList]
  simp only [named, Text.asciiCaseEq, BEq.rfl, if_true]

/-- The greatest payload has a length that a header can tell. -/
theorem writable_of_fits {n : Nat} (fits : n ≤ greatestPayload) : n ≤ greatestWritten :=
  Nat.le_trans fits (by decide)

section Frames

variable {ended : Bool} {headers : Headers} {payload rest : List UInt8}

/-- A frame is read as far as its payload. -/
theorem readHeaders_lengthLine (k : Nat) {n : Nat} (small : n ≤ greatestWritten) :
    readHeaders ended headers (List.replicate k 13) (lengthBytes n ++ 10 :: rest) =
      readHeaders ended ⟨some n, true⟩ [] rest := by
  -- The line is the number's own, with the carriage return before its end.
  rw [readHeaders_line (noFeed_lengthBytes n), List.reverse_replicate, headerLine_returns k,
    lengthOfValue_toDigits, if_pos small]

/-- A length that is no machine word is a fault. -/
theorem readHeaders_longLine (k : Nat) {n : Nat} (long : ¬ n ≤ greatestWritten) :
    ∃ fault, readHeaders ended headers (List.replicate k 13) (lengthBytes n ++ 10 :: rest) =
      .faulty fault := by
  -- The carriage returns are cut off, and the number behind them is too great to be written.
  rw [readHeaders_line (noFeed_lengthBytes n), List.reverse_replicate, headerLine_returns k,
    lengthOfValue_toDigits, if_neg long]
  exact ⟨_, rfl⟩

/-- A blank line behind a header ends the headers. -/
theorem readHeaders_blankLine {length : Option Nat} :
    readHeaders ended ⟨length, true⟩ [] (13 :: 10 :: rest) = readPayload ended length rest := by
  have noFeed : (10 : UInt8) ∉ [13] := by decide
  have blank : headerLine [13, 10] = .blank := by decide
  -- The carriage return alone is the line, which is blank.
  show readHeaders ended ⟨length, true⟩ [] ([13] ++ 10 :: rest) = _
  rw [readHeaders_line noFeed]
  simp only [List.reverse_nil, List.nil_append, List.singleton_append, blank, if_true]

/-- A whole frame is read as its payload, whatever follows it. -/
theorem readHeaders_writeFrame (k : Nat) (fits : payload.length ≤ greatestPayload) :
    readHeaders ended headers (List.replicate k 13) (writeFrame payload ++ rest) =
      .frame payload rest := by
  -- The length line, the blank line and the payload, read one behind the other.
  have notTooLong : ¬ greatestPayload < payload.length := Nat.not_lt.mpr fits
  rw [writeFrame_eq, List.append_assoc, List.cons_append, List.cons_append, List.cons_append,
    readHeaders_lengthLine k (writable_of_fits fits), readHeaders_blankLine]
  simp [readPayload, notTooLong]

/-- A whole frame at the beginning of a stream is read as its payload. -/
theorem readFrame_writeFrame (fits : payload.length ≤ greatestPayload) :
    readFrame ended (writeFrame payload ++ rest) = .frame payload rest :=
  readHeaders_writeFrame 0 fits

/-- A beginning of two parts lies inside the first one, or reaches into the second one. -/
theorem prefix_append_cases {α : Type} {part first second : List α} (begins : part <+: first ++ second) :
    part <+: first ∨ ∃ more, part = first ++ more ∧ more <+: second := by
  -- The part ends within the first list or reaches over it.
  obtain ⟨left, whole⟩ := begins
  rcases List.append_eq_append_iff.mp whole with ⟨more, inside, _⟩ | ⟨more, reaches, behind⟩
  · exact .inl ⟨more, inside.symm⟩
  · exact .inr ⟨more, reaches, left, behind.symm⟩

/-- A blank line and a payload that have not arrived as a whole are waited for. -/
theorem readHeaders_partBehindLine {part : List UInt8} (fits : payload.length ≤ greatestPayload)
    (begins : part <+: 13 :: 10 :: payload) (isPart : part ≠ 13 :: 10 :: payload) :
    readHeaders false ⟨some payload.length, true⟩ [] part = .unfinished := by
  -- The carriage return has not come, or the line feed has not, or some of the payload.
  have split : part <+: [13] ++ 10 :: payload := begins
  rcases prefix_append_cases split with inLine | ⟨more, rfl, reaches⟩
  · exact readHeaders_unfinished fun feed => absurd (inLine.subset feed) (by decide)
  · cases more with
    | nil => exact readHeaders_unfinished (by decide)
    | cons b more =>
      obtain ⟨rfl, behind⟩ := List.cons_prefix_cons.mp reaches
      -- What has come of the payload is less than its length.
      have shorter : more.length < payload.length := by
        refine Nat.lt_of_le_of_ne behind.length_le fun same => isPart ?_
        rw [behind.eq_of_length same]
        rfl
      have notTooLong : ¬ greatestPayload < payload.length := Nat.not_lt.mpr fits
      have notThere : ¬ payload.length ≤ more.length := Nat.not_le.mpr shorter
      show readHeaders false ⟨some payload.length, true⟩ [] (13 :: 10 :: more) = .unfinished
      rw [readHeaders_blankLine]
      simp only [readPayload]
      rw [if_neg notTooLong, if_neg notThere, if_neg Bool.false_ne_true]

/-- A frame that has not arrived as a whole is waited for. -/
theorem readHeaders_part (k : Nat) {part : List UInt8} (fits : payload.length ≤ greatestPayload)
    (begins : part <+: writeFrame payload) (isPart : part ≠ writeFrame payload) :
    readHeaders false headers (List.replicate k 13) part = .unfinished := by
  -- The part ends in the header line, or behind it.
  rw [writeFrame_eq] at begins isPart
  have noFeed : 10 ∉ lengthBytes payload.length := noFeed_lengthBytes payload.length
  rcases prefix_append_cases begins with inLine | ⟨more, rfl, reaches⟩
  · exact readHeaders_unfinished fun feed => noFeed (inLine.subset feed)
  · cases more with
    | nil =>
      rw [List.append_nil]
      exact readHeaders_unfinished noFeed
    | cons b more =>
      obtain ⟨rfl, behind⟩ := List.cons_prefix_cons.mp reaches
      -- The header line is there as a whole, and what is behind it is waited for.
      rw [readHeaders_lengthLine k (writable_of_fits fits)]
      refine readHeaders_partBehindLine fits behind fun same => isPart ?_
      rw [same]

/-- A frame at the beginning of a stream that has not arrived as a whole is waited for. -/
theorem readFrame_part {part : List UInt8} (fits : payload.length ≤ greatestPayload)
    (begins : part <+: writeFrame payload) (isPart : part ≠ writeFrame payload) :
    readFrame false part = .unfinished :=
  readHeaders_part 0 fits begins isPart

end Frames

/-- Some payloads as they are sent, each in a frame. -/
def stream (payloads : List (List UInt8)) : List UInt8 := payloads.flatMap writeFrame

/-- Reads as many frames as told, one after another: their payloads, and the bytes behind them. -/
def readMany (ended : Bool) : (count : Nat) → List UInt8 → Option (List (List UInt8) × List UInt8)
  -- Each frame is read where the one before it ended.
  | 0, bytes => some ([], bytes)
  | count + 1, bytes =>
    match readFrame ended bytes with
    | .frame payload rest =>
      (readMany ended count rest).map fun (payloads, left) => (payload :: payloads, left)
    | _ => none

section Progress

variable {ended : Bool} {headers : Headers} {line bytes payload rest : List UInt8}

/-- A payload is cut off the bytes that it is read from. -/
theorem readPayload_length_le {length : Option Nat}
    (reads : readPayload ended length bytes = .frame payload rest) : rest.length ≤ bytes.length := by
  -- Only one branch gives a frame, and there the payload is cut off the bytes.
  unfold readPayload at reads
  cases length with
  | none => cases reads
  | some n =>
    dsimp only at reads
    split at reads
    · cases reads
    · split at reads
      · cases reads
        rw [List.length_drop]
        exact Nat.sub_le _ _
      · split at reads <;> cases reads

/-- A frame is cut off the bytes that it is read from, and takes one at least if there is any. -/
theorem readHeaders_length_le (reads : readHeaders ended headers line bytes = .frame payload rest) :
    rest.length ≤ bytes.length - 1 := by
  -- By induction on the bytes; wherever reading goes on, it goes on with fewer of them.
  induction bytes generalizing headers line with
  | nil =>
    -- At the end a payload is read of nothing, and leaves nothing.
    rw [readHeaders] at reads
    split at reads
    · cases reads
    · split at reads
      · split at reads <;> cases reads
      · split at reads
        · cases reads
        · split at reads
          · exact readPayload_length_le reads
          · cases reads
        · cases reads
  | cons b bytes ih =>
    have shorter {headers : Headers} {line : List UInt8}
        (later : readHeaders ended headers line bytes = .frame payload rest) : rest.length ≤ bytes.length :=
      Nat.le_trans (ih later) (Nat.sub_le _ _)
    rw [readHeaders] at reads
    split at reads
    · split at reads
      · cases reads
      · split at reads
        · exact readPayload_length_le reads
        · exact shorter reads
      · exact shorter reads
      · exact shorter reads
    · exact shorter reads

/-- Every frame takes a byte at least. -/
theorem readFrame_length_lt (reads : readFrame ended bytes = .frame payload rest) :
    rest.length < bytes.length := by
  cases bytes with
  | nil =>
    -- Outside of a header the end of the stream is in order, and no frame.
    rw [readFrame, readHeaders] at reads
    cases ended <;> cases reads
  | cons b bytes => exact Nat.lt_succ_of_le (readHeaders_length_le reads)

end Progress

/-- Frames that can be read one after another are all read, up to what stops the reader. -/
theorem framesOf_of_readMany {count : Nat} {bytes left : List UInt8} {payloads : List (List UInt8)}
    {fault : Option FrameFault} (reads : readMany true count bytes = some (payloads, left))
    (stops : readFrame true left = match fault with | none => .ended | some f => .faulty f) :
    framesOf bytes = (payloads, fault) := by
  -- By induction on the frames read; each one leaves fewer bytes, so that the fuel lasts.
  have bounded (fuel : Nat) (enough : bytes.length < fuel) : readFrames fuel bytes = (payloads, fault) := by
    induction count generalizing bytes payloads fuel with
    | zero =>
      -- What is left does not begin with a frame.
      cases reads
      obtain ⟨fuel, rfl⟩ := Nat.exists_eq_add_one_of_ne_zero (Nat.ne_of_gt (Nat.zero_lt_of_lt enough))
      cases fault <;> simp only [readFrames, stops]
    | succ count ih =>
      obtain ⟨fuel, rfl⟩ := Nat.exists_eq_add_one_of_ne_zero (Nat.ne_of_gt (Nat.zero_lt_of_lt enough))
      rw [readMany] at reads
      split at reads
      · rename_i payload rest first
        obtain ⟨⟨more, left'⟩, reads', same⟩ := Option.map_eq_some_iff.mp reads
        cases same
        -- The fuel goes with the bytes, and each frame takes at least one of them.
        have shorter : rest.length < bytes.length := readFrame_length_lt first
        simp only [readFrames, first, ih reads' fuel (by omega)]
      · cases reads
  exact bounded _ (Nat.lt_succ_self _)

/-- The frames of some payloads are read one after another, whatever follows them. -/
theorem readMany_stream_append {payloads : List (List UInt8)} (ended : Bool)
    (fits : ∀ payload ∈ payloads, payload.length ≤ greatestPayload) (rest : List UInt8) :
    readMany ended payloads.length (stream payloads ++ rest) = some (payloads, rest) := by
  -- By induction on the payloads: the first frame is read, and leaves the others behind it.
  induction payloads with
  | nil => rfl
  | cons payload payloads ih =>
    have behind := ih fun other member => fits other (List.mem_cons_of_mem _ member)
    rw [stream, List.flatMap_cons, List.append_assoc, List.length_cons, readMany,
      readFrame_writeFrame (fits payload List.mem_cons_self)]
    rw [stream] at behind
    simp only [behind, Option.map_some]

/-- Reading undoes writing: a stream of frames is read as the payloads that were written, in order and
up to where it ends, and behind the last frame there is nothing left to read. -/
theorem reads_what_was_written {payloads : List (List UInt8)}
    (fits : ∀ payload ∈ payloads, payload.length ≤ greatestPayload) :
    (∀ ended rest,
      readMany ended payloads.length (stream payloads ++ rest) = some (payloads, rest)) ∧
    (∃ left, readMany true payloads.length (stream payloads) = some (payloads, left) ∧
      readFrame true left = .ended) ∧
    framesOf (stream payloads) = (payloads, none) := by
  -- With nothing behind the stream, the reader is left at its end.
  have whole : readMany true payloads.length (stream payloads) = some (payloads, []) := by
    have reads := readMany_stream_append true fits []
    rwa [List.append_nil] at reads
  exact ⟨fun ended rest => readMany_stream_append ended fits rest, ⟨[], whole, rfl⟩,
    framesOf_of_readMany whole rfl⟩

/-- Payloads that look like something else: nothing, a frame, line ends, and bytes that are no text. -/
def awkwardPayloads : List (List UInt8) :=
  [[], writeFrame [123, 125], [13, 10, 13, 10], [255, 10, 192]]

/-- Payloads that look like something else are read as they were written. -/
theorem awkward_read_back :
    (∀ payload ∈ awkwardPayloads, payload.length ≤ greatestPayload) ∧
      (∀ rest, readMany false 4 (stream awkwardPayloads ++ rest) = some (awkwardPayloads, rest)) ∧
      framesOf (stream awkwardPayloads) = (awkwardPayloads, none) := by
  -- Header lines, blank lines and carriage returns inside payloads, and an empty one.
  have fits : ∀ payload ∈ awkwardPayloads, payload.length ≤ greatestPayload := by decide
  obtain ⟨reads, _, all⟩ := reads_what_was_written fits
  exact ⟨fits, reads false, all⟩

end TemplateFacts.Wire
