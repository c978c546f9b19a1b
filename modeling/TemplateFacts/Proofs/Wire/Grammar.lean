import TemplateFacts.Proofs.Utf8.Split
import TemplateFacts.Proofs.Wire.Truncation

/-!
The grammar of frames: blank lines, header lines of which one at least tells a length, a blank line, and
as many bytes as the last length tells. Reading accepts exactly this, and what it refuses is either
nothing but line ends or a fault. So reading a stream comes to an end.
-/

namespace TemplateFacts.Wire

open Utf8 (encode)

/-- Nothing but carriage returns. -/
def IsReturns (bytes : List UInt8) : Prop := ∀ b ∈ bytes, b = 13

/-- The line has a value for the length: its part before the first colon is the name of this header,
in letters of either case and with blanks around it. -/
def Gives (line : List UInt8) (value : List Char) : Prop :=
  ∃ name, line = encode (String.ofList (name ++ ':' :: value)) ∧ ':' ∉ name ∧
    Text.asciiLower (Text.trim (String.ofList name)) = "content-length"

/-- The value is a number of 64 bits: decimal digits, perhaps with a plus sign before them and blanks
around them. -/
def Writes (value : List Char) (n : Nat) : Prop :=
  ∃ sign digits, Text.stripChars Text.isBlank value = sign ++ digits ∧
    (sign = [] ∨ sign = ['+']) ∧ digits ≠ [] ∧ (∀ c ∈ digits, Text.isDigit c = true) ∧
    Text.digitsValue digits = n ∧ n < UInt64.size

/-- A header line without its line feed. -/
structure IsHeader (line : List UInt8) : Prop where
  whole : 10 ∉ line
  notBlank : ¬ IsReturns line
  isText : ∃ s, line = encode s
  isNumber : ∀ value, Gives line value → ∃ n, Writes value n

/-- The last of the lines that have a value for the length tells this length. -/
def LastLength (lines : List (List UInt8)) (n : Nat) : Prop :=
  ∃ before line after value, lines = before ++ line :: after ∧ Gives line value ∧ Writes value n ∧
    ∀ other ∈ after, ∀ value, ¬ Gives other value

/-- Lines, each with its line feed. -/
def joined (lines : List (List UInt8)) : List UInt8 := lines.flatMap (· ++ [10])

@[simp]
theorem joined_nil : joined [] = [] := rfl

@[simp]
theorem joined_cons (line : List UInt8) (lines : List (List UInt8)) :
    joined (line :: lines) = line ++ 10 :: joined lines := by
  simp [joined]

/-- A blank line, of which the line feed may be missing where nothing follows. -/
def Closes (closing behind : List UInt8) : Prop :=
  (∃ returns, IsReturns returns ∧ closing = returns ++ [10]) ∨
    (closing ≠ [] ∧ IsReturns closing ∧ behind = [])

/-- The bytes are a frame with the payload, and the rest behind it. -/
def IsFrame (bytes payload rest : List UInt8) : Prop :=
  ∃ stray headers closing, bytes = joined stray ++ joined headers ++ closing ++ payload ++ rest ∧
    (∀ line ∈ stray, IsReturns line) ∧ (∀ line ∈ headers, IsHeader line) ∧
    Closes closing (payload ++ rest) ∧ LastLength headers payload.length ∧
    payload.length ≤ greatestPayload

section Line

variable {line : List UInt8} {cs feed value : List Char} {n : Nat}

/-- What is left of a line without its end: all of it but the carriage returns behind it. -/
theorem withoutEnd_split (isFeed : ∀ c ∈ feed, c = '\n') (noFeed : '\n' ∉ cs) :
    ∃ header returns, cs = header ++ returns ∧ (∀ c ∈ returns, c = '\r') ∧
      (withoutEnd (String.ofList (cs ++ feed))).toList = header ∧
      (header = [] ↔ ∀ c ∈ cs, c = '\r') := by
  -- In a line without a line feed only carriage returns are marks of its end.
  generalize isEnd : (fun c => c == '\r' || c == '\n') = test
  have ends {c : Char} (inside : c ∈ cs) : test c = true ↔ c = '\r' := by
    have other : c ≠ '\n' := fun same => noFeed (same ▸ inside)
    simp [← isEnd, other]
  have fed : ∀ c ∈ feed.reverse, test c = true := by
    intro c member
    rw [isFeed c (List.mem_reverse.mp member), ← isEnd]
    rfl
  refine ⟨(cs.reverse.dropWhile test).reverse, (cs.reverse.takeWhile test).reverse, ?_, ?_, ?_, ?_⟩
  · -- The header is what is in front of the last mark, and the marks are what is behind.
    rw [← List.reverse_append, List.takeWhile_append_dropWhile, List.reverse_reverse]
  · intro c member
    have taken := List.mem_reverse.mp member
    have inside : c ∈ cs := List.mem_reverse.mp ((List.takeWhile_prefix test).subset taken)
    exact (ends inside).mp (List.mem_takeWhile_imp taken)
  · -- The line feed is a mark as well, and goes with the returns.
    rw [withoutEnd, String.toList_ofList, String.toList_ofList, isEnd, List.reverse_append,
      List.dropWhile_append_of_pos fed]
  · -- Nothing is left of the line if all of it is marks.
    rw [List.reverse_eq_nil_iff, List.dropWhile_eq_nil_iff]
    constructor
    · exact fun all c inside => (ends inside).mp (all c (List.mem_reverse.mpr inside))
    · intro all c member
      have inside : c ∈ cs := List.mem_reverse.mp member
      exact (ends inside).mpr (all c inside)

/-- Carriage returns behind a value are blanks around it. -/
theorem lengthOfValue_append {returns : List Char} (isReturns : ∀ c ∈ returns, c = '\r') :
    lengthOfValue (value ++ returns) = lengthOfValue value := by
  -- A return is a blank, and so it is stripped off whatever the value is.
  have blank : ∀ c ∈ returns, Text.isBlank c = true := by
    intro c member
    rw [isReturns c member]
    decide
  have trimmed : Text.trim (String.ofList (value ++ returns)) = Text.trim (String.ofList value) := by
    rw [Text.trim, Text.trim, String.toList_ofList, String.toList_ofList,
      Text.stripChars_append_behind blank]
  rw [lengthOfValue, lengthOfValue, trimmed]

/-- A line of carriage returns says nothing. -/
theorem headerLine_of_returns (isFeed : ∀ c ∈ feed, c = '\n') (noFeed : '\n' ∉ cs)
    (returns : ∀ c ∈ cs, c = '\r') : headerLine (encode (String.ofList (cs ++ feed))) = .blank := by
  -- Once the end of line and the carriage returns are cut off nothing is left.
  obtain ⟨header, _, _, _, kept, empty⟩ := withoutEnd_split isFeed noFeed
  rw [headerLine, Utf8.decode_encode]
  simp only [kept, empty.mpr returns, List.isEmpty_nil, if_true]

/-- What any other line says depends on what stands before and behind its first colon. -/
theorem headerLine_of_some (isFeed : ∀ c ∈ feed, c = '\n') (noFeed : '\n' ∉ cs)
    (some : ¬ ∀ c ∈ cs, c = '\r') :
    headerLine (encode (String.ofList (cs ++ feed))) =
      match cs.dropWhile (· != ':') with
      | [] => .other
      | _ :: value =>
        if Text.asciiCaseEq (Text.trim (String.ofList (cs.takeWhile (· != ':')))) lengthName
        then lengthOfValue value
        else .other := by
  -- The returns behind the header have no colon, so that they stay with the value or with the name.
  obtain ⟨header, returns, rfl, isReturns, kept, empty⟩ := withoutEnd_split isFeed noFeed
  have passed : ∀ c ∈ returns, (c != ':') = true := by
    intro c member
    rw [isReturns c member]
    decide
  rw [headerLine_of_withoutEnd kept fun none => some (empty.mp none), List.dropWhile_append]
  cases behind : header.dropWhile (· != ':') with
  | nil => simp only [List.isEmpty_nil, if_true, List.dropWhile_eq_nil_iff.mpr passed]
  | cons colon value =>
    have before : (header ++ returns).takeWhile (· != ':') = header.takeWhile (· != ':') := by
      rw [List.takeWhile_append, if_neg]
      -- The name would otherwise be the whole header, which has a colon behind it.
      intro whole
      have split := congrArg List.length (List.takeWhile_append_dropWhile (p := (· != ':')) (l := header))
      rw [List.length_append, whole, behind, List.length_cons] at split
      omega
    simp only [List.isEmpty_cons, Bool.false_eq_true, if_false, List.cons_append, before,
      lengthOfValue_append isReturns]

/-- A value is a number of 64 bits, or it is none. -/
theorem writes_iff : Writes value n ↔
    Text.readSignedNat? (Text.stripChars Text.isBlank value) = some n ∧ n ≤ greatestWritten := by
  -- The bound on a word is told once as the greatest one, and once as the first that does not fit.
  rw [Text.readSignedNat?_eq_some]
  constructor
  · rintro ⟨sign, digits, same, isSign, some, isDigits, number, fits⟩
    exact ⟨⟨sign, digits, same, isSign, some, isDigits, number⟩, Nat.le_of_lt_succ fits⟩
  · rintro ⟨⟨sign, digits, same, isSign, some, isDigits, number⟩, fits⟩
    exact ⟨sign, digits, same, isSign, some, isDigits, number, Nat.lt_succ_of_le fits⟩

/-- What the value of the header for the length says. -/
theorem lengthOfValue_cases (value : List Char) :
    (∃ n, Writes value n ∧ lengthOfValue value = .length n) ∨
      (¬ ∃ n, Writes value n) ∧ ∃ fault, lengthOfValue value = .wrong fault := by
  -- Stripping a text is stripping its characters.
  have trimmed : (Text.trim (String.ofList value)).toList = Text.stripChars Text.isBlank value := by
    rw [Text.trim, String.toList_ofList, String.toList_ofList]
  simp only [lengthOfValue, trimmed, writes_iff]
  cases Text.readSignedNat? (Text.stripChars Text.isBlank value) with
  | none => exact .inr ⟨by simp, _, rfl⟩
  | some n =>
    by_cases fits : n ≤ greatestWritten
    · exact .inl ⟨n, ⟨rfl, fits⟩, if_pos fits⟩
    · refine .inr ⟨?_, _, if_neg fits⟩
      rintro ⟨m, same, fits'⟩
      exact fits (Option.some.inj same ▸ fits')

/-- What stands before and behind the first colon of a line. -/
theorem gives_iff : Gives (encode (String.ofList cs)) value ↔
    cs.dropWhile (· != ':') = ':' :: value ∧
      Text.asciiCaseEq (Text.trim (String.ofList (cs.takeWhile (· != ':')))) lengthName = true := by
  have lowered : Text.asciiLower lengthName = "content-length" := by decide
  constructor
  · -- The name is all that comes before the colon, since it has none itself.
    rintro ⟨name, same, noColon, named⟩
    obtain rfl : cs = name ++ ':' :: value := String.ofList_inj.mp (Utf8.encode_injective same)
    have passed : ∀ c ∈ name, (c != ':') = true := by
      intro c member
      rw [bne_iff_ne]
      rintro rfl
      exact noColon member
    rw [List.dropWhile_append_of_pos passed, List.takeWhile_append_of_pos passed,
      List.dropWhile_cons_of_neg (by decide), List.takeWhile_cons_of_neg (by decide),
      List.append_nil, Text.asciiCaseEq, named, lowered]
    exact ⟨rfl, beq_self_eq_true _⟩
  · -- The line is put together again from what stands before the colon and from it on.
    rintro ⟨behind, named⟩
    rw [Text.asciiCaseEq, lowered, beq_iff_eq] at named
    refine ⟨cs.takeWhile (· != ':'), ?_, fun colon => ?_, named⟩
    · rw [← behind, List.takeWhile_append_dropWhile]
    · exact absurd (List.mem_takeWhile_imp colon) (by decide)

/-- A line feed is no part of a longer character. -/
theorem untorn_feed (line behind : List UInt8) : ¬ Utf8.Torn line (10 :: behind) := by
  -- A byte inside of a longer character continues it, and a line feed does not.
  rintro ⟨c, part, next, any, -, feed, begins⟩
  obtain ⟨rfl, -⟩ := List.cons_prefix_cons.mp feed
  obtain ⟨first, part, rfl⟩ := List.exists_cons_of_ne_nil any
  obtain ⟨more, whole⟩ := begins
  have inside : 10 ∈ (String.utf8EncodeChar c).tail := by
    rw [← whole]
    simp
  exact absurd (Utf8.isContinuation_of_mem_tail inside) (by decide)

/-- A line is text if it is with its line feed. -/
theorem isText_of_append {ending : List UInt8} (isEnd : ending = [] ∨ ending = [10]) {s : String}
    (whole : line ++ ending = encode s) : ∃ cs, line = encode (String.ofList cs) := by
  -- A line feed is a character of its own, so a text may be cut before it.
  have text : ∃ t, line = encode t := by
    rcases isEnd with rfl | rfl
    · exact ⟨s, by rw [← whole, List.append_nil]⟩
    · obtain ⟨t, _, before, -⟩ := Utf8.exists_pieces whole (untorn_feed line [])
      exact ⟨t, before⟩
  obtain ⟨t, same⟩ := text
  exact ⟨t.toList, by rw [same, String.ofList_toList]⟩

/-- Carriage returns are told by their bytes. -/
theorem isReturns_encode : IsReturns (encode (String.ofList cs)) ↔ ∀ c ∈ cs, c = '\r' := by
  -- A byte below 128 is a character by itself.
  rw [encode, String.toList_ofList]
  constructor
  · intro returns c member
    obtain ⟨b, more, written, -⟩ := Utf8.head_utf8EncodeChar c []
    have inside : b ∈ String.utf8EncodeChar c := by
      rw [written]
      exact List.mem_cons_self
    obtain rfl : b = 13 := returns b (List.mem_flatMap.mpr ⟨c, member, inside⟩)
    exact Char.toNat_inj.mp (Utf8.toNat_of_mem_utf8EncodeChar inside (by decide))
  · intro returns b member
    obtain ⟨c, inside, written⟩ := List.mem_flatMap.mp member
    rw [returns c inside, Utf8.utf8EncodeChar_ascii (by decide), List.mem_singleton] at written
    exact written

/-- No byte of a line is a line feed, and so no character of it. -/
theorem noFeed_of_encode (noFeed : 10 ∉ encode (String.ofList cs)) : '\n' ∉ cs := by
  -- The line feed is encoded by its own byte.
  intro member
  refine noFeed ?_
  rw [encode, String.toList_ofList]
  exact List.mem_flatMap.mpr ⟨'\n', member, by decide⟩

/-- A value for the length is the only one of its line. -/
theorem gives_unique {other : List Char} (first : Gives line value) (second : Gives line other) :
    value = other := by
  -- Both values are what is left of one line behind its colon.
  obtain ⟨name, rfl, -⟩ := id first
  have behind := (gives_iff.mp first).1.symm.trans (gives_iff.mp second).1
  exact (List.cons_eq_cons.mp behind).2

/-- A value is one number only. -/
theorem writes_unique {m : Nat} (first : Writes value n) (second : Writes value m) : n = m :=
  Option.some.inj ((writes_iff.mp first).1.symm.trans (writes_iff.mp second).1)

end Line

/-- What is read of a line. -/
inductive Reads (line : List UInt8) : HeaderLine → Prop where
  | blank (returns : IsReturns line) : Reads line .blank
  | other (header : IsHeader line) (none : ∀ value, ¬ Gives line value) : Reads line .other
  | length {value : List Char} {n : Nat} (header : IsHeader line) (gives : Gives line value)
      (writes : Writes value n) : Reads line (.length n)
  | wrong {fault : FrameFault} (notBlank : ¬ IsReturns line) (noHeader : ¬ IsHeader line) :
      Reads line (.wrong fault)

/-- A line of text is read for what it is. -/
theorem reads_of_text {cs feed : List Char} (isFeed : ∀ c ∈ feed, c = '\n')
    (noFeed : 10 ∉ encode (String.ofList cs)) :
    Reads (encode (String.ofList cs)) (headerLine (encode (String.ofList (cs ++ feed)))) := by
  have noFeed' : '\n' ∉ cs := noFeed_of_encode noFeed
  -- Either the line is blank, or it has a name, and then perhaps a value.
  by_cases returns : ∀ c ∈ cs, c = '\r'
  · rw [headerLine_of_returns isFeed noFeed' returns]
    exact .blank (isReturns_encode.mpr returns)
  · have notBlank : ¬ IsReturns (encode (String.ofList cs)) := mt isReturns_encode.mp returns
    have header (isNumber : ∀ value, Gives (encode (String.ofList cs)) value →
        ∃ n, Writes value n) : IsHeader (encode (String.ofList cs)) :=
      ⟨noFeed, notBlank, ⟨_, rfl⟩, isNumber⟩
    have unnamed (none : ∀ value, ¬ Gives (encode (String.ofList cs)) value) :
        Reads (encode (String.ofList cs)) .other :=
      .other (header fun value gives => absurd gives (none value)) none
    rw [headerLine_of_some isFeed noFeed' returns]
    -- Without a colon there is no value, and neither is with another name.
    cases behind : cs.dropWhile (· != ':') with
    | nil =>
      -- There is no colon.
      refine unnamed fun value => ?_
      rw [gives_iff, behind]
      simp
    | cons colon value =>
      obtain rfl : colon = ':' := by
        have stops := List.head?_dropWhile_not (· != ':') cs
        rw [behind] at stops
        simpa using stops
      cases named : Text.asciiCaseEq (Text.trim (String.ofList (cs.takeWhile (· != ':'))))
          lengthName with
      | false =>
        -- The name is another one.
        refine unnamed fun other => ?_
        rw [gives_iff, named]
        simp
      | true =>
        -- The value writes a number, or the header is no header.
        have gives : Gives (encode (String.ofList cs)) value := gives_iff.mpr ⟨behind, named⟩
        simp only [if_true]
        rcases lengthOfValue_cases value with ⟨n, writes, length⟩ | ⟨noNumber, fault, wrong⟩
        · rw [length]
          refine .length (header fun other gives' => ?_) gives writes
          rw [← gives_unique gives gives']
          exact ⟨n, writes⟩
        · rw [wrong]
          exact .wrong notBlank fun isHeader => noNumber (isHeader.isNumber value gives)

/-- Carriage returns are text. -/
theorem isText_of_returns {line : List UInt8} (returns : IsReturns line) :
    line = encode (String.ofList (List.replicate line.length '\r')) := by
  -- A carriage return is one byte, so the line is as many of them as it has bytes.
  have ascii : ∀ c ∈ List.replicate line.length '\r', c.toNat < 128 := by
    intro c member
    rw [(List.mem_replicate.mp member).2]
    decide
  rw [Utf8.encode_ascii ascii, List.map_replicate]
  exact List.eq_replicate_of_mem returns

/-- A line is read for what it is, with its line feed or without it. -/
theorem reads_headerLine {line ending : List UInt8} (noFeed : 10 ∉ line)
    (isEnd : ending = [] ∨ ending = [10]) : Reads line (headerLine (line ++ ending)) := by
  -- The line feed may be missing where the stream ends, and is text where it is there.
  obtain ⟨feed, isFeed, written⟩ : ∃ feed : List Char, (∀ c ∈ feed, c = '\n') ∧
      ending = encode (String.ofList feed) := by
    rcases isEnd with rfl | rfl
    · exact ⟨[], by simp, rfl⟩
    · exact ⟨['\n'], by simp, rfl⟩
  by_cases text : ∃ cs, line = encode (String.ofList cs)
  · obtain ⟨cs, rfl⟩ := text
    rw [written, ← Utf8.encode_append, ← String.ofList_append]
    exact reads_of_text isFeed noFeed
  · -- Bytes that are no text are neither blank nor a header.
    have notBlank : ¬ IsReturns line := fun returns => text ⟨_, isText_of_returns returns⟩
    have noHeader : ¬ IsHeader line := by
      rintro ⟨-, -, ⟨s, same⟩, -⟩
      exact text ⟨s.toList, by rw [same, String.ofList_toList]⟩
    cases read : Utf8.decode (line ++ ending) with
    | ok s => exact absurd (isText_of_append isEnd (Utf8.decode_eq_ok.mp read)) text
    | error fault =>
      rw [headerLine, read]
      exact .wrong notBlank noHeader

/-- The length that counts behind some lines: the last one that they tell, or else the one told
before. -/
def Counts (told : Option Nat) (lines : List (List UInt8)) (n : Nat) : Prop :=
  LastLength lines n ∨ told = some n ∧ ∀ line ∈ lines, ∀ value, ¬ Gives line value

/-- The bytes are the other headers of a frame, a blank line, the payload, and the rest. -/
def Continues (told : Option Nat) (bytes payload rest : List UInt8) : Prop :=
  ∃ headers closing, bytes = joined headers ++ closing ++ payload ++ rest ∧
    (∀ line ∈ headers, IsHeader line) ∧ Closes closing (payload ++ rest) ∧
    Counts told headers payload.length ∧ payload.length ≤ greatestPayload

/-- The payload and the rest are what stands behind the blank line. -/
def Carries (told : Option Nat) (bytes payload rest : List UInt8) : Prop :=
  bytes = payload ++ rest ∧ told = some payload.length ∧ payload.length ≤ greatestPayload

section Lengths

variable {told : Option Nat} {line : List UInt8} {lines : List (List UInt8)} {n m : Nat}
  {value : List Char}

/-- The last length is told behind the first line, or by it. -/
theorem lastLength_cons : LastLength (line :: lines) n ↔
    LastLength lines n ∨ (∃ value, Gives line value ∧ Writes value n) ∧
      ∀ other ∈ lines, ∀ value, ¬ Gives other value := by
  constructor
  · -- The line that counts is the first one, or one behind it.
    rintro ⟨before, last, after, value, split, gives, writes, none⟩
    cases before with
    | nil =>
      obtain ⟨rfl, rfl⟩ := List.cons_eq_cons.mp split
      exact .inr ⟨⟨value, gives, writes⟩, none⟩
    | cons first before =>
      obtain ⟨rfl, rfl⟩ := List.cons_eq_cons.mp split
      exact .inl ⟨before, last, after, value, rfl, gives, writes, none⟩
  · rintro (⟨before, last, after, value, rfl, gives, writes, none⟩ | ⟨⟨value, gives, writes⟩, none⟩)
    · exact ⟨line :: before, last, after, value, rfl, gives, writes, none⟩
    · exact ⟨[], line, lines, value, rfl, gives, writes, none⟩

/-- A line that tells no length leaves the length that counts. -/
theorem counts_cons_other (none : ∀ value, ¬ Gives line value) :
    Counts told (line :: lines) n ↔ Counts told lines n := by
  -- A line that gives no length is passed over, and the others decide.
  rw [Counts, Counts, lastLength_cons, List.forall_mem_cons]
  simp only [none, false_and, exists_false, or_false, not_false_eq_true, implies_true, true_and]

/-- A line that tells a length hides the one told before. -/
theorem counts_cons_length (gives : Gives line value) (writes : Writes value m) :
    Counts told (line :: lines) n ↔ Counts (some m) lines n := by
  -- The number that the line tells is the only one that it can tell.
  have same : (∃ value, Gives line value ∧ Writes value n) ↔ some m = some n := by
    constructor
    · rintro ⟨other, gives', writes'⟩
      rw [gives_unique gives gives'] at writes
      rw [writes_unique writes writes']
    · rintro ⟨⟩
      exact ⟨value, gives, writes⟩
  have named : ¬ ∀ other ∈ line :: lines, ∀ value, ¬ Gives other value :=
    fun none => none line List.mem_cons_self value gives
  rw [Counts, Counts, lastLength_cons, same, or_assoc]
  simp only [named, and_false, or_false]

/-- Where no line follows, the length told before counts. -/
theorem counts_nil : Counts told [] n ↔ told = some n := by
  -- Without headers the count is what was told before.
  have noLast : ¬ LastLength [] n := by
    rintro ⟨before, last, after, value, split, -⟩
    simp at split
  simp [Counts, noLast]

/-- Where no length has been told before, the last one of the lines counts. -/
theorem counts_none : Counts none lines n ↔ LastLength lines n := by
  simp [Counts]

end Lengths

section Frames

variable {told : Option Nat} {line more payload rest bytes : List UInt8}

/-- Bytes are some whole lines, and a last one that the stream ends in. -/
theorem byLines {P : List UInt8 → Prop} (last : ∀ line, 10 ∉ line → P line)
    (feed : ∀ line more, 10 ∉ line → P more → P (line ++ 10 :: more)) (bytes : List UInt8) :
    P bytes := by
  -- Everything up to the first line feed is a line, and fewer bytes are left behind it.
  by_cases fed : 10 ∈ bytes
  · obtain ⟨line, more, whole, noFeed⟩ := List.eq_append_cons_of_mem fed
    have shorter : more.length < bytes.length := by
      rw [whole, List.length_append, List.length_cons]
      omega
    rw [whole]
    exact feed line more noFeed (byLines last feed more)
  · exact last bytes fed
termination_by bytes.length

/-- The first line of some bytes ends at their first line feed. -/
theorem first_line {first more' : List UInt8} (noFeed : 10 ∉ line) (noFeed' : 10 ∉ first)
    (same : line ++ 10 :: more = first ++ 10 :: more') : line = first ∧ more = more' := by
  -- Both lines are what stands before the first byte that is a line feed.
  have cut {before behind : List UInt8} (noFeed : 10 ∉ before) :
      (before ++ 10 :: behind).takeWhile (· != 10) = before ∧
        (before ++ 10 :: behind).dropWhile (· != 10) = 10 :: behind := by
    have passed : ∀ b ∈ before, (b != 10) = true := by
      intro b member
      rw [bne_iff_ne]
      rintro rfl
      exact noFeed member
    rw [List.takeWhile_append_of_pos passed, List.dropWhile_append_of_pos passed]
    simp
  have lines := congrArg (List.takeWhile (· != 10)) same
  have others := congrArg (List.dropWhile (· != 10)) same
  rw [(cut noFeed).1, (cut noFeed').1] at lines
  rw [(cut noFeed).2, (cut noFeed').2] at others
  exact ⟨lines, (List.cons_eq_cons.mp others).2⟩

/-- Carriage returns have no line feed among them. -/
theorem noFeed_of_returns (returns : IsReturns line) : 10 ∉ line :=
  fun feed => absurd (returns 10 feed) (by decide)

/-- Behind the first header, a line is the blank line before the payload, or one more header. -/
theorem continues_split (noFeed : 10 ∉ line) :
    Continues told (line ++ 10 :: more) payload rest ↔
      IsReturns line ∧ Carries told more payload rest ∨
        IsHeader line ∧ ∃ headers closing, more = joined headers ++ closing ++ payload ++ rest ∧
          (∀ line ∈ headers, IsHeader line) ∧ Closes closing (payload ++ rest) ∧
          Counts told (line :: headers) payload.length ∧ payload.length ≤ greatestPayload := by
  constructor
  -- No header, so that the line is the blank one; or the line is the first of the headers.
  · rintro ⟨headers, closing, whole, areHeaders, closes, counts, fits⟩
    cases headers with
    | nil =>
      rw [joined_nil, List.nil_append] at whole
      rcases closes with ⟨returns, isReturns, rfl⟩ | ⟨-, isReturns, nothing⟩
      · rw [List.append_assoc, List.append_assoc] at whole
        obtain ⟨rfl, behind⟩ := first_line noFeed (noFeed_of_returns isReturns) whole
        exact .inl ⟨isReturns, behind, counts_nil.mp counts, fits⟩
      · rw [List.append_assoc, nothing, List.append_nil] at whole
        exact absurd (whole ▸ by simp) (noFeed_of_returns isReturns)
    | cons header headers =>
      obtain ⟨isHeader, others⟩ := List.forall_mem_cons.mp areHeaders
      -- The line and the first header end at the same line feed.
      rw [joined_cons, List.append_assoc, List.append_assoc, List.append_assoc, List.cons_append] at whole
      obtain ⟨rfl, rfl⟩ := first_line noFeed isHeader.whole whole
      exact .inr ⟨isHeader, headers, closing, by simp, others, closes, counts, fits⟩
  · rintro (⟨returns, rfl, rfl, fits⟩ |
      ⟨isHeader, headers, closing, rfl, others, closes, counts, fits⟩)
    · exact ⟨[], line ++ [10], by simp, by simp, .inl ⟨line, returns, rfl⟩, counts_nil.mpr rfl, fits⟩
    · exact ⟨line :: headers, closing, by simp, List.forall_mem_cons.mpr ⟨isHeader, others⟩, closes,
        counts, fits⟩

/-- A blank line comes before the payload. -/
theorem continues_returns (returns : IsReturns line) :
    Continues told (line ++ 10 :: more) payload rest ↔ Carries told more payload rest := by
  -- A line of carriage returns is no header, so it can only be passed.
  rw [continues_split (noFeed_of_returns returns)]
  constructor
  · rintro (⟨-, carries⟩ | ⟨isHeader, -⟩)
    · exact carries
    · exact absurd returns isHeader.notBlank
  · exact fun carries => .inl ⟨returns, carries⟩

/-- One more header is passed over, up to the length that it tells. -/
theorem continues_header {told' : Option Nat} (isHeader : IsHeader line)
    (counts : ∀ lines n, Counts told (line :: lines) n ↔ Counts told' lines n) :
    Continues told (line ++ 10 :: more) payload rest ↔ Continues told' more payload rest := by
  -- The line counts as what it tells, and the rest goes on from there.
  rw [continues_split isHeader.whole, Continues]
  simp only [isHeader.notBlank, isHeader, counts, false_and, false_or, true_and]

/-- A line that is neither blank nor a header stands in no frame. -/
theorem not_continues (noFeed : 10 ∉ line) (notBlank : ¬ IsReturns line) (noHeader : ¬ IsHeader line) :
    ¬ Continues told (line ++ 10 :: more) payload rest := by
  -- A frame goes on only behind a blank line or a header.
  rw [continues_split noFeed]
  simp only [notBlank, noHeader, false_and, or_self, not_false_eq_true]

/-- A line that the stream ends in can only be the blank line of a frame without a payload. -/
theorem continues_last (noFeed : 10 ∉ line) :
    Continues told line payload rest ↔
      line ≠ [] ∧ IsReturns line ∧ Carries told [] payload rest := by
  constructor
  · rintro ⟨headers, closing, rfl, -, closes, counts, fits⟩
    -- A line feed behind a header would stand in the line, which has none.
    cases headers with
    | nil =>
      rcases closes with ⟨returns, -, rfl⟩ | ⟨some, isReturns, nothing⟩
      · simp at noFeed
      · rw [joined_nil, List.nil_append, List.append_assoc, nothing, List.append_nil]
        exact ⟨some, isReturns, nothing.symm, counts_nil.mp counts, fits⟩
    | cons header headers => simp at noFeed
  · rintro ⟨some, isReturns, nothing, rfl, fits⟩
    refine ⟨[], line, ?_, by simp, .inr ⟨some, isReturns, nothing.symm⟩, counts_nil.mpr rfl, fits⟩
    rw [joined_nil, List.nil_append, List.append_assoc, ← nothing, List.append_nil]

/-- A payload is read behind the blank line if all of it is there. -/
theorem readPayload_eq_frame : readPayload true told more = .frame payload rest ↔
    Carries told more payload rest := by
  unfold readPayload Carries
  cases told with
  | none => simp
  | some n =>
    simp only [Option.some.injEq]
    constructor
    · intro reads
      split at reads
      · cases reads
      · rename_i fits
        split at reads
        · rename_i there
          cases reads
          -- The payload is as long as told, since so many bytes are there.
          have length : n = (more.take n).length := (List.length_take_of_le there).symm
          exact ⟨(List.take_append_drop n more).symm, length, length ▸ Nat.le_of_not_lt fits⟩
        · split at reads <;> cases reads
    · rintro ⟨rfl, rfl, fits⟩
      rw [if_neg (Nat.not_lt.mpr fits), if_pos (by simp), List.take_left, List.drop_left]

/-- Behind the first header, what is read is the rest of a frame. -/
theorem readHeaders_eq_frame (bytes : List UInt8) (told : Option Nat) :
    readHeaders true ⟨told, true⟩ [] bytes = .frame payload rest ↔
      Continues told bytes payload rest := by
  -- By induction on the lines, of which the first one says what the others are read with.
  induction bytes using byLines generalizing told with
  | last line noFeed =>
    -- The last line has no line feed, and only a blank one is complete.
    have read := reads_headerLine noFeed (.inl rfl)
    rw [List.append_nil] at read
    rw [readHeaders_last noFeed, continues_last noFeed]
    by_cases nothing : line = []
    · simp [nothing]
    · rw [if_neg nothing]
      simp only [ne_eq, nothing, not_false_eq_true, true_and]
      generalize headerLine line = meaning at read
      cases read with
      | blank returns => simp only [if_true, readPayload_eq_frame, returns, true_and]
      | other header => simp [header.notBlank]
      | length header => simp [header.notBlank]
      | wrong notBlank => simp [notBlank]
  | feed line more noFeed ih =>
    have read := reads_headerLine noFeed (.inr rfl)
    rw [readHeaders_line noFeed, List.reverse_nil, List.nil_append]
    generalize headerLine (line ++ [10]) = meaning at read
    cases read with
    -- A blank line ends the headers, and the payload follows.
    | blank returns => simp only [if_true, readPayload_eq_frame, continues_returns returns]
    | other header none =>
      simp only [ih, continues_header header fun lines n => counts_cons_other none]
    | length header gives writes =>
      simp only [ih, continues_header header fun lines n => counts_cons_length gives writes]
    | wrong notBlank noHeader => simp [not_continues noFeed notBlank noHeader]

/-- A stream that has ended is never waited for, and behind the first header its end is a fault. -/
theorem readHeaders_decided {headers : Headers} :
    readHeaders true headers line bytes ≠ .unfinished ∧
      (headers.begun = true → readHeaders true headers line bytes ≠ .ended) := by
  -- Reading a payload is decided at once when the stream has ended.
  have payload (told : Option Nat) (more : List UInt8) :
      readPayload true told more ≠ .unfinished ∧ readPayload true told more ≠ .ended := by
    cases told with
    | none => simp [readPayload]
    | some n =>
      rw [readPayload]
      simp only [if_true]
      split_ifs <;> simp
  -- By induction on the bytes; a begun header stays begun, and so the end is never in order.
  induction bytes generalizing headers line with
  | nil =>
    -- The end comes within a line, unless nothing of a header has come.
    rw [readHeaders]
    simp only [Bool.not_true, Bool.false_eq_true, if_false]
    split
    · cases headers.begun <;> simp
    · split
      · simp
      · cases headers.begun
        · simp
        · exact ⟨(payload _ _).1, fun _ => (payload _ _).2⟩
      · simp
  | cons b bytes ih =>
    -- A byte ends a line, or belongs to one.
    rw [readHeaders]
    split
    · split
      · simp
      · split
        · exact ⟨(payload _ _).1, fun _ => (payload _ _).2⟩
        · exact ih
      · exact ⟨ih.1, fun _ => ih.2 rfl⟩
      · exact ⟨ih.1, fun _ => ih.2 rfl⟩
    · exact ih

/-- A frame begins with blank lines, or with a header. -/
theorem isFrame_iff : IsFrame bytes payload rest ↔
    ∃ stray more, bytes = joined stray ++ more ∧ (∀ line ∈ stray, IsReturns line) ∧
      Continues none more payload rest := by
  -- The stray lines come first, and nothing was told before the headers.
  constructor
  · rintro ⟨stray, headers, closing, rfl, blank, areHeaders, closes, last, fits⟩
    exact ⟨stray, joined headers ++ closing ++ payload ++ rest, by simp, blank, headers, closing, rfl,
      areHeaders, closes, counts_none.mpr last, fits⟩
  · rintro ⟨stray, _, rfl, blank, headers, closing, rfl, areHeaders, closes, counts, fits⟩
    exact ⟨stray, headers, closing, by simp, blank, areHeaders, closes, counts_none.mp counts, fits⟩

/-- A blank line before a frame is passed over. -/
theorem isFrame_returns (returns : IsReturns line) :
    IsFrame (line ++ 10 :: more) payload rest ↔ IsFrame more payload rest := by
  rw [isFrame_iff, isFrame_iff]
  constructor
  · rintro ⟨stray, behind, whole, blank, continues⟩
    cases stray with
    | nil =>
      -- The blank line would end headers that tell no length.
      rw [joined_nil, List.nil_append] at whole
      rw [← whole, continues_returns returns] at continues
      exact absurd continues.2.1 (Option.some_ne_none _).symm
    | cons first stray =>
      obtain ⟨isReturns, others⟩ := List.forall_mem_cons.mp blank
      rw [joined_cons, List.append_assoc, List.cons_append] at whole
      obtain ⟨-, same⟩ := first_line (noFeed_of_returns returns) (noFeed_of_returns isReturns) whole
      exact ⟨stray, behind, same, others, continues⟩
  · rintro ⟨stray, behind, rfl, blank, continues⟩
    exact ⟨line :: stray, behind, by simp, List.forall_mem_cons.mpr ⟨returns, blank⟩, continues⟩

/-- Where no blank line stands, a frame begins with a header. -/
theorem isFrame_begun (noFeed : 10 ∉ line) (notBlank : ¬ IsReturns line) :
    IsFrame (line ++ 10 :: more) payload rest ↔
      Continues none (line ++ 10 :: more) payload rest := by
  rw [isFrame_iff]
  constructor
  · rintro ⟨stray, behind, whole, blank, continues⟩
    -- A stray line would be the blank one that there is not.
    cases stray with
    | nil => rwa [whole]
    | cons first stray =>
      have isReturns : IsReturns first := blank first List.mem_cons_self
      rw [joined_cons, List.append_assoc, List.cons_append] at whole
      obtain ⟨rfl, -⟩ := first_line noFeed (noFeed_of_returns isReturns) whole
      exact absurd isReturns notBlank
  · exact fun continues => ⟨[], _, rfl, by simp, continues⟩

/-- No frame is a line that the stream ends in. -/
theorem not_isFrame_last (noFeed : 10 ∉ line) : ¬ IsFrame line payload rest := by
  -- A frame has a closing line, which ends in a line feed.
  rw [isFrame_iff]
  rintro ⟨stray, behind, rfl, blank, continues⟩
  cases stray with
  | nil =>
    have carries := ((continues_last noFeed).mp continues).2.2
    exact absurd carries.2.1 (Option.some_ne_none _).symm
  | cons first stray => simp at noFeed

/-- Where no blank line stands, the first header begins the headers. -/
theorem readFrame_begun (noFeed : 10 ∉ line) (notBlank : ¬ IsReturns line) :
    readFrame true (line ++ 10 :: more) = readHeaders true ⟨none, true⟩ [] (line ++ 10 :: more) := by
  -- What is said of the line has begun the headers in every case but that of a blank line.
  have read := reads_headerLine noFeed (.inr rfl)
  rw [readFrame, readHeaders_line noFeed, readHeaders_line noFeed, List.reverse_nil, List.nil_append]
  generalize headerLine (line ++ [10]) = meaning at read
  cases read with
  | blank returns => exact absurd returns notBlank
  | other => rfl
  | length => rfl
  | wrong => rfl

/-- A blank line before the first header is read as nothing. -/
theorem readFrame_returns (returns : IsReturns line) :
    readFrame true (line ++ 10 :: more) = readFrame true more := by
  -- A line of carriage returns is blank, and the reader goes on as from the start.
  have noFeed : 10 ∉ line := noFeed_of_returns returns
  have read := reads_headerLine noFeed (.inr rfl)
  rw [readFrame, readHeaders_line noFeed, List.reverse_nil, List.nil_append]
  generalize headerLine (line ++ [10]) = meaning at read
  cases read with
  | blank => rfl
  | other header => exact absurd returns header.notBlank
  | length header => exact absurd returns header.notBlank
  | wrong notBlank => exact absurd returns notBlank

/-- A line that the stream ends in is nothing if it is blank, and a fault if it is not. -/
theorem readFrame_last (noFeed : 10 ∉ line) :
    IsReturns line ∧ readFrame true line = .ended ∨
      ¬ IsReturns line ∧ ∃ fault, readFrame true line = .faulty fault := by
  -- Without a line feed there is no further line, so the reader ends or fails here.
  have read := reads_headerLine noFeed (.inl rfl)
  rw [List.append_nil] at read
  rw [readFrame, readHeaders_last noFeed]
  by_cases nothing : line = []
  · exact .inl ⟨by simp [nothing, IsReturns], by simp [nothing]⟩
  · rw [if_neg nothing]
    generalize headerLine line = meaning at read
    cases read with
    | blank returns => exact .inl ⟨returns, rfl⟩
    | other header => exact .inr ⟨header.notBlank, _, rfl⟩
    | length header => exact .inr ⟨header.notBlank, _, rfl⟩
    | wrong notBlank => exact .inr ⟨notBlank, _, rfl⟩

/-- What is read as a frame is one, and every frame is read. -/
theorem readFrame_eq_frame (bytes : List UInt8) :
    readFrame true bytes = .frame payload rest ↔ IsFrame bytes payload rest := by
  -- By induction on the lines: blank ones are passed over, and the first other one begins the headers.
  induction bytes using byLines with
  | last line noFeed =>
    simp only [not_isFrame_last noFeed, iff_false]
    rcases readFrame_last noFeed with ⟨-, read⟩ | ⟨-, fault, read⟩ <;> simp [read]
  | feed line more noFeed ih =>
    by_cases returns : IsReturns line
    · rw [readFrame_returns returns, isFrame_returns returns, ih]
    · rw [readFrame_begun noFeed returns, isFrame_begun noFeed returns, readHeaders_eq_frame]

/-- A stream has ended where nothing but line ends is left. -/
theorem readFrame_eq_ended (bytes : List UInt8) :
    readFrame true bytes = .ended ↔ ∀ b ∈ bytes, b = 13 ∨ b = 10 := by
  -- By induction on the lines, of which one that is not blank makes the end a fault.
  induction bytes using byLines with
  | last line noFeed =>
    have isEnds : (∀ b ∈ line, b = 13 ∨ b = 10) ↔ IsReturns line := by
      refine forall_congr' fun b => imp_congr_right fun member => or_iff_left ?_
      rintro rfl
      exact noFeed member
    rw [isEnds]
    rcases readFrame_last noFeed with ⟨returns, read⟩ | ⟨notBlank, fault, read⟩
    · simp [read, returns]
    · simp [read, notBlank]
  | feed line more noFeed ih =>
    by_cases returns : IsReturns line
    · rw [readFrame_returns returns, ih]
      simp only [List.forall_mem_append, List.forall_mem_cons, or_true, true_and]
      exact (and_iff_right fun b member => .inl (returns b member)).symm
    · have undecided : readHeaders true ⟨none, true⟩ [] (line ++ 10 :: more) ≠ .ended :=
        readHeaders_decided.2 rfl
      rw [readFrame_begun noFeed returns]
      -- A byte of the line that is no carriage return is none of the ends either.
      refine iff_of_false undecided fun ends => ?_
      refine returns fun b member => (ends b (List.mem_append_left _ member)).resolve_right ?_
      rintro rfl
      exact noFeed member

/-- Reading a stream frame by frame comes to its end, or to a fault. -/
theorem exists_readMany (bytes : List UInt8) :
    ∃ payloads left fault, readMany true payloads.length bytes = some (payloads, left) ∧
      payloads.length ≤ bytes.length ∧
      readFrame true left = match fault with | none => .ended | some f => .faulty f := by
  -- By induction on the number of bytes, of which every frame takes one at least.
  induction size : bytes.length using Nat.strong_induction_on generalizing bytes with
  | _ size ih =>
    cases read : readFrame true bytes with
    | frame payload rest =>
      have shorter : rest.length < bytes.length := readFrame_length_lt read
      obtain ⟨payloads, left, fault, reads, few, stops⟩ := ih rest.length (size ▸ shorter) rest rfl
      refine ⟨payload :: payloads, left, fault, ?_, ?_, stops⟩
      · rw [List.length_cons, readMany, read]
        simp only [reads, Option.map_some]
      · rw [List.length_cons]
        omega
    | ended => exact ⟨[], bytes, none, rfl, Nat.zero_le _, read⟩
    | faulty fault => exact ⟨[], bytes, some fault, rfl, Nat.zero_le _, read⟩
    | unfinished => exact absurd read readHeaders_decided.1

/-- Reading accepts frames and nothing else: a payload is read, together with the bytes that are left,
from exactly the streams that begin with a frame for it. The stream has ended where nothing but line ends
is left, and anything else is a fault. So after some frames, of which there are no more than bytes,
reading comes to the end or to a fault. -/
theorem readFrame_grammar (bytes : List UInt8) :
    (∀ payload rest, readFrame true bytes = .frame payload rest ↔ IsFrame bytes payload rest) ∧
      (readFrame true bytes = .ended ↔ ∀ b ∈ bytes, b = 13 ∨ b = 10) ∧
      ((∃ fault, readFrame true bytes = .faulty fault) ↔
        (∀ payload rest, ¬ IsFrame bytes payload rest) ∧ ¬ ∀ b ∈ bytes, b = 13 ∨ b = 10) ∧
      ∃ payloads left fault, readMany true payloads.length bytes = some (payloads, left) ∧
        payloads.length ≤ bytes.length ∧
        (readFrame true left = match fault with | none => .ended | some f => .faulty f) ∧
        framesOf bytes = (payloads, fault) := by
  refine ⟨fun payload rest => readFrame_eq_frame bytes, readFrame_eq_ended bytes, ?_, ?_⟩
  -- A fault is what is neither of the two, and nothing is waited for.
  · simp only [← readFrame_eq_frame, ← readFrame_eq_ended]
    cases read : readFrame true bytes with
    | frame => simp
    | ended => simp
    | faulty => simp
    | unfinished => exact absurd read readHeaders_decided.1
  · obtain ⟨payloads, left, fault, reads, few, stops⟩ := exists_readMany bytes
    exact ⟨payloads, left, fault, reads, few, stops, framesOf_of_readMany reads stops⟩

end Frames

end TemplateFacts.Wire
