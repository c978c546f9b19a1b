import TemplateFacts.Proofs.Utf8.Split
import TemplateFacts.Session.Process

/-!
What is captured of the errors that a compiler prints: each chunk is taken for text by itself, and so
the text depends on how the bytes are divided. It is the text of all bytes exactly when no chunk ends
inside of what begins a character.
-/

namespace TemplateFacts.Session

open Utf8 (Torn encode decodeLossy lossyChars)

variable {chunks : List (List UInt8)} {chunk : List UInt8} {text : String}

/-- The captured text consists of the texts of the chunks. -/
theorem captured_eq (chunks : List (List UInt8)) :
    captured chunks = String.ofList (chunks.flatMap (lossyChars 0)) := by
  -- Whatever was printed before stays in front.
  have behind (process : Process) : (chunks.foldl Process.capture process).printed =
      process.printed ++ String.ofList (chunks.flatMap (lossyChars 0)) := by
    induction chunks generalizing process with
    | nil => exact (String.append_empty).symm
    | cons chunk chunks ih =>
      rw [List.foldl_cons, ih, Process.capture, decodeLossy, List.flatMap_cons, String.ofList_append,
        String.append_assoc]
  rw [captured, behind, Process.fresh, String.empty_append]

/-- No chunk ends inside of what begins a character. -/
def Untorn (chunks : List (List UInt8)) : Prop :=
  ∀ before behind, chunks = before ++ behind → ¬ Torn before.flatten behind.flatten

/-- What is torn behind a chunk is torn inside the chunks that follow it, or by the end of it. -/
theorem untorn_cons :
    Untorn (chunk :: chunks) ↔ ¬ Torn chunk chunks.flatten ∧ Untorn chunks := by
  constructor
  · intro untorn
    refine ⟨fun torn => untorn [chunk] chunks rfl (by rwa [List.flatten_singleton]), ?_⟩
    rintro before behind rfl ⟨c, part, next, some, isLast, isNext, begins⟩
    refine untorn (chunk :: before) behind rfl ⟨c, part, next, some, ?_, isNext, begins⟩
    exact isLast.trans (List.suffix_append _ _)
  · rintro ⟨whole, untorn⟩ before behind same ⟨c, part, next, some, isLast, isNext, begins⟩
    cases before with
    | nil => exact some (List.suffix_nil.mp isLast)
    | cons first before =>
      rw [List.cons_append] at same
      obtain ⟨rfl, rfl⟩ := List.cons_eq_cons.mp same
      rw [List.flatten_append] at whole
      obtain ⟨front, joined⟩ := isLast
      rw [List.flatten_cons] at joined
      -- A part that reaches into the first chunk is torn by the end of that chunk already.
      rcases List.append_eq_append_iff.mp joined with ⟨piece, rfl, rfl⟩ | ⟨more, rfl, inside⟩
      · by_cases none : piece = []
        · subst none
          exact untorn before behind rfl ⟨c, _, next, some, List.suffix_rfl, isNext, begins⟩
        · obtain ⟨first, rest, reaches⟩ := List.exists_cons_of_ne_nil
            (List.append_ne_nil_of_right_ne_nil before.flatten (List.cons_ne_nil next []))
          have starts : [first] <+: before.flatten ++ [next] := ⟨rest, reaches.symm⟩
          refine whole ⟨c, piece, first, none, List.suffix_append _ _, ?_, ?_⟩
          · exact starts.trans ((List.prefix_append_right_inj _).mpr isNext)
          · rw [List.append_assoc] at begins
            exact ((List.prefix_append_right_inj _).mpr starts).trans begins
      · exact untorn before behind rfl
          ⟨c, part, next, some, ⟨more, inside.symm⟩, isNext, begins⟩

/-- Chunks say no less than the bytes that they divide. -/
theorem length_lossyChars_flatten_le (chunks : List (List UInt8)) :
    (lossyChars 0 chunks.flatten).length ≤ (chunks.flatMap (lossyChars 0)).length := by
  -- Tearing a character apart can only make more characters of it.
  induction chunks with
  | nil => exact Nat.le_refl _
  | cons chunk chunks ih =>
    rw [List.flatten_cons, List.flatMap_cons, List.length_append]
    rcases Utf8.lossyChars_append chunk chunks.flatten with ⟨-, less⟩ | ⟨-, same⟩
    · omega
    · rw [same, List.length_append]
      omega

/-- Chunks say what the bytes say that they divide if and only if none of them ends inside of what
begins a character. -/
theorem lossyChars_flatten_iff (chunks : List (List UInt8)) :
    chunks.flatMap (lossyChars 0) = lossyChars 0 chunks.flatten ↔ Untorn chunks := by
  induction chunks with
  | nil =>
    refine iff_of_true rfl fun before behind same => ?_
    obtain ⟨rfl, rfl⟩ := List.nil_eq_append_iff.mp same
    rintro ⟨c, part, next, some, isLast, -⟩
    exact some (List.suffix_nil.mp isLast)
  | cons chunk chunks ih =>
    have least := length_lossyChars_flatten_le chunks
    rw [untorn_cons, ← ih, List.flatten_cons, List.flatMap_cons]
    rcases Utf8.lossyChars_append chunk chunks.flatten with ⟨torn, less⟩ | ⟨untorn, same⟩
    · -- What is torn is made up for by nothing behind it.
      refine iff_of_false (fun equal => ?_) fun both => both.1 torn
      rw [← equal, List.length_append] at less
      omega
    · rw [same, List.append_cancel_left_eq]
      exact (and_iff_right untorn).symm

/-- Nothing is torn between texts. -/
theorem untorn_of_pieces (pieces : ∀ chunk ∈ chunks, ∃ piece, chunk = encode piece) :
    Untorn chunks := by
  -- Each chunk decodes to its own piece, and the pieces decode together as they stand.
  rw [← lossyChars_flatten_iff]
  induction chunks with
  | nil => rfl
  | cons chunk chunks ih =>
    obtain ⟨piece, rfl⟩ := pieces chunk List.mem_cons_self
    have alone := Utf8.lossyChars_encoded piece.toList []
    rw [List.append_nil] at alone
    rw [List.flatMap_cons, List.flatten_cons, ih fun other member => pieces other
      (List.mem_cons_of_mem _ member), encode, alone, Utf8.lossyChars_encoded]
    simp [lossyChars]

/-- Chunks of a text tear nothing if and only if they are texts. -/
theorem untorn_iff_pieces (whole : chunks.flatten = encode text) :
    Untorn chunks ↔ ∀ chunk ∈ chunks, ∃ piece, chunk = encode piece := by
  -- Cut between characters, the first chunk is the encoding of a front of the text.
  refine ⟨fun untorn => ?_, untorn_of_pieces⟩
  induction chunks generalizing text with
  | nil => exact fun chunk member => by cases member
  | cons chunk chunks ih =>
    obtain ⟨between, later⟩ := untorn_cons.mp untorn
    obtain ⟨s, t, first, rest⟩ := Utf8.exists_pieces whole between
    intro other member
    rcases List.mem_cons.mp member with rfl | inside
    · exact ⟨s, first⟩
    · exact ih rest later other inside

/-- What is captured of some bytes is their text if and only if no chunk ends inside of what begins a
character. Bytes that are text are reproduced if and only if each chunk is a text by itself. -/
theorem captured_iff_untorn (chunks : List (List UInt8)) :
    (captured chunks = decodeLossy chunks.flatten ↔ Untorn chunks) ∧
    ∀ text, chunks.flatten = encode text →
      (captured chunks = text ↔ ∀ chunk ∈ chunks, ∃ piece, chunk = encode piece) := by
  -- What is captured is the chunks decoded one by one.
  have divided : captured chunks = decodeLossy chunks.flatten ↔ Untorn chunks := by
    rw [captured_eq, decodeLossy, String.ofList_inj]
    exact lossyChars_flatten_iff chunks
  refine ⟨divided, fun text whole => ?_⟩
  have said : decodeLossy (encode text) = text := by
    have characters := Utf8.lossyChars_encoded text.toList []
    rw [List.append_nil] at characters
    rw [decodeLossy, encode, characters, lossyChars, List.append_nil, String.ofList_toList]
  rw [whole, said] at divided
  exact divided.trans (untorn_iff_pieces whole)

/-- A price in two chunks, the first one with the longer character. -/
theorem captured_between_characters :
    [[0xE2, 0x82, 0xAC], [0x35]].flatten = encode "€5" ∧
      captured [[0xE2, 0x82, 0xAC], [0x35]] = "€5" := by
  -- Cut behind the euro sign, whose three bytes are one chunk.
  have whole : [[0xE2, 0x82, 0xAC], [0x35]].flatten = encode "€5" := by decide
  refine ⟨whole, ((captured_iff_untorn _).2 "€5" whole).mpr ?_⟩
  intro chunk member
  simp only [List.mem_cons, List.not_mem_nil, or_false] at member
  rcases member with rfl | rfl
  · exact ⟨"€", by decide⟩
  · exact ⟨"5", by decide⟩

/-- The greatest chunk, with the first byte of a longer character at its end, and the rest of a line. -/
def straddlingChunks : List (List UInt8) :=
  [List.replicate 4095 0x61 ++ [0xC3], [0xA9, 0x0A]]

/-- A character whose bytes are read in two chunks is lost, though the bytes are text. -/
theorem character_lost_between_chunks :
    (∀ chunk ∈ straddlingChunks, 1 ≤ chunk.length ∧ chunk.length ≤ greatestChunk) ∧
      straddlingChunks.flatten = encode (String.ofList (List.replicate 4095 'a' ++ ['é', '\n'])) ∧
      captured straddlingChunks =
        String.ofList (List.replicate 4095 'a' ++ ['\uFFFD', '\uFFFD', '\n']) ∧
      captured straddlingChunks ≠ decodeLossy straddlingChunks.flatten := by
  -- The letters fill the first read but for one byte, which is the first half of the character.
  have letters : (List.replicate 4095 'a').flatMap String.utf8EncodeChar =
      List.replicate 4095 0x61 := by
    have ascii : ∀ c ∈ List.replicate 4095 'a', c.toNat < 128 := by
      intro c member
      rw [(List.mem_replicate.mp member).2]
      decide
    have encoded := Utf8.encode_ascii ascii
    rwa [encode, String.toList_ofList, List.map_replicate] at encoded
  have read (rest : List UInt8) : lossyChars 0 (List.replicate 4095 0x61 ++ rest) =
      List.replicate 4095 'a' ++ lossyChars 0 rest := by
    rw [← letters, Utf8.lossyChars_encoded]
  have parts : captured straddlingChunks =
      String.ofList (List.replicate 4095 'a' ++ ['\uFFFD', '\uFFFD', '\n']) := by
    rw [captured_eq, straddlingChunks, List.flatMap_cons, List.flatMap_singleton, read,
      List.append_assoc]
    rfl
  refine ⟨?_, ?_, parts, ?_⟩
  · intro chunk member
    simp only [straddlingChunks, List.mem_cons, List.not_mem_nil, or_false] at member
    rcases member with rfl | rfl
    · rw [List.length_append, List.length_replicate]
      decide
    · decide
  · rw [encode, String.toList_ofList, List.flatMap_append, letters, straddlingChunks,
      List.flatten_cons, List.flatten_singleton, List.append_assoc]
    rfl
  · rw [parts, decodeLossy, straddlingChunks, List.flatten_cons, List.flatten_singleton,
      List.append_assoc, read, Ne, String.ofList_inj, List.append_cancel_left_eq]
    decide

end TemplateFacts.Session
