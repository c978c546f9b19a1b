import TemplateFacts.Proofs.Utf8.Head

/-!
Bytes that are cut in two: the text of the whole is the text of both parts, unless the cut tears what
begins a character. Then the parts have more replacement characters than the whole.
-/

namespace TemplateFacts.Utf8

section Cut

variable {before behind : List UInt8}

/-- The last bytes before a cut and the first byte behind it begin one character together. -/
def Torn (before behind : List UInt8) : Prop :=
  ∃ c part next, part ≠ [] ∧ part <:+ before ∧ [next] <+: behind ∧
    part ++ [next] <+: String.utf8EncodeChar c

/-- Bytes that continue a character are replaced one by one where none has begun. -/
theorem lossyChars_continuations {bytes : List UInt8}
    (continue_ : ∀ b ∈ bytes, isContinuation b = true) (rest : List UInt8) :
    lossyChars 0 (bytes ++ rest) = List.replicate bytes.length '\uFFFD' ++ lossyChars 0 rest := by
  -- No character begins with such a byte, so each is broken on its own.
  induction bytes with
  | nil => rfl
  | cons b bytes ih =>
    rw [List.cons_append, lossyChars_cons, head_of_continuation (continue_ b List.mem_cons_self)]
    simp only [Head.mark, Head.width, List.drop_succ_cons, List.drop_zero]
    rw [ih fun c member => continue_ c (List.mem_cons_of_mem _ member)]
    rfl

/-- The bytes behind the first of those that are read at once continue a character. -/
theorem isContinuation_of_inside {first : UInt8} {rest : List UInt8} {b : UInt8}
    (member : b ∈ rest.take ((head first rest).width - 1)) : isContinuation b = true := by
  have wide : 1 < (head first rest).width := by
    have some : (rest.take ((head first rest).width - 1)).length ≠ 0 :=
      Nat.ne_of_gt (List.length_pos_of_mem member)
    rw [List.length_take] at some
    omega
  -- More than one byte is read at once only where they begin a character.
  obtain ⟨c, begins⟩ := begins_of_wide wide
  obtain ⟨width, some⟩ : ∃ width, (head first rest).width = width + 1 :=
    Nat.exists_eq_add_one_of_ne_zero (by omega)
  rw [some, Nat.add_sub_cancel] at member
  rw [some, List.take_succ_cons] at begins
  obtain ⟨more, whole⟩ := begins
  refine isContinuation_of_mem_tail (c := c) ?_
  rw [← whole]
  exact List.mem_append_left _ member

/-- Bytes that begin a character are read at once, whatever follows them. -/
theorem width_of_begins {c : Char} {first : UInt8} {more : List UInt8}
    (begins : first :: more <+: String.utf8EncodeChar c) (rest : List UInt8) :
    more.length + 1 ≤ (head first (more ++ rest)).width := by
  obtain ⟨behind, whole⟩ := begins
  obtain ⟨first', more', encoded, read⟩ := head_utf8EncodeChar c []
  rw [encoded, List.cons_append] at whole
  obtain ⟨rfl, rfl⟩ := List.cons_eq_cons.mp whole
  rw [List.append_nil] at read
  -- By themselves they are the whole character, or they are cut off.
  have alone : (head first more).width = more.length + 1 := by
    rcases head_append first more behind with ⟨inside, same, -⟩ | ⟨-, cutOff⟩
    · rw [read, Head.width, List.length_append] at inside same
      omega
    · rw [cutOff, Head.width]
  rcases head_append first more rest with ⟨-, same, -⟩ | ⟨outside, -⟩
  · exact Nat.le_of_eq (alone.symm.trans same)
  · exact Nat.le_of_lt outside

/-- The first byte of a longer character does not continue one. -/
theorem isContinuation_of_begins {c : Char} {first next : UInt8} {more : List UInt8}
    (begins : first :: next :: more <+: String.utf8EncodeChar c) : isContinuation first = false := by
  -- A character of more than one byte begins with another kind of byte.
  have wide := width_of_begins begins []
  cases continues : isContinuation first with
  | false => rfl
  | true =>
    rw [head_of_continuation continues, Head.width, List.length_cons] at wide
    omega

/-- Behind bytes that are read at once, a cut tears the same as before. -/
theorem torn_drop {first : UInt8} {rest : List UInt8}
    (inside : (head first (rest ++ behind)).width ≤ rest.length + 1) :
    Torn ((first :: rest).drop (head first (rest ++ behind)).width) behind ↔
      Torn (first :: rest) behind := by
  constructor
  · rintro ⟨c, part, next, some, isLast, isNext, begins⟩
    exact ⟨c, part, next, some, isLast.trans (List.drop_suffix _ _), isNext, begins⟩
  · rintro ⟨c, part, next, some, isLast, isNext, begins⟩
    refine ⟨c, part, next, some, ?_, isNext, begins⟩
    obtain ⟨front, whole⟩ := isLast
    -- The torn part begins behind the first unit, or with it, or inside it.
    rcases Nat.lt_or_ge front.length (head first (rest ++ behind)).width with before | after
    · exfalso
      obtain ⟨lead, more, rfl⟩ := List.exists_cons_of_ne_nil some
      -- It begins inside the unit, and so with a byte that continues a character, or with the unit
      -- itself.
      cases front with
      | nil =>
        -- The torn character would be wider than its unit.
        obtain ⟨rfl, rfl⟩ := List.cons_eq_cons.mp whole
        obtain ⟨left, rfl⟩ := isNext
        have unit : lead :: (more ++ [next]) <+: String.utf8EncodeChar c := begins
        have wide := width_of_begins unit left
        rw [List.append_assoc, List.length_append, List.length_singleton] at wide
        omega
      | cons f front =>
        -- A byte that continues a character begins none.
        rw [List.cons_append] at whole
        obtain ⟨rfl, rfl⟩ := List.cons_eq_cons.mp whole
        have inUnit : lead ∈ (front ++ lead :: more ++ behind).take
            ((head f (front ++ lead :: more ++ behind)).width - 1) := by
          rw [List.append_assoc, List.take_append, List.mem_append]
          right
          rw [List.length_cons] at before
          obtain ⟨k, some⟩ : ∃ k, (head f (front ++ lead :: more ++ behind)).width - 1 - front.length
              = k + 1 := Nat.exists_eq_add_one_of_ne_zero (by omega)
          rw [← List.append_assoc, some]
          exact List.mem_cons_self
        have continues := isContinuation_of_inside inUnit
        obtain ⟨second, others, split⟩ : ∃ second others, more ++ [next] = second :: others :=
          List.exists_cons_of_ne_nil (by simp)
        rw [List.cons_append, split] at begins
        rw [isContinuation_of_begins begins] at continues
        cases continues
    · -- What begins behind the unit is still there.
      rw [← whole, List.drop_append_of_le_length after]
      exact List.suffix_append _ _

/-- A unit that reaches over a cut is torn: its part before the cut is replaced as a whole, and each of
its bytes behind the cut by itself. -/
theorem torn_of_outside {first : UInt8} {rest : List UInt8}
    (outside : rest.length + 1 < (head first (rest ++ behind)).width)
    (cutOff : head first rest = .cut (rest.length + 1)) :
    Torn (first :: rest) behind ∧
      (lossyChars 0 (first :: rest ++ behind)).length <
        (lossyChars 0 (first :: rest)).length + (lossyChars 0 behind).length := by
  obtain ⟨c, begins⟩ := begins_of_wide (show 1 < (head first (rest ++ behind)).width by omega)
  have here := (width_head first (rest ++ behind)).2
  have read := lossyChars_cons first (rest ++ behind)
  generalize (head first (rest ++ behind)).mark = mark at read
  generalize (head first (rest ++ behind)).width = width at *
  -- The unit is wider than what is before the cut, by one byte at least.
  obtain ⟨beyond, rfl⟩ : ∃ beyond, width = (first :: rest).length + (beyond + 1) :=
    ⟨width - rest.length - 2, by rw [List.length_cons]; omega⟩
  rw [← List.cons_append] at begins read
  rw [List.take_length_add_append] at begins
  rw [List.drop_length_add_append] at read
  obtain ⟨next, later, rfl⟩ : ∃ next later, behind = next :: later := by
    refine List.exists_cons_of_ne_nil fun none => ?_
    rw [none, List.append_nil, List.length_cons] at here
    omega
  constructor
  · -- The unit begins a character, which reaches to the first byte behind the cut.
    refine ⟨c, first :: rest, next, List.cons_ne_nil _ _, List.suffix_rfl, ⟨later, rfl⟩, ?_⟩
    refine List.IsPrefix.trans ?_ begins
    rw [List.take_succ_cons]
    exact (List.prefix_append_right_inj _).mpr ⟨_, rfl⟩
  · -- One mark stands for the whole unit, and one for each of its parts where it is cut.
    have continue_ : ∀ b ∈ (next :: later).take (beyond + 1), isContinuation b = true := by
      intro b member
      obtain ⟨more, whole⟩ := begins
      refine isContinuation_of_mem_tail (c := c) ?_
      rw [← whole]
      simp only [List.cons_append, List.tail_cons, List.mem_append]
      exact .inl (.inr member)
    have replaced := lossyChars_continuations continue_ ((next :: later).drop (beyond + 1))
    rw [List.take_append_drop, List.length_take, List.length_cons] at replaced
    rw [List.length_append, List.length_cons, List.length_cons] at here
    have single : lossyChars 0 (first :: rest) = ['\uFFFD'] := by
      rw [lossyChars_cons, cutOff, Head.width, ← List.length_cons (a := first), List.drop_length]
      rfl
    rw [read, single, replaced, List.length_append, List.length_replicate, List.length_cons,
      List.length_singleton]
    omega

/-- Where nothing is torn, the parts say what the whole says, and elsewhere they say more. -/
theorem lossyChars_append (before behind : List UInt8) :
    Torn before behind ∧ (lossyChars 0 (before ++ behind)).length <
        (lossyChars 0 before).length + (lossyChars 0 behind).length ∨
      ¬ Torn before behind ∧
        lossyChars 0 (before ++ behind) = lossyChars 0 before ++ lossyChars 0 behind := by
  -- By induction on the bytes before the cut, which are taken away unit by unit.
  induction size : before.length using Nat.strongRecOn generalizing before with
  | ind count ih =>
    cases before with
    | nil =>
      -- Before an empty part nothing is torn.
      refine .inr ⟨?_, rfl⟩
      rintro ⟨c, part, next, some, isLast, -⟩
      exact some (List.suffix_nil.mp isLast)
    | cons first rest =>
      rcases head_append first rest behind with ⟨inside, same, same'⟩ | ⟨outside, cutOff⟩
      · -- The first unit is whole before the cut, and is read the same with and without what is
        -- behind it.
        obtain ⟨least, _⟩ := width_head first (rest ++ behind)
        have shorter : ((first :: rest).drop (head first (rest ++ behind)).width).length < count := by
          rw [List.length_drop, ← size, List.length_cons]
          omega
        have whole : lossyChars 0 (first :: rest ++ behind) = (head first rest).mark ::
            lossyChars 0 ((first :: rest).drop (head first (rest ++ behind)).width ++ behind) := by
          rw [List.cons_append, lossyChars_cons, same', ← List.cons_append,
            List.drop_append_of_le_length inside]
        have part := lossyChars_cons first rest
        rw [same] at part
        rw [whole, part, ← torn_drop inside, List.length_cons, List.length_cons, List.cons_append]
        rcases ih _ shorter _ rfl with ⟨torn, more⟩ | ⟨untorn, equal⟩
        · exact .inl ⟨torn, by omega⟩
        · exact .inr ⟨untorn, by rw [equal]⟩
      · -- The first unit reaches over the cut.
        exact .inl (torn_of_outside outside cutOff)

/-- A text that is cut where nothing is torn is cut between two texts. -/
theorem exists_pieces {text : String} (whole : before ++ behind = encode text)
    (untorn : ¬ Torn before behind) : ∃ s t, before = encode s ∧ behind = encode t := by
  obtain ⟨cs, rfl⟩ : ∃ cs, text = String.ofList cs := ⟨text.toList, String.ofList_toList.symm⟩
  rw [encode, String.toList_ofList] at whole
  have pieces : ∃ front rest : List Char, before = front.flatMap String.utf8EncodeChar ∧
      behind = rest.flatMap String.utf8EncodeChar := by
    -- By induction on the characters, which stand before the cut or behind it as a whole.
    induction cs generalizing before with
    | nil =>
      obtain ⟨rfl, rfl⟩ := List.append_eq_nil_iff.mp whole
      exact ⟨[], [], rfl, rfl⟩
    | cons c cs ih =>
      rw [List.flatMap_cons] at whole
      rcases List.append_eq_append_iff.mp whole with ⟨left, encoded, rest⟩ | ⟨more, rfl, rest⟩
      · -- The cut is before the character, at its end, or inside it, where it would be torn.
        by_cases none : before = []
        · subst none
          exact ⟨[], c :: cs, rfl, by rw [List.flatMap_cons]; exact whole⟩
        · cases left with
          | nil =>
            rw [List.append_nil] at encoded
            exact ⟨[c], cs, by rw [List.flatMap_singleton, encoded], rest⟩
          | cons next left =>
            refine absurd ⟨c, before, next, none, List.suffix_rfl, ?_, ?_⟩ untorn
            · exact ⟨left ++ cs.flatMap String.utf8EncodeChar, rest.symm⟩
            · rw [encoded]
              exact ⟨left, by rw [List.append_assoc, List.singleton_append]⟩
      · have untorn' : ¬ Torn more behind := by
          rintro ⟨d, part, next, some, isLast, isNext, begins⟩
          exact untorn ⟨d, part, next, some, isLast.trans (List.suffix_append _ _), isNext, begins⟩
        obtain ⟨front, others, rfl, rfl⟩ := ih untorn' rest.symm
        exact ⟨c :: front, others, by rw [List.flatMap_cons], rfl⟩
  obtain ⟨front, rest, first, second⟩ := pieces
  exact ⟨String.ofList front, String.ofList rest, by rw [first, encode, String.toList_ofList],
    by rw [second, encode, String.toList_ofList]⟩

end Cut

end TemplateFacts.Utf8
