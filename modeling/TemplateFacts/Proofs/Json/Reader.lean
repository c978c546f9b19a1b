import TemplateFacts.Proofs.Json.Grammar

/-!
Reading undoes spelling: a spelled document is read as it is kept, in front of anything that does not
continue a number, and a text of the form of a document is passed over. Lists and objects are read part
by part, up to the first one that says nothing.
-/

namespace TemplateFacts.Json

section Parts

variable {first : Bool} {lead blank inside bytes rest : List UInt8} {position : Position}

/-- A bracket begins what follows blanks. -/
theorem begins_cons {b : UInt8} (noSpace : isSpace b = false) : Begins (b :: rest) :=
  ⟨b, rest, rfl, noSpace⟩

/-- The end of a list is found behind blanks. -/
theorem nextItem_end (isBlank : IsBlank blank) :
    nextItem first ⟨blank ++ 0x5D :: rest, position⟩ =
      .ok (⟨0x5D :: rest, position.afterAll blank⟩, false) := by
  -- The bracket is looked for before a comma is.
  rw [nextItem, skipSpace_blank isBlank (begins_cons (by decide))]
  simp only [BEq.rfl, if_true]

/-- An item is found behind what stands before it. -/
theorem nextItem_lead (isLead : Lead first lead) (opens : Opens inside) :
    nextItem first ⟨lead ++ (inside ++ rest), position⟩ =
      .ok (⟨inside ++ rest, position.afterAll lead⟩, true) := by
  obtain ⟨b, more, rfl, noSpace, noBracket, noBrace, noComma⟩ := opens
  have bracket : (b == 0x5D) = false := beq_eq_false_iff_ne.mpr noBracket
  have begins : Begins (b :: more ++ rest) := begins_cons noSpace
  -- The first item stands behind blanks, and every other one behind a comma with blanks around it.
  cases first with
  | true =>
    rw [nextItem, skipSpace_blank isLead begins]
    simp only [List.cons_append, bracket, Bool.false_eq_true, if_false, if_true]
  | false =>
    obtain ⟨before, behind, isBlank, isBlank', rfl⟩ := isLead
    have comma : ((0x2C : UInt8) == 0x5D) = false := rfl
    rw [nextItem, List.append_assoc, List.cons_append,
      skipSpace_blank isBlank (begins_cons (by decide))]
    simp only [comma, Bool.false_eq_true, if_false, BEq.rfl, if_true, Cursor.next_cons,
      skipSpace_blank isBlank' begins]
    simp only [List.cons_append, bracket, Bool.false_eq_true, if_false, Position.afterAll_append,
      Position.afterAll_cons]

/-- The end of an object is found behind blanks. -/
theorem nextName_end (isBlank : IsBlank blank) :
    nextName first ⟨blank ++ 0x7D :: rest, position⟩ =
      .ok (none, ⟨0x7D :: rest, position.afterAll blank⟩) := by
  -- The brace is looked for before a comma is.
  rw [nextName, skipSpace_blank isBlank (begins_cons (by decide))]
  simp only [BEq.rfl, if_true]

/-- A colon is read, up to the blanks behind it. -/
theorem readColon_blank {before : List UInt8} (isBlank : IsBlank before) :
    readColon ⟨before ++ 0x3A :: rest, position⟩ =
      .ok ⟨rest, (position.afterAll before).after 0x3A⟩ := by
  rw [readColon, skipSpace_blank isBlank (begins_cons (by decide))]
  simp only [BEq.rfl, if_true, Cursor.next_cons]

end Parts

section Answers

variable {α β : Type} {first : Bool} {bytes rest : List UInt8} {position : Position}

/-- All parts have a value when the first one and all later ones do. -/
theorem mapM_cons_eq (f : α → Option β) (x : α) (xs : List α) :
    (x :: xs).mapM f = (f x).bind fun y => (xs.mapM f).map (y :: ·) := by
  -- Both sides stop at the first item without a value.
  rw [List.mapM_cons]
  cases f x with
  | none => rfl
  | some y => cases xs.mapM f <;> rfl

/-- Parts that all have a value are what their values are. -/
theorem mapM_some_eq (f : α → β) (xs : List α) : xs.mapM (fun x => some (f x)) = some (xs.map f) :=
  List.mapM_pure

/-- Items that stand one after another are read one after another, up to one that says nothing. -/
theorem readItems_answers {item : Cursor → Reading β} {part : α → List UInt8 → Prop}
    {value : α → Option β} {budget : Nat} {xs : List α} (bound : Nat)
    (listed : Listed part first xs bytes)
    (opens : ∀ x ∈ xs, ∀ inside, part x inside → Opens inside)
    (answers : ∀ x ∈ xs, ∀ inside rest position, part x inside → inside.length ≤ bound → Closed rest →
      Answers (item ⟨inside ++ rest, position⟩) (value x) ⟨rest, position.afterAll inside⟩)
    (within : bytes.length ≤ bound) (enough : bytes.length < budget) :
    Answers (readItems item budget first ⟨bytes ++ 0x5D :: rest, position⟩) (xs.mapM value)
      ⟨0x5D :: rest, position.afterAll bytes⟩ := by
  -- By induction on the items, each of which takes a byte of the budget at least.
  induction xs generalizing first bytes budget position with
  | nil =>
    obtain ⟨budget, rfl⟩ := Nat.exists_eq_succ_of_ne_zero (Nat.ne_of_gt (Nat.zero_lt_of_lt enough))
    show readItems item (budget + 1) first _ = _
    rw [readItems, nextItem_end listed]
    rfl
  | cons x xs ih =>
    obtain ⟨budget, rfl⟩ := Nat.exists_eq_succ_of_ne_zero (Nat.ne_of_gt (Nat.zero_lt_of_lt enough))
    obtain ⟨lead, inside, later, isLead, isPart, isLater, rfl⟩ := listed
    have opensFirst := opens x List.mem_cons_self inside isPart
    -- An item has a byte at least, which pays for its step of the budget.
    have some : 0 < inside.length := by
      obtain ⟨b, more, rfl, _⟩ := opensFirst
      exact Nat.succ_pos _
    simp only [List.length_append] at within enough
    -- What comes behind the item goes on with no number.
    have closed : Closed (later ++ 0x5D :: rest) := closed_listed isLater (closed_cons (by decide))
    have answersLater (place : Position) : Answers
        (readItems item budget false ⟨later ++ 0x5D :: rest, place⟩) (xs.mapM value)
        ⟨0x5D :: rest, place.afterAll later⟩ :=
      ih isLater (fun y member => opens y (List.mem_cons_of_mem x member))
        (fun y member => answers y (List.mem_cons_of_mem x member)) (by omega) (by omega)
    rw [readItems, List.append_assoc, List.append_assoc, nextItem_lead isLead opensFirst,
      Position.afterAll_append, Position.afterAll_append, mapM_cons_eq]
    refine Answers.bind (answers x List.mem_cons_self inside _ _ isPart (by omega) closed)
      fun y _ => ?_
    rw [Option.map_eq_bind]
    exact Answers.bind (answersLater _) fun ys _ => rfl

/-- A name is found behind what stands before it, if it is a text. -/
theorem nextName_answers {lead inName : List UInt8} {name : Option String} (position : Position)
    (isLead : Lead first lead)
    (answers : ∀ place, Answers (readText ⟨inName ++ rest, place⟩) name ⟨rest, place.afterAll inName⟩) :
    Answers (nextName first ⟨lead ++ 0x22 :: (inName ++ rest), position⟩) (name.map some)
      ⟨rest, ((position.afterAll lead).after 0x22).afterAll inName⟩ := by
  have quote : ((0x22 : UInt8) == 0x7D) = false := rfl
  have begins : Begins (0x22 :: (inName ++ rest)) := begins_cons (by decide)
  have found : Answers ((readText ⟨inName ++ rest, (position.afterAll lead).after 0x22⟩).map
      fun found => (some found.1, found.2)) (name.map some)
        ⟨rest, ((position.afterAll lead).after 0x22).afterAll inName⟩ :=
    (answers _).map fun _ => rfl
  -- The first name stands behind blanks, and every other one behind a comma with blanks around it.
  cases first with
  | true =>
    rw [nextName, skipSpace_blank isLead begins]
    simp only [quote, Bool.false_eq_true, if_false, if_true, BEq.rfl, Cursor.next_cons]
    exact found
  | false =>
    obtain ⟨before, behind, isBlank, isBlank', rfl⟩ := isLead
    have comma : ((0x2C : UInt8) == 0x7D) = false := rfl
    rw [nextName, List.append_assoc, List.cons_append,
      skipSpace_blank isBlank (begins_cons (by decide))]
    simp only [comma, Bool.false_eq_true, if_false, BEq.rfl, if_true, Cursor.next_cons, quote,
      skipSpace_blank isBlank' begins]
    rw [Position.afterAll_append] at found ⊢
    exact found

/-- A name is read behind what stands before it. -/
theorem nextName_lead {lead inName : List UInt8} {name : String} (isLead : Lead first lead)
    (spells : SpellsText name inName) :
    nextName first ⟨lead ++ 0x22 :: (inName ++ rest), position⟩ =
      .ok (some name, ⟨rest, ((position.afterAll lead).after 0x22).afterAll inName⟩) := by
  -- The name in quotes is read as any other text is.
  have read (place : Position) : Answers (readText ⟨inName ++ rest, place⟩) (some name)
      ⟨rest, place.afterAll inName⟩ := readText_spells spells
  exact nextName_answers position isLead read

/-- The bytes have the form of a member, whose name and value are read or not. -/
def Pairs (value : Cursor → Reading β) (bound : Nat) (name : Option String) (given : Option β)
    (bytes : List UInt8) : Prop :=
  ∃ inName before behind inside, IsBlank before ∧ IsBlank behind ∧ Gives readText inName name ∧
    (inside.length ≤ bound → ∀ rest position, Closed rest →
      Answers (value ⟨behind ++ (inside ++ rest), position⟩) given
        ⟨rest, (position.afterAll behind).afterAll inside⟩) ∧
    bytes = 0x22 :: (inName ++ (before ++ 0x3A :: (behind ++ inside)))

/-- Members that stand one after another are read one after another, up to one that says nothing. -/
theorem readMembers_answers {value : Cursor → Reading β} {part : α → List UInt8 → Prop}
    {name : α → Option String} {given : α → Option β} {budget : Nat} {ms : List α} (bound : Nat)
    (listed : Listed part first ms bytes)
    (pairs : ∀ m ∈ ms, ∀ inside, part m inside → Pairs value bound (name m) (given m) inside)
    (within : bytes.length ≤ bound) (enough : bytes.length < budget) :
    Answers (readMembers value budget first ⟨bytes ++ 0x7D :: rest, position⟩)
      (ms.mapM fun m => (name m).bind fun s => (given m).map (s, ·))
      ⟨0x7D :: rest, position.afterAll bytes⟩ := by
  -- By induction on the members, each of which takes a byte of the budget at least.
  induction ms generalizing first bytes budget position with
  | nil =>
    obtain ⟨budget, rfl⟩ := Nat.exists_eq_succ_of_ne_zero (Nat.ne_of_gt (Nat.zero_lt_of_lt enough))
    show readMembers value (budget + 1) first _ = _
    rw [readMembers, nextName_end listed]
    rfl
  | cons m ms ih =>
    obtain ⟨budget, rfl⟩ := Nat.exists_eq_succ_of_ne_zero (Nat.ne_of_gt (Nat.zero_lt_of_lt enough))
    obtain ⟨lead, pair, later, isLead, isPart, isLater, rfl⟩ := listed
    obtain ⟨inName, before, behind, inside, isBlank, isBlank', gives, answers, rfl⟩ :=
      pairs m List.mem_cons_self pair isPart
    simp only [List.length_append, List.length_cons] at within enough
    -- What follows the pair is closed off, by a comma or by the brace.
    have closed : Closed (later ++ 0x7D :: rest) := closed_listed isLater (closed_cons (by decide))
    have answersLater (place : Position) : Answers
        (readMembers value budget false ⟨later ++ 0x7D :: rest, place⟩)
        (ms.mapM fun m => (name m).bind fun s => (given m).map (s, ·))
        ⟨0x7D :: rest, place.afterAll later⟩ :=
      ih isLater (fun n member => pairs n (List.mem_cons_of_mem m member)) (by omega) (by omega)
    -- A name ends at its quote, and so whatever follows goes on with nothing.
    have colon : Closed (before ++ 0x3A :: (behind ++ (inside ++ (later ++ 0x7D :: rest)))) :=
      closed_blank isBlank (closed_cons (by decide))
    have found := nextName_answers position isLead fun place => gives _ place colon
    rw [readMembers, mapM_cons_eq]
    simp only [List.append_assoc, List.cons_append, Position.afterAll_append,
      Position.afterAll_cons]
    -- A name that cannot be read ends the reading.
    cases named : name m with
    | none =>
      rw [named] at found
      obtain ⟨fault, refused⟩ := found
      exact ⟨fault, by rw [refused]; rfl⟩
    | some s =>
      rw [named] at found
      have read : nextName first _ = .ok (some s, _) := found
      rw [read]
      simp only [Except.bind, bind, readColon_blank isBlank, Option.bind_some]
      rw [Option.bind_map]
      refine Answers.bind (answers (by omega) _ _ closed) fun x _ => ?_
      show Answers _ (Option.map _ _) _
      rw [Option.map_eq_bind]
      exact Answers.bind (answersLater _) fun _ _ => rfl

end Answers

section Values

variable {bytes rest : List UInt8} {position : Position}

/-- The letters of an identifier are read. -/
theorem readIdent_append (letters : List UInt8) :
    readIdent letters ⟨letters ++ rest, position⟩ = .ok ⟨rest, position.afterAll letters⟩ := by
  -- Letter after letter, with nothing left over when the letters are through.
  induction letters generalizing position with
  | nil => rfl
  | cons b letters ih =>
    simp only [readIdent, List.cons_append, BEq.rfl, if_true, Cursor.next_cons, ih,
      Position.afterAll_cons]

/-- Blanks before a document are skipped. -/
theorem readNode_blank {budget : Nat} {inner : Option (Cursor → Reading Json)} {blank : List UInt8}
    (isBlank : IsBlank blank) (begins : Begins rest) :
    readNode budget inner ⟨blank ++ rest, position⟩ =
      readNode budget inner ⟨rest, position.afterAll blank⟩ := by
  unfold readNode
  rw [skipSpace_blank isBlank begins, skipSpace_begins begins]

/-- Blanks before a document are skipped at any depth. -/
theorem readValue_blank {budget depth : Nat} {blank : List UInt8} (isBlank : IsBlank blank)
    (begins : Begins rest) :
    readValue budget depth ⟨blank ++ rest, position⟩ =
      readValue budget depth ⟨rest, position.afterAll blank⟩ := by
  -- At every depth the blanks go first.
  cases depth with
  | zero => exact readNode_blank isBlank begins
  | succ depth => exact readNode_blank isBlank begins

/-- What begins with neither bracket nor brace is read as a scalar. -/
theorem readValue_scalar {budget depth : Nat} {b : UInt8} (noSpace : isSpace b = false)
    (noBracket : b ≠ 0x5B) (noBrace : b ≠ 0x7B) :
    readValue budget depth ⟨b :: rest, position⟩ = readScalar ⟨b :: rest, position⟩ := by
  have bracket : (b == 0x5B) = false := beq_eq_false_iff_ne.mpr noBracket
  have brace : (b == 0x7B) = false := beq_eq_false_iff_ne.mpr noBrace
  -- Neither a list nor an object begins here, however deep the reader may still go.
  have node (inner : Option (Cursor → Reading Json)) :
      readNode budget inner ⟨b :: rest, position⟩ = readScalar ⟨b :: rest, position⟩ := by
    unfold readNode
    rw [skipSpace_begins (begins_cons noSpace)]
    simp only [bracket, brace, Bool.false_eq_true, if_false]
  cases depth with
  | zero => exact node none
  | succ depth => exact node _

/-- A spelled null is read. -/
theorem readScalar_null :
    readScalar ⟨0x6E :: (nullTail ++ rest), position⟩ =
      .ok (.null, ⟨rest, position.afterAll (0x6E :: nullTail)⟩) := by
  simp only [readScalar, BEq.rfl, if_true, Cursor.next_cons, readIdent_append, Except.map,
    Position.afterAll_cons]

/-- A spelled truth value is read. -/
theorem readScalar_true :
    readScalar ⟨0x74 :: (trueTail ++ rest), position⟩ =
      .ok (.bool true, ⟨rest, position.afterAll (0x74 :: trueTail)⟩) := by
  -- `t` is none of the letters tried before it.
  have noNull : ((0x74 : UInt8) == 0x6E) = false := rfl
  simp only [readScalar, noNull, Bool.false_eq_true, if_false, BEq.rfl, if_true, Cursor.next_cons,
    readIdent_append, Except.map, Position.afterAll_cons]

theorem readScalar_false :
    readScalar ⟨0x66 :: (falseTail ++ rest), position⟩ =
      .ok (.bool false, ⟨rest, position.afterAll (0x66 :: falseTail)⟩) := by
  -- `f` is none of the letters tried before it.
  have noNull : ((0x66 : UInt8) == 0x6E) = false := rfl
  have noTrue : ((0x66 : UInt8) == 0x74) = false := rfl
  simp only [readScalar, noNull, noTrue, Bool.false_eq_true, if_false, BEq.rfl, if_true,
    Cursor.next_cons, readIdent_append, Except.map, Position.afterAll_cons]

/-- What begins with a quote is read as a text. -/
theorem readScalar_quote :
    readScalar ⟨0x22 :: bytes, position⟩ =
      (readText ⟨bytes, position.after 0x22⟩).map fun (s, c) => (.text s, c) := by
  -- A quote is neither a letter nor a sign nor a digit.
  have noNull : ((0x22 : UInt8) == 0x6E) = false := rfl
  have noTrue : ((0x22 : UInt8) == 0x74) = false := rfl
  have noFalse : ((0x22 : UInt8) == 0x66) = false := rfl
  have noMinus : ((0x22 : UInt8) == 0x2D) = false := rfl
  have noDigit : isDigit 0x22 = false := rfl
  simp only [readScalar, noNull, noTrue, noFalse, noMinus, noDigit, Bool.false_eq_true, if_false,
    BEq.rfl, if_true, Cursor.next_cons]

/-- A spelled text is read behind its quote. -/
theorem readScalar_text {s : String} (spells : SpellsText s bytes) :
    readScalar ⟨0x22 :: (bytes ++ rest), position⟩ =
      .ok (.text s, ⟨rest, position.afterAll (0x22 :: bytes)⟩) := by
  rw [readScalar_quote, readText_spells spells]
  rfl

/-- A spelled number is read where any document may stand. -/
theorem readValue_number {budget depth : Nat} {j : Json} (spells : SpellsNumber j bytes)
    (closed : Closed rest) :
    readValue budget depth ⟨bytes ++ rest, position⟩ = .ok (j, ⟨rest, position.afterAll bytes⟩) := by
  have read : readScalar ⟨bytes ++ rest, position⟩ = .ok (j, ⟨rest, position.afterAll bytes⟩) :=
    readScalar_number spells closed
  -- A number begins with its sign or a digit, and so with neither bracket nor brace.
  obtain ⟨negative, body, behind, rfl, reads⟩ := spells
  cases negative with
  | true =>
    rw [← read]
    exact readValue_scalar (by decide) (by decide) (by decide)
  | false =>
    obtain ⟨b, more, rfl, digit⟩ := digit_of_readNumber reads
    have noSpace : isSpace b = false := by
      cases space : isSpace b with
      | false => rfl
      | true => rw [(closed_of_isSpace space).1] at digit; cases digit
    rw [← read]
    refine readValue_scalar noSpace ?_ ?_
    · rintro rfl; cases digit
    · rintro rfl; cases digit

/-- A list is read, one level deeper, if its items are. -/
theorem readValue_list {α : Type} {budget depth : Nat} {part : α → List UInt8 → Prop}
    {value : α → Option Json} {xs : List α} {inside : List UInt8} (listed : Listed part true xs inside)
    (opens : ∀ x ∈ xs, ∀ bytes, part x bytes → Opens bytes)
    (answers : ∀ x ∈ xs, ∀ bytes rest position, part x bytes → bytes.length ≤ budget → Closed rest →
      Answers (readValue budget depth ⟨bytes ++ rest, position⟩) (value x)
        ⟨rest, position.afterAll bytes⟩)
    (within : (0x5B :: (inside ++ [0x5D])).length ≤ budget) :
    Answers (readValue budget (depth + 1) ⟨0x5B :: (inside ++ [0x5D]) ++ rest, position⟩)
      ((xs.mapM value).map .list) ⟨rest, position.afterAll (0x5B :: (inside ++ [0x5D]))⟩ := by
  -- Inside the brackets there are two bytes less to read.
  simp only [List.length_cons, List.length_append, List.length_nil] at within
  have items : Answers
      (readItems (readValue budget depth) budget true ⟨inside ++ 0x5D :: rest, position.after 0x5B⟩)
      (xs.mapM value) ⟨0x5D :: rest, (position.after 0x5B).afterAll inside⟩ :=
    readItems_answers budget listed opens answers (by omega) (by omega)
  have split : 0x5B :: (inside ++ [0x5D]) ++ rest = 0x5B :: (inside ++ 0x5D :: rest) := by simp
  rw [split, readValue, readNode, skipSpace_begins (begins_cons (by decide)), Position.afterAll_cons,
    Position.afterAll_append]
  simp only [BEq.rfl, if_true, Cursor.next_cons]
  exact items.map fun _ => rfl

/-- An object is read, one level deeper, if its members are. -/
theorem readValue_object {α : Type} {budget depth : Nat} {part : α → List UInt8 → Prop}
    {name : α → Option String} {given : α → Option Json} {ms : List α} {inside : List UInt8}
    (listed : Listed part true ms inside)
    (pairs : ∀ m ∈ ms, ∀ bytes, part m bytes →
      Pairs (readValue budget depth) budget (name m) (given m) bytes)
    (within : (0x7B :: (inside ++ [0x7D])).length ≤ budget) :
    Answers (readValue budget (depth + 1) ⟨0x7B :: (inside ++ [0x7D]) ++ rest, position⟩)
      ((ms.mapM fun m => (name m).bind fun s => (given m).map (s, ·)).map ofMembers)
      ⟨rest, position.afterAll (0x7B :: (inside ++ [0x7D]))⟩ := by
  -- Inside the braces there are two bytes less to read.
  simp only [List.length_cons, List.length_append, List.length_nil] at within
  have members : Answers
      (readMembers (readValue budget depth) budget true ⟨inside ++ 0x7D :: rest, position.after 0x7B⟩)
      (ms.mapM fun m => (name m).bind fun s => (given m).map (s, ·))
      ⟨0x7D :: rest, (position.after 0x7B).afterAll inside⟩ :=
    readMembers_answers budget listed pairs (by omega) (by omega)
  have noBracket : ((0x7B : UInt8) == 0x5B) = false := rfl
  have split : 0x7B :: (inside ++ [0x7D]) ++ rest = 0x7B :: (inside ++ 0x7D :: rest) := by simp
  rw [split, readValue, readNode, skipSpace_begins (begins_cons (by decide)), Position.afterAll_cons,
    Position.afterAll_append]
  simp only [noBracket, Bool.false_eq_true, if_false, BEq.rfl, if_true, Cursor.next_cons]
  exact members.map fun _ => rfl

/-- A spelled document is read as it is kept. -/
theorem readValue_spells {j : Json} {budget depth : Nat} (spells : Spells .strict j bytes)
    (shallow : nesting j ≤ depth) (within : bytes.length ≤ budget) (closed : Closed rest) :
    readValue budget depth ⟨bytes ++ rest, position⟩ =
      .ok (settle j, ⟨rest, position.afterAll bytes⟩) := by
  -- By induction on the document, with one level of depth for each level of nesting.
  induction j using inductionOn generalizing bytes depth rest position with
  | null =>
    obtain rfl : bytes = 0x6E :: nullTail := spells
    exact (readValue_scalar (by decide) (by decide) (by decide)).trans readScalar_null
  | bool b =>
    cases b with
    | true =>
      obtain rfl : bytes = 0x74 :: trueTail := spells
      exact (readValue_scalar (by decide) (by decide) (by decide)).trans readScalar_true
    | false =>
      obtain rfl : bytes = 0x66 :: falseTail := spells
      exact (readValue_scalar (by decide) (by decide) (by decide)).trans readScalar_false
  -- What follows does not continue a number.
  | int n => exact readValue_number spells closed
  | float x => exact readValue_number spells closed
  | text s =>
    obtain ⟨inside, spells, rfl⟩ := spells
    exact (readValue_scalar (by decide) (by decide) (by decide)).trans (readScalar_text spells)
  | list xs ih =>
    -- An item stands one level deeper than its list.
    obtain ⟨inside, spells, rfl⟩ := spells
    cases depth with
    | zero => cases shallow
    | succ depth =>
      have reads : ∀ x ∈ xs, ∀ bytes rest position, Spells .strict x bytes →
          bytes.length ≤ budget → Closed rest →
          Answers (readValue budget depth ⟨bytes ++ rest, position⟩) (some (settle x))
            ⟨rest, position.afterAll bytes⟩ := by
        intro x member bytes rest position spells within closed
        -- The budget is the same for all of the items, as each is shorter than the list.
        have deeper := nesting_item member
        exact ih x member spells (by omega) within closed
      have kept : (xs.mapM fun x => some (settle x)).map Json.list = some (.list (xs.map settle)) := by
        rw [mapM_some_eq, Option.map_some]
      rw [settle, settleItems_eq, ← Answers.some_iff, ← kept]
      exact readValue_list (spellsItems_iff.mp spells)
        (fun x _ _ spells => opens_spells (fun _ _ => opens_strict) spells) reads within
  | object ms ih =>
    -- A value stands one level deeper than its object.
    obtain ⟨inside, spells, rfl⟩ := spells
    cases depth with
    | zero => cases shallow
    | succ depth =>
      have pairs : ∀ m ∈ ms, ∀ bytes, SpellsPair SpellsText (fun _ => Spells .strict) m bytes →
          Pairs (readValue budget depth) budget (some m.1) (some (settle m.2)) bytes := by
        rintro m member _ ⟨inName, _, inside, spellsName, ⟨before, behind, isBlank, isBlank', rfl⟩,
          spells, rfl⟩
        refine ⟨inName, before, behind, inside, isBlank, isBlank',
          fun _ _ _ => readText_spells spellsName, fun within rest position closed => ?_, by simp⟩
        have opens : Opens inside := opens_spells (fun _ _ => opens_strict) spells
        have deeper := nesting_member member
        rw [readValue_blank isBlank' (opens.begins rest)]
        exact ih m member spells (by omega) within closed
      have kept : (ms.mapM fun m => (some m.1).bind fun s => (some (settle m.2)).map (s, ·)).map
          ofMembers = some (ofMembers (ms.map fun m => (m.1, settle m.2))) :=
        congrArg (Option.map ofMembers) (mapM_some_eq _ ms)
      rw [settle, settleMembers_eq, ← Answers.some_iff, ← kept]
      exact readValue_object (spellsMembers_iff.mp spells) pairs within

/-- A form of a document begins with no mark of the grammar that stands between parts. -/
theorem opens_passes {j : Json} (passes : Spells .lenient j bytes) : Opens bytes :=
  opens_spells (fun _ _ => opens_lenient) passes

/-- What suffices for a byte and more bytes suffices for a step and the bytes behind it. -/
theorem budget_cons {b : UInt8} {more : List UInt8} {budget : Nat}
    (enough : (b :: more).length ≤ budget) : ∃ less, budget = less + 1 ∧ more.length ≤ less := by
  -- The first byte is paid with one, which leaves enough for the others.
  rw [List.length_cons] at enough
  exact ⟨budget - 1, by omega, by omega⟩

/-- Blanks before a document that is passed over are skipped. -/
theorem skipValue_blank {blank : List UInt8} (budget : Nat) (isBlank : IsBlank blank)
    (begins : Begins rest) (some : 0 < budget) :
    skipValue budget ⟨blank ++ rest, position⟩ =
      skipValue budget ⟨rest, position.afterAll blank⟩ := by
  -- A budget of one is enough for the blanks.
  cases budget with
  | zero => cases some
  | succ budget => rw [skipValue, skipSpace_blank isBlank begins, skipValue, skipSpace_begins begins]

/-- What has the form of a number is passed over. -/
theorem skipValue_number {budget : Nat} (passes : PassesNumber bytes)
    (enough : bytes.length ≤ budget) (closed : Closed rest) :
    skipValue budget ⟨bytes ++ rest, position⟩ = .ok ⟨rest, position.afterAll bytes⟩ := by
  -- There is at least one byte, and as much budget.
  have opens := opens_lenient passes
  obtain ⟨b, more, same, _⟩ := id opens
  obtain ⟨budget, rfl, _⟩ := budget_cons (same ▸ enough)
  clear same enough
  obtain ⟨negative, body, behind, rfl, skips⟩ := passes
  rw [skipValue, skipSpace_begins (opens.begins rest)]
  cases negative with
  | true => exact local_skipNumber _ _ _ skips rest (position.after 0x2D) closed
  | false =>
    obtain ⟨b, more, rfl, digit⟩ := digit_of_skipNumber skips
    have ends := local_skipNumber _ _ _ skips rest position closed
    simp only [Bool.false_eq_true, if_false, List.nil_append, List.cons_append] at ends ⊢
    simp only [ne_of_isDigit (c := 0x6E) digit rfl, ne_of_isDigit (c := 0x74) digit rfl,
      ne_of_isDigit (c := 0x66) digit rfl, ne_of_isDigit (c := 0x2D) digit rfl, digit,
      Bool.false_eq_true, if_false, if_true, ends]

/-- Items of the form of documents are passed over one after another, and the closing bracket. -/
theorem skipItems_listed {first : Bool} {budget : Nat} {xs : List Json}
    (listed : Listed (Spells .lenient) first xs bytes)
    (passes : ∀ x ∈ xs, ∀ budget inside rest position, Spells .lenient x inside →
      inside.length ≤ budget → Closed rest → skipValue budget ⟨inside ++ rest, position⟩ =
        .ok ⟨rest, position.afterAll inside⟩)
    (enough : bytes.length < budget) :
    skipItems budget first ⟨bytes ++ 0x5D :: rest, position⟩ =
      .ok ⟨rest, (position.afterAll bytes).after 0x5D⟩ := by
  -- By induction on the items, each of which takes a byte of the budget at least.
  induction xs generalizing first bytes budget position with
  | nil =>
    obtain ⟨budget, rfl⟩ := Nat.exists_eq_succ_of_ne_zero (Nat.ne_of_gt (Nat.zero_lt_of_lt enough))
    rw [skipItems, skipSpace_blank listed (begins_cons (by decide))]
    simp only [BEq.rfl, if_true, Cursor.next_cons]
  | cons x xs ih =>
    obtain ⟨budget, rfl⟩ := Nat.exists_eq_succ_of_ne_zero (Nat.ne_of_gt (Nat.zero_lt_of_lt enough))
    obtain ⟨lead, inside, later, isLead, isPart, isLater, rfl⟩ := listed
    have opens : Opens inside := opens_passes isPart
    obtain ⟨b, more, rfl, noSpace, noBracket, noBrace, noComma⟩ := id opens
    have bracket : (b == 0x5D) = false := beq_eq_false_iff_ne.mpr noBracket
    simp only [List.length_append, List.length_cons] at enough
    -- What follows the item is closed off, by a comma or by the bracket.
    have closed : Closed (later ++ 0x5D :: rest) := closed_listed isLater (closed_cons (by decide))
    have passFirst (place : Position) : skipValue budget ⟨b :: more ++ (later ++ 0x5D :: rest), place⟩ =
        .ok ⟨later ++ 0x5D :: rest, place.afterAll (b :: more)⟩ :=
      passes x List.mem_cons_self budget (b :: more) _ place isPart (by simp; omega) closed
    have passLater (place : Position) : skipItems budget false ⟨later ++ 0x5D :: rest, place⟩ =
        .ok ⟨rest, (place.afterAll later).after 0x5D⟩ :=
      ih isLater (fun y member => passes y (List.mem_cons_of_mem x member)) (by omega)
    have begins := opens.begins (later ++ 0x5D :: rest)
    -- The first item stands behind blanks, and every other one behind a comma with blanks around it.
    cases first with
    | true =>
      rw [skipItems, List.append_assoc, List.append_assoc, skipSpace_blank isLead begins]
      simp only [List.cons_append] at passFirst ⊢
      simp only [bracket, Bool.false_eq_true, if_false, Bool.true_or, if_true, passFirst, passLater,
        Except.bind, bind, Position.afterAll_append, Position.afterAll_cons]
    | false =>
      obtain ⟨before, behind, isBlank, isBlank', rfl⟩ := isLead
      have comma : ((0x2C : UInt8) == 0x5D) = false := rfl
      rw [skipItems, List.append_assoc, List.append_assoc, List.append_assoc, List.cons_append,
        skipSpace_blank isBlank (begins_cons (by decide))]
      simp only [comma, Bool.false_eq_true, if_false, BEq.rfl, Bool.or_true, if_true,
        Cursor.next_cons, skipValue_blank budget isBlank' begins (by omega), passFirst,
        passLater, Except.bind, bind, Position.afterAll_append, Position.afterAll_cons]

/-- A member of the form of one is passed over, and then all others are. -/
theorem skipMembers_pair {budget : Nat} {m : String × Json} {inside : List UInt8}
    (pair : SpellsPair (fun _ => PassesText) (fun _ => Spells .lenient) m inside)
    (passes : ∀ inside rest position, Spells .lenient m.2 inside →
      inside.length ≤ budget → Closed rest → skipValue budget ⟨inside ++ rest, position⟩ =
        .ok ⟨rest, position.afterAll inside⟩)
    (enough : inside.length ≤ budget) (closed : Closed rest) :
    ∃ more, inside = 0x22 :: more ∧ ∀ position,
      (do
        let c ← skipTextFrom position (more ++ rest)
        let c ← readColon c
        let c ← skipValue budget c
        skipMembers budget false c) =
      skipMembers budget false ⟨rest, position.afterAll more⟩ := by
  -- The name, the colon and the value are passed one after the other.
  obtain ⟨inName, colon, value, passesName, ⟨before, behind, isBlank, isBlank', rfl⟩, isPart, rfl⟩ :=
    pair
  refine ⟨_, rfl, fun position => ?_⟩
  simp only [List.length_cons, List.length_append] at enough
  have begins := (opens_passes isPart).begins rest
  have passFirst (place : Position) : skipValue budget ⟨value ++ rest, place⟩ =
      .ok ⟨rest, place.afterAll value⟩ := passes value rest place isPart (by omega) closed
  simp only [List.append_assoc, List.cons_append, skipTextFrom_passes passesName, Except.bind, bind,
    readColon_blank isBlank, skipValue_blank budget isBlank' begins (by omega), passFirst,
    Position.afterAll_append, Position.afterAll_cons]

/-- Members of the form of such are passed over one after another, and the closing brace. -/
theorem skipMembers_listed {first : Bool} {budget : Nat} {ms : List (String × Json)}
    (listed : Listed (SpellsPair (fun _ => PassesText) fun _ => Spells .lenient) first ms bytes)
    (passes : ∀ m ∈ ms, ∀ budget inside rest position, Spells .lenient m.2 inside →
      inside.length ≤ budget → Closed rest → skipValue budget ⟨inside ++ rest, position⟩ =
        .ok ⟨rest, position.afterAll inside⟩)
    (enough : bytes.length < budget) :
    skipMembers budget first ⟨bytes ++ 0x7D :: rest, position⟩ =
      .ok ⟨rest, (position.afterAll bytes).after 0x7D⟩ := by
  -- By induction on the members, each of which takes a byte of the budget at least.
  induction ms generalizing first bytes budget position with
  | nil =>
    obtain ⟨budget, rfl⟩ := Nat.exists_eq_succ_of_ne_zero (Nat.ne_of_gt (Nat.zero_lt_of_lt enough))
    rw [skipMembers, skipSpace_blank listed (begins_cons (by decide))]
    simp only [BEq.rfl, if_true, Cursor.next_cons]
  | cons m ms ih =>
    obtain ⟨budget, rfl⟩ := Nat.exists_eq_succ_of_ne_zero (Nat.ne_of_gt (Nat.zero_lt_of_lt enough))
    obtain ⟨lead, inside, later, isLead, isPart, isLater, rfl⟩ := listed
    simp only [List.length_append] at enough
    have closed : Closed (later ++ 0x7D :: rest) := closed_listed isLater (closed_cons (by decide))
    obtain ⟨more, rfl, passFirst⟩ := skipMembers_pair isPart (passes m List.mem_cons_self budget)
      (by omega) closed
    simp only [List.length_cons] at enough
    have passLater (place : Position) : skipMembers budget false ⟨later ++ 0x7D :: rest, place⟩ =
        .ok ⟨rest, (place.afterAll later).after 0x7D⟩ :=
      ih isLater (fun n member => passes n (List.mem_cons_of_mem m member)) (by omega)
    have quote : ((0x22 : UInt8) == 0x7D) = false := rfl
    have begins : Begins (0x22 :: (more ++ (later ++ 0x7D :: rest))) := begins_cons (by decide)
    -- The first member stands behind blanks, and every other one behind a comma with blanks around
    -- it.
    cases first with
    | true =>
      rw [skipMembers, List.append_assoc, List.append_assoc, List.cons_append,
        skipSpace_blank isLead begins]
      simp only [quote, Bool.false_eq_true, if_false, Bool.true_or, if_true, BEq.rfl,
        Cursor.next_cons, passFirst, passLater, Position.afterAll_append, Position.afterAll_cons]
    | false =>
      obtain ⟨before, behind, isBlank, isBlank', rfl⟩ := isLead
      have comma : ((0x2C : UInt8) == 0x7D) = false := rfl
      rw [skipMembers, List.append_assoc, List.append_assoc, List.append_assoc, List.cons_append,
        List.cons_append, skipSpace_blank isBlank (begins_cons (by decide))]
      simp only [comma, Bool.false_eq_true, if_false, BEq.rfl, Bool.or_true, if_true,
        Cursor.next_cons, skipSpace_blank isBlank' begins, passFirst, passLater,
        Position.afterAll_append, Position.afterAll_cons]

/-- What has the form of a document is passed over. -/
theorem skipValue_passes {j : Json} {budget : Nat} (passes : Spells .lenient j bytes)
    (enough : bytes.length ≤ budget) (closed : Closed rest) :
    skipValue budget ⟨bytes ++ rest, position⟩ = .ok ⟨rest, position.afterAll bytes⟩ := by
  -- By induction on the document: a step is a byte at least.
  induction j using inductionOn generalizing bytes rest position budget with
  | null =>
    obtain rfl : bytes = 0x6E :: nullTail := passes
    obtain ⟨budget, rfl, less⟩ := budget_cons enough
    rw [List.cons_append, skipValue, skipSpace_begins (begins_cons (by decide))]
    exact readIdent_append nullTail
  | bool b =>
    cases b with
    | true =>
      obtain rfl : bytes = 0x74 :: trueTail := passes
      obtain ⟨budget, rfl, less⟩ := budget_cons enough
      rw [List.cons_append, skipValue, skipSpace_begins (begins_cons (by decide))]
      exact readIdent_append trueTail
    | false =>
      obtain rfl : bytes = 0x66 :: falseTail := passes
      obtain ⟨budget, rfl, less⟩ := budget_cons enough
      rw [List.cons_append, skipValue, skipSpace_begins (begins_cons (by decide))]
      exact readIdent_append falseTail
  | int n => exact skipValue_number passes enough closed
  | float x => exact skipValue_number passes enough closed
  | text s =>
    obtain ⟨inside, passes, rfl⟩ := passes
    obtain ⟨budget, rfl, less⟩ := budget_cons enough
    rw [List.cons_append, skipValue, skipSpace_begins (begins_cons (by decide))]
    exact skipTextFrom_passes passes
  | list xs ih =>
    -- The bracket is the first step, and the items have the rest of the budget.
    obtain ⟨inside, passes, rfl⟩ := passes
    obtain ⟨budget, rfl, less⟩ := budget_cons enough
    simp only [List.length_append, List.length_singleton] at less
    have items : skipItems budget true ⟨inside ++ 0x5D :: rest, position.after 0x5B⟩ =
        .ok ⟨rest, ((position.after 0x5B).afterAll inside).after 0x5D⟩ :=
      skipItems_listed (spellsItems_iff.mp passes)
        (fun x member budget inside rest position passes => ih x member passes) (by omega)
    have split : 0x5B :: (inside ++ [0x5D]) ++ rest = 0x5B :: (inside ++ 0x5D :: rest) := by simp
    rw [split, skipValue, skipSpace_begins (begins_cons (by decide))]
    simp only [Position.afterAll_cons, Position.afterAll_append, Position.afterAll_nil]
    exact items
  | object ms ih =>
    -- The brace is the first step, and the members have the rest of the budget.
    obtain ⟨inside, passes, rfl⟩ := passes
    obtain ⟨budget, rfl, less⟩ := budget_cons enough
    simp only [List.length_append, List.length_singleton] at less
    have members : skipMembers budget true ⟨inside ++ 0x7D :: rest, position.after 0x7B⟩ =
        .ok ⟨rest, ((position.after 0x7B).afterAll inside).after 0x7D⟩ :=
      skipMembers_listed (spellsMembers_iff.mp passes)
        (fun m member budget inside rest position passes => ih m member passes) (by omega)
    have split : 0x7B :: (inside ++ [0x7D]) ++ rest = 0x7B :: (inside ++ 0x7D :: rest) := by simp
    rw [split, skipValue, skipSpace_begins (begins_cons (by decide))]
    simp only [Position.afterAll_cons, Position.afterAll_append, Position.afterAll_nil]
    exact members

/-- What is read is the whole text if only blanks follow. -/
theorem finish_blank {α : Type} {x : α} {blank : List UInt8} (isBlank : IsBlank blank) :
    finish (.ok (x, ⟨blank, position⟩)) = .ok x := by
  simp only [finish, Except.bind, bind, skipSpace_end isBlank]
  rfl

/-- What is read up to blanks at the end of a text is the whole text. -/
theorem finish_answers {α : Type} {reading : Reading α} {value : Option α} {blank : List UInt8}
    (answers : Answers reading value ⟨blank, position⟩) (isBlank : IsBlank blank) :
    (finish reading).toOption = value := by
  -- Behind a value only blanks are left, and these are passed.
  cases value with
  | none =>
    obtain ⟨fault, refused⟩ := answers
    rw [refused]
    rfl
  | some x =>
    rw [Answers.some_iff.mp answers, finish_blank isBlank]
    rfl

/-- A document that is spelled among blanks is what the text says. -/
theorem ofBytes_spells {j : Json} {before behind : List UInt8} (isBlank : IsBlank before)
    (spells : Spells .strict j bytes) (isBlank' : IsBlank behind) (shallow : nesting j ≤ greatestDepth) :
    ofBytes (before ++ (bytes ++ behind)) = .ok (settle j) := by
  -- The text is blanks, a value and blanks, and the budget is the text's own length.
  have opens : Opens bytes := opens_spells (fun _ _ => opens_strict) spells
  have within : bytes.length ≤ budgetFor (before ++ (bytes ++ behind)) := by
    simp only [budgetFor, List.length_append]
    omega
  have closed : Closed behind := by
    have ends := closed_blank isBlank' closed_nil
    rwa [List.append_nil] at ends
  rw [ofBytes, Cursor.ofBytes, readValue_blank isBlank (opens.begins behind),
    readValue_spells spells shallow within closed, finish_blank isBlank']

end Values

end TemplateFacts.Json
