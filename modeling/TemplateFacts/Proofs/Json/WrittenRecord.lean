import Mathlib.Data.List.Forall2
import TemplateFacts.Proofs.Json.Record
import TemplateFacts.Proofs.Json.Written

/-!
Records as they are written: what is read of a record, given as an object or as the list of its
values, is a function of the tree of its text.
-/

namespace TemplateFacts.Json

/-- A field of a record: what stands for it when it is absent, and what a tree says that is given for it. -/
abbrev WrittenField := String × (Absence × (Written → Option Json))

namespace Written

/-- What a member gives for a field, if its name is that of one. -/
def gift (fields : List WrittenField) (m : List UInt8 × Written) : Option (Option (String × Json)) :=
  -- Of a member that is not known only the name must be a text.
  (answerOf readText m.1).bind fun name =>
    match fields.lookup name with
    | none => some none
    | some (_, value) => (value m.2).map fun x => some (name, x)

/-- Keeps what is given behind what was seen, unless its name was seen before. -/
def keep (seen : List (String × Json)) : Option (String × Json) → Option (List (String × Json))
  | none => some seen
  | some (name, x) => if (seen.lookup name).isSome then none else some (seen ++ [(name, x)])

/-- What was seen is not kept again. -/
theorem keep_seen {seen : List (String × Json)} {name : String}
    (known : (seen.lookup name).isSome = true) (x : Json) :
    keep seen (some (name, x)) = none := by
  rw [keep, if_pos known]

/-- What was not seen is kept. -/
theorem keep_new {seen : List (String × Json)} {name : String}
    (new : (seen.lookup name).isSome = false) (x : Json) :
    keep seen (some (name, x)) = some (seen ++ [(name, x)]) := by
  rw [keep, if_neg (Bool.eq_false_iff.mp new)]

/-- Takes a member into account. -/
def take (fields : List WrittenField) (seen : List (String × Json)) (m : List UInt8 × Written) :
    Option (List (String × Json)) :=
  (gift fields m).bind (keep seen)

/-- The fields that a list gives in their order. -/
def takeInOrder : List WrittenField → List Written → Option (List (String × Json))
  -- Items behind the last field are refused.
  | [], [] => some []
  | [], _ :: _ => none
  | (name, _, value) :: fields, x :: xs =>
    (value x).bind fun y => (takeInOrder fields xs).map ((name, y) :: ·)
  | (name, absence, _) :: fields, [] =>
    match absence with
    | .refused => none
    | .omitted => takeInOrder fields []
    | .replaced given => (takeInOrder fields []).map ((name, given) :: ·)

/-- The record that a tree says. -/
def record (fields : List WrittenField) : Written → Option Json
  -- A scalar is no record.
  | .scalar _ => none
  | .list xs => (takeInOrder fields xs).map .object
  | .object ms =>
    (ms.foldlM (take fields) []).bind fun seen => (completeRecord seen fields).toOption.map .object

end Written

/-- A reader reads, behind blanks, what a tree says. -/
def Understands (bound : Nat) (read : Cursor → Reading Json) (value : Written → Option Json) : Prop :=
  ∀ w blank inside rest position, IsBlank blank → Written.Renders w inside → inside.length ≤ bound →
    Closed rest → Answers (read ⟨blank ++ (inside ++ rest), position⟩) (value w)
      ⟨rest, (position.afterAll blank).afterAll inside⟩

/-- The reader of a field understands what is given for the field. -/
def UnderstandsField (bound depth : Nat) (reader : FieldReader) (field : WrittenField) : Prop :=
  reader.1 = field.1 ∧ reader.2.1 = field.2.1 ∧ Understands bound (reader.2.2 depth) field.2.2

section Record

variable {bound depth total : Nat} {readers : List FieldReader} {fields : List WrittenField}
  {bytes rest : List UInt8} {position : Position}

/-- A name is known to the readers exactly when it is known to the fields. -/
theorem lookup_understands (understands : List.Forall₂ (UnderstandsField bound depth) readers fields)
    (name : String) :
    Option.Rel (fun reader field => reader.1 = field.1 ∧ Understands bound (reader.2 depth) field.2)
      (readers.lookup name) (fields.lookup name) := by
  -- By induction on the fields, of which both sides have the same names.
  induction understands with
  | nil => exact .none
  | @cons reader field readers fields first later ih =>
    obtain ⟨name', absence, read⟩ := reader
    obtain ⟨_, _, value⟩ := field
    obtain ⟨rfl, rfl, reads⟩ := first
    rw [lookup_cons, lookup_cons]
    split
    · exact .some ⟨rfl, reads⟩
    · exact ih

/-- What completes a record does not depend on how its fields are read. -/
theorem completeRecord_understands {seen : List (String × Json)}
    (understands : List.Forall₂ (UnderstandsField bound depth) readers fields) :
    completeRecord seen readers = completeRecord seen fields := by
  -- Names and absences are the same on both sides, and nothing else is looked at.
  induction understands with
  | nil => rfl
  | @cons reader field readers fields first later ih =>
    obtain ⟨name, absence, read⟩ := reader
    obtain ⟨_, _, value⟩ := field
    obtain ⟨rfl, rfl, _⟩ := first
    simp only [completeRecord, ih]

/-- The members of a record are taken one after another. -/
theorem readFields_answers {budget : Nat} {first : Bool} {seen : List (String × Json)}
    {ms : List (List UInt8 × Written)}
    (understands : List.Forall₂ (UnderstandsField bound depth) readers fields)
    (listed : Listed Written.RendersMember first ms bytes) (within : bytes.length ≤ bound)
    (total_enough : bound ≤ total) (enough : bytes.length < budget) :
    Answers (readFields total readers depth budget first seen ⟨bytes ++ 0x7D :: rest, position⟩)
      (ms.foldlM (Written.take fields) seen) ⟨0x7D :: rest, position.afterAll bytes⟩ := by
  -- By induction on the members, each of which takes a byte of the budget at least.
  induction ms generalizing first bytes budget position seen with
  | nil =>
    obtain ⟨budget, rfl⟩ := Nat.exists_eq_succ_of_ne_zero (Nat.ne_of_gt (Nat.zero_lt_of_lt enough))
    show readFields total readers depth (budget + 1) first seen _ = _
    rw [readFields, nextName_end listed]
    rfl
  | cons m ms ih =>
    obtain ⟨budget, rfl⟩ := Nat.exists_eq_succ_of_ne_zero (Nat.ne_of_gt (Nat.zero_lt_of_lt enough))
    obtain ⟨token, x⟩ := m
    obtain ⟨lead, pair, later, isLead, ⟨_, inside, passes,
      ⟨before, behind, isBlank, isBlank', rfl⟩, renders, rfl⟩, isLater, rfl⟩ := listed
    simp only [List.length_append, List.length_cons] at within enough
    have closed : Closed (later ++ 0x7D :: rest) := closed_listed isLater (closed_cons (by decide))
    -- What is said about the members behind the first one is the assumption.
    have answersLater (seen : List (String × Json)) (place : Position) : Answers
        (readFields total readers depth budget false seen ⟨later ++ 0x7D :: rest, place⟩)
        (ms.foldlM (Written.take fields) seen) ⟨0x7D :: rest, place.afterAll later⟩ :=
      ih isLater (by omega) (by omega)
    have colon : Closed (before ++ 0x3A :: (behind ++ (inside ++ (later ++ 0x7D :: rest)))) :=
      closed_blank isBlank (closed_cons (by decide))
    have found := nextName_answers position isLead fun place => gives_text passes _ place colon
    rw [readFields, List.foldlM_cons, Written.take, Written.gift]
    simp only [List.append_assoc, List.cons_append, Position.afterAll_append,
      Position.afterAll_cons]
    cases named : answerOf readText token with
    | none =>
      -- A name that cannot be read refuses the record.
      rw [named] at found
      obtain ⟨fault, refused⟩ := found
      exact ⟨fault, by rw [refused]; rfl⟩
    | some name =>
      rw [named] at found
      have read : nextName first _ = .ok (some name, _) := found
      have known := lookup_understands understands name
      rw [read]
      simp only [Except.bind, bind, Option.bind_some]
      cases found : readers.lookup name with
      | none =>
        -- What is not known is passed over.
        rw [found] at known
        cases held : fields.lookup name with
        | some field => rw [held] at known; cases known
        | none =>
          have skips (place : Position) : skipValue total
              ⟨behind ++ (inside ++ (later ++ 0x7D :: rest)), place⟩ =
                .ok ⟨later ++ 0x7D :: rest, (place.afterAll behind).afterAll inside⟩ :=
            Written.skipValue_renders isBlank' renders (by omega) closed
          simp only [readColon_blank isBlank, skips, Option.bind_some, Written.keep]
          exact answersLater seen _
      | some reader =>
        rw [found] at known
        cases held : fields.lookup name with
        | none => rw [held] at known; cases known
        | some field =>
          rw [held] at known
          obtain ⟨absence, read⟩ := reader
          obtain ⟨_, value⟩ := field
          obtain ⟨rfl, reads⟩ := Option.rel_some_some.mp known
          simp only
          rw [Option.bind_map, Option.bind_assoc]
          split
          · -- A field that is given twice is refused.
            rename_i twice
            simp only [Function.comp_apply, Written.keep_seen twice, Option.bind_none,
              Option.bind_fun_none]
            exact ⟨_, rfl⟩
          · -- A field that is new is read and kept.
            rename_i new
            simp only [readColon_blank isBlank, Function.comp_apply,
              Written.keep_new (Bool.eq_false_iff.mpr new)]
            refine Answers.bind (reads x behind inside _ _ isBlank' renders (by omega) closed)
              fun y _ => ?_
            exact answersLater _ _

/-- What is read up to the closing bracket is the given values, or else something is refused. -/
def Ends (reading : Except Fault (List (String × Json) × Cursor))
    (value : Option (List (String × Json))) (behind : Cursor) : Prop :=
  match value with
  | some xs => ∃ c, reading = .ok (xs, c) ∧ readSequenceEnd c = .ok behind
  | none => ∀ xs c, reading = .ok (xs, c) → ∃ fault, readSequenceEnd c = .error fault

/-- A field before the others is read before them. -/
theorem Ends.cons {reading : Except Fault (List (String × Json) × Cursor)}
    {value : Option (List (String × Json))} {behind : Cursor} (ends : Ends reading value behind)
    (field : String × Json) :
    Ends (Except.bind reading fun (xs, c) => .ok (field :: xs, c)) (value.map (field :: ·)) behind := by
  -- Where nothing is said the reader fails, before the field is added or behind it.
  cases value with
  | some xs =>
    obtain ⟨c, read, closes⟩ := ends
    exact ⟨c, by rw [read]; rfl, closes⟩
  | none =>
    intro ys c read
    cases same : reading with
    | error fault => rw [same] at read; cases read
    | ok given =>
      rw [same] at read
      obtain ⟨rfl, rfl⟩ := Prod.mk.inj (Except.ok.inj read)
      exact ends _ _ same

/-- Items behind the last field are refused. -/
theorem readSequenceEnd_listed {first : Bool} {x : Written} {xs : List Written}
    (listed : Listed Written.Renders first (x :: xs) bytes) :
    ∃ fault, readSequenceEnd ⟨bytes ++ 0x5D :: rest, position⟩ = .error fault := by
  obtain ⟨lead, inside, later, isLead, renders, _, rfl⟩ := listed
  obtain ⟨b, more, rfl, noSpace, noBracket, _, noComma⟩ := renders.opens
  have bracket : (b == 0x5D) = false := beq_eq_false_iff_ne.mpr noBracket
  have comma : (b == 0x2C) = false := beq_eq_false_iff_ne.mpr noComma
  have begins : Begins (b :: (more ++ (later ++ 0x5D :: rest))) := begins_cons noSpace
  simp only [List.append_assoc, List.cons_append]
  -- The first item stands behind blanks, and every other one behind a comma with blanks around it.
  cases first with
  | true =>
    rw [readSequenceEnd, skipSpace_blank isLead begins]
    simp only [bracket, comma, Bool.false_eq_true, if_false]
    exact ⟨_, rfl⟩
  | false =>
    obtain ⟨before, behind, isBlank, isBlank', rfl⟩ := isLead
    have other : ((0x2C : UInt8) == 0x5D) = false := rfl
    rw [readSequenceEnd, List.append_assoc, List.cons_append,
      skipSpace_blank isBlank (begins_cons (by decide))]
    simp only [other, Bool.false_eq_true, if_false, BEq.rfl, if_true, Cursor.next_cons,
      skipSpace_blank isBlank' begins]
    exact ⟨_, rfl⟩

/-- The values of a record are read in the order of its fields, and none may be left. -/
theorem readSequence_ends {name : String} {count index : Nat} {first : Bool} {xs : List Written}
    (understands : List.Forall₂ (UnderstandsField bound depth) readers fields)
    (listed : Listed Written.Renders first xs bytes) (within : bytes.length ≤ bound) :
    Ends (readSequence name count index depth first readers ⟨bytes ++ 0x5D :: rest, position⟩)
      (Written.takeInOrder fields xs) ⟨rest, (position.afterAll bytes).after 0x5D⟩ := by
  have none : IsBlank [] := fun b member => by cases member
  -- By induction on the fields, with the items that are left.
  induction understands generalizing first xs bytes position index with
  | nil =>
    cases xs with
    | nil =>
      refine ⟨_, rfl, ?_⟩
      rw [readSequenceEnd, skipSpace_blank listed (begins_cons (by decide))]
      simp only [BEq.rfl, if_true, Cursor.next_cons]
    | cons x xs =>
      -- There are more items than fields, and the end is not where it should be.
      intro ys c read
      obtain ⟨rfl, rfl⟩ := Prod.mk.inj (Except.ok.inj read)
      exact readSequenceEnd_listed listed
  | @cons reader field readers fields understood later ih =>
    obtain ⟨name', absence, read⟩ := reader
    obtain ⟨_, _, value⟩ := field
    obtain ⟨rfl, rfl, reads⟩ := understood
    have reads : Understands bound (read depth) value := reads
    cases xs with
    | nil =>
      -- The list is at its end, and stays there.
      have empty : Listed Written.Renders first [] [] := none
      have ends : Ends (readSequence name count (index + 1) depth first readers
          ⟨0x5D :: rest, position.afterAll bytes⟩) (Written.takeInOrder fields [])
          ⟨rest, (position.afterAll bytes).after 0x5D⟩ := ih empty (Nat.zero_le _)
      rw [readSequence, nextItem_end listed]
      simp only [Except.bind, bind, Bool.false_eq_true, if_false]
      cases absence with
      | refused => exact fun ys c read => by cases read
      | omitted => exact ends
      | replaced given => exact ends.cons (name', given)
    | cons x xs =>
      -- The next item is the value of this field.
      obtain ⟨lead, inside, later, isLead, renders, isLater, rfl⟩ := listed
      simp only [List.length_append] at within
      have closed : Closed (later ++ 0x5D :: rest) := closed_listed isLater (closed_cons (by decide))
      have answers : Answers (read depth ⟨inside ++ (later ++ 0x5D :: rest), position.afterAll lead⟩)
          (value x) ⟨later ++ 0x5D :: rest, (position.afterAll lead).afterAll inside⟩ :=
        reads x [] inside _ (position.afterAll lead) none renders (by omega) closed
      rw [readSequence, List.append_assoc, List.append_assoc, nextItem_lead isLead renders.opens,
        Written.takeInOrder, Position.afterAll_append, Position.afterAll_append]
      simp only [Except.bind, bind, if_true]
      cases given : value x with
      | none =>
        rw [given] at answers
        obtain ⟨fault, refused⟩ := answers
        intro ys c read
        rw [refused] at read
        cases read
      | some y =>
        rw [given] at answers
        have read : read depth _ = .ok (y, _) := answers
        simp only [read, Option.bind_some]
        exact (ih isLater (by omega)).cons (name', y)

/-- What is read of a record is what its tree says. -/
theorem readRecord_answers {w : Written} (name : String) (rest : List UInt8) (position : Position)
    (understands : List.Forall₂ (UnderstandsField bytes.length depth) readers fields)
    (renders : w.Renders bytes) (enough : bytes.length ≤ total) :
    Answers (readRecord total name readers (depth + 1) ⟨bytes ++ rest, position⟩)
      (w.record fields) ⟨rest, position.afterAll bytes⟩ := by
  -- By what is written: a record is given in order, in a list, or by name, in an object.
  cases w with
  | scalar token =>
    -- A scalar is neither a list nor an object.
    obtain ⟨isScalar, rfl⟩ := renders
    obtain ⟨⟨b, more, rfl, noBracket, noBrace⟩, opens⟩ := first_of_isScalar isScalar
    have bracket : (b == 0x5B) = false := beq_eq_false_iff_ne.mpr noBracket
    have brace : (b == 0x7B) = false := beq_eq_false_iff_ne.mpr noBrace
    rw [readRecord, skipSpace_begins (opens.begins rest)]
    simp only [List.cons_append, bracket, brace, Bool.false_eq_true, if_false]
    exact ⟨_, rfl⟩
  | list xs =>
    obtain ⟨inside, renders, rfl⟩ := renders
    have split : 0x5B :: (inside ++ [0x5D]) ++ rest = 0x5B :: (inside ++ 0x5D :: rest) := by simp
    have ends : Ends
        (readSequence name readers.length 0 depth true readers
          ⟨inside ++ 0x5D :: rest, position.after 0x5B⟩) (Written.takeInOrder fields xs)
        ⟨rest, ((position.after 0x5B).afterAll inside).after 0x5D⟩ :=
      readSequence_ends understands (Written.rendersItems_iff.mp renders)
        (by simp only [List.length_cons, List.length_append]; omega)
    rw [split, readRecord, skipSpace_begins (begins_cons (by decide)), Written.record,
      Position.afterAll_cons, Position.afterAll_append]
    simp only [BEq.rfl, if_true, Cursor.next_cons, Except.bind, bind]
    -- The list is closed only where all of its fields are given.
    cases given : Written.takeInOrder fields xs with
    | none =>
      rw [given] at ends
      cases read : readSequence name readers.length 0 depth true readers
          ⟨inside ++ 0x5D :: rest, position.after 0x5B⟩ with
      | error fault => exact ⟨fault, rfl⟩
      | ok found =>
        obtain ⟨fault, refused⟩ := ends _ _ read
        exact ⟨fault, by simp only [refused]⟩
    | some values =>
      rw [given] at ends
      obtain ⟨c, read, closes⟩ := ends
      show _ = Except.ok _
      simp only [read, closes]
      rfl
  | object ms =>
    obtain ⟨inside, renders, rfl⟩ := renders
    have split : 0x7B :: (inside ++ [0x7D]) ++ rest = 0x7B :: (inside ++ 0x7D :: rest) := by simp
    have noBracket : ((0x7B : UInt8) == 0x5B) = false := rfl
    simp only [List.length_cons, List.length_append, List.length_nil] at enough
    have answers : Answers
        (readFields total readers depth total true [] ⟨inside ++ 0x7D :: rest, position.after 0x7B⟩)
        (ms.foldlM (Written.take fields) []) ⟨0x7D :: rest, (position.after 0x7B).afterAll inside⟩ :=
      readFields_answers understands (Written.rendersMembers_iff.mp renders)
        (by simp only [List.length_cons, List.length_append]; omega)
        (by simp only [List.length_cons, List.length_append, List.length_nil]; omega) (by omega)
    rw [split, readRecord, skipSpace_begins (begins_cons (by decide)), Written.record,
      Position.afterAll_cons, Position.afterAll_append]
    simp only [noBracket, Bool.false_eq_true, if_false, BEq.rfl, if_true, Cursor.next_cons]
    -- What the members say is completed by what stands in for the missing ones.
    refine Answers.bind answers fun seen _ => ?_
    rw [completeRecord_understands understands]
    cases completeRecord seen fields with
    | error cause => exact ⟨_, rfl⟩
    | ok complete => rfl

end Record

section Shapes

variable {bound budget : Nat}

/-- Where any document may stand, what is read is what the tree says. -/
theorem understands_any (depth : Nat) (enough : bound ≤ budget) :
    Understands bound (Shape.any.reader budget depth) fun w => w.value depth := by
  -- Any value is read by its own meaning, with the blanks before it passed.
  intro w blank inside rest position isBlank renders within closed
  show Answers (readValue budget depth _) _ _
  rw [readValue_blank isBlank (renders.opens.begins rest)]
  exact Written.readValue_answers renders (by omega) closed

/-- What a tree says where null or an object must stand. -/
def Written.table (depth : Nat) : Written → Option Json
  | .scalar token => if token = 0x6E :: nullTail then some .null else none
  | .list _ => none
  | .object ms => (Written.object ms).value depth

/-- Where an object must stand, nothing else is read. -/
theorem readTable_refuses {depth : Nat} {b : UInt8} {rest : List UInt8} {position : Position}
    (begins : Begins (b :: rest)) (noBrace : b ≠ 0x7B) :
    ∃ fault, Shape.table.reader budget depth ⟨b :: rest, position⟩ = .error fault := by
  -- A table begins with a brace and with nothing else.
  have brace : (b == 0x7B) = false := beq_eq_false_iff_ne.mpr noBrace
  unfold Shape.reader readEnclosed
  simp only [skipSpace_begins begins, brace, Bool.false_eq_true, if_false]
  exact ⟨_, rfl⟩

/-- Where null or an object must stand, what is read is what the tree says. -/
theorem understands_table (depth : Nat) (enough : bound ≤ budget) :
    Understands bound ((Shape.optional .table).reader budget depth) (Written.table depth) := by
  intro w blank inside rest position isBlank renders within closed
  show Answers (readOptional (Shape.table.reader budget) depth _) _ _
  have begins := renders.opens.begins rest
  rw [readOptional, skipSpace_blank isBlank begins]
  -- Of the scalars only null is taken, and of the rest only objects.
  cases w with
  | scalar token =>
    obtain ⟨isScalar, rfl⟩ := renders
    by_cases null : inside = 0x6E :: nullTail
    · subst null
      rw [Written.table, if_pos rfl]
      show _ = Except.ok _
      simp only [List.cons_append, BEq.rfl, if_true, Cursor.next_cons, readIdent_append, Except.map,
        Position.afterAll_cons]
    · rw [Written.table, if_neg null]
      obtain ⟨⟨b, more, rfl, noBracket, noBrace⟩, opens⟩ := first_of_isScalar isScalar
      have letter : (b == 0x6E) = false := by
        rw [beq_eq_false_iff_ne]
        rintro rfl
        exact null (by rw [eq_null_of_isScalar isScalar])
      simp only [List.cons_append, letter, Bool.false_eq_true, if_false]
      exact readTable_refuses begins noBrace
  | list xs =>
    obtain ⟨inside, _, rfl⟩ := renders
    have noLetter : ((0x5B : UInt8) == 0x6E) = false := rfl
    simp only [List.cons_append, noLetter, Bool.false_eq_true, if_false]
    exact readTable_refuses begins (by decide)
  | object ms =>
    have answers : Answers
        (readValue budget depth ⟨inside ++ rest, position.afterAll blank⟩)
        ((Written.object ms).value depth) ⟨rest, (position.afterAll blank).afterAll inside⟩ :=
      Written.readValue_answers renders (by omega) closed
    obtain ⟨inside, _, rfl⟩ := renders
    have noLetter : ((0x7B : UInt8) == 0x6E) = false := rfl
    have noBracket : ((0x7B : UInt8) == 0x5B) = false := rfl
    -- A table is read as any object is, once it begins as one.
    have same : Shape.table.reader budget depth
        ⟨0x7B :: (inside ++ [0x7D]) ++ rest, position.afterAll blank⟩ =
          readValue budget depth ⟨0x7B :: (inside ++ [0x7D]) ++ rest, position.afterAll blank⟩ := by
      cases depth with
      | zero =>
        rw [readValue]
        unfold Shape.reader readEnclosed readNode
        rw [skipSpace_begins begins]
        simp only [List.cons_append, noBracket, Bool.false_eq_true, if_false, BEq.rfl, if_true]
      | succ depth =>
        rw [readValue]
        unfold Shape.reader readEnclosed readNode
        rw [skipSpace_begins begins]
        simp only [List.cons_append, noBracket, Bool.false_eq_true, if_false, BEq.rfl, if_true]
    simp only [List.cons_append] at same answers ⊢
    simp only [noLetter, Bool.false_eq_true, if_false, same]
    exact answers

end Shapes

end TemplateFacts.Json
