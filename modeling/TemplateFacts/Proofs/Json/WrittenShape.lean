import Mathlib.Data.List.Nodup
import TemplateFacts.Proofs.Json.WrittenRecord

/-!
Shapes as they are written: when a tree says what a shape expects. Of an object in braces this
depends on each member alone, on which known names come twice, and on which are missing. Of a list it
depends on each item and the field at its place.
-/

namespace TemplateFacts.Json

namespace Written

/-- What a tree says where a text must stand. -/
def text : Written → Option Json
  -- A text begins with a quote.
  | .scalar (b :: inside) => if b == 0x22 then (answerOf readText inside).map .text else none
  | _ => none

/-- What a tree says where an integer of 64 bits must stand. -/
def integer : Written → Option Json
  | .scalar token => (answerOf readScalar token).bind fun j => (fitInteger j).toOption
  | _ => none

/-- What a tree says where null may stand instead. -/
def optional (value : Written → Option Json) : Written → Option Json
  | .scalar token => if token = 0x6E :: nullTail then some .null else value (.scalar token)
  | w => value w

end Written

section Scalars

variable {token rest : List UInt8}

/-- What begins with a quote is a text that is passed over. -/
theorem passesText_of_isScalar (isScalar : IsScalar (0x22 :: rest)) : PassesText rest := by
  -- A word, a number and a text begin with different bytes.
  rcases isScalar with same | same | same | passes | ⟨inside, passes, same⟩
  · exact absurd (List.cons.inj same).1 (by decide)
  · exact absurd (List.cons.inj same).1 (by decide)
  · exact absurd (List.cons.inj same).1 (by decide)
  · exact absurd (begins_of_passesNumber passes) (by decide)
  · obtain ⟨_, rfl⟩ := List.cons.inj same
    exact passes

/-- A text is a scalar that says what the text says. -/
theorem answerOf_quote (passes : PassesText rest) :
    answerOf readScalar (0x22 :: rest) = (answerOf readText rest).map .text := by
  -- Behind the quote the text is read as a text is, whatever follows.
  have inside := gives_text passes [] ((⟨1, 0⟩ : Position).after 0x22) closed_nil
  rw [List.append_nil] at inside
  rw [answerOf, readScalar_quote]
  exact (inside.map fun _ => rfl).value_eq

/-- Only what begins like a number is an integer. -/
theorem begins_of_integer {b : UInt8} {n : Int} (isScalar : IsScalar (b :: rest))
    (answer : answerOf readScalar (b :: rest) = some (.int n)) : (b == 0x2D || isDigit b) = true := by
  -- The three words say something else, and a text says a text; what is left are the numbers.
  have words : answerOf readScalar (0x6E :: nullTail) = some .null ∧
      answerOf readScalar (0x74 :: trueTail) = some (.bool true) ∧
      answerOf readScalar (0x66 :: falseTail) = some (.bool false) := by decide
  rcases isScalar with same | same | same | passes | ⟨inside, passes, same⟩
  · rw [same, words.1] at answer
    cases answer
  · rw [same, words.2.1] at answer
    cases answer
  · rw [same, words.2.2] at answer
    cases answer
  · rcases begins_of_passesNumber passes with minus | digit
    · rw [minus, BEq.rfl, Bool.true_or]
    · rw [digit, Bool.or_true]
  · rw [same, answerOf_quote passes] at answer
    cases read : answerOf readText inside <;> rw [read] at answer <;> cases answer

end Scalars

section Readers

variable {bound budget depth : Nat} {value : Written → Option Json}

/-- A reader of scalars understands what scalars of its first bytes say, and nothing else. -/
theorem understands_kind {starts : UInt8 → Bool} {check : Json → Except Cause Json} (expected : String)
    (brackets : starts 0x5B = false ∧ starts 0x7B = false)
    (lists : ∀ xs, value (.list xs) = none) (objects : ∀ ms, value (.object ms) = none)
    (scalars : ∀ b more, IsScalar (b :: more) → value (.scalar (b :: more)) =
      if starts b then (answerOf readScalar (b :: more)).bind fun j => (check j).toOption else none) :
    Understands bound (readKind starts check expected) value := by
  -- The reader looks at the first byte behind the blank, and then reads a scalar or refuses.
  intro w blank inside rest position isBlank renders within closed
  rw [readKind, skipSpace_blank isBlank (renders.opens.begins rest)]
  have refuses {b : UInt8} {more : List UInt8} {found : Reading Json} (other : starts b = false) :
      Answers (if starts b then found else .error (refuse expected ⟨b :: more, position.afterAll blank⟩))
        none ⟨rest, (position.afterAll blank).afterAll inside⟩ := by
    simp only [other, Bool.false_eq_true, if_false]
    exact ⟨_, rfl⟩
  cases w with
  | list xs =>
    -- A list begins with a bracket, which no scalar does.
    obtain ⟨inside, _, rfl⟩ := renders
    rw [lists]
    exact refuses brackets.1
  | object ms =>
    obtain ⟨inside, _, rfl⟩ := renders
    rw [objects]
    exact refuses brackets.2
  | scalar token =>
    obtain ⟨isScalar, rfl⟩ := renders
    obtain ⟨⟨b, more, rfl, _, _⟩, _⟩ := first_of_isScalar isScalar
    rw [scalars b more isScalar]
    -- The first byte decides, as it does in what the tree says.
    cases other : starts b with
    | false =>
      rw [if_neg Bool.false_ne_true]
      exact refuses other
    | true =>
      have answers := gives_scalar isScalar rest (position.afterAll blank) closed
      rw [if_pos rfl]
      simp only [List.cons_append, other, if_true]
      cases read : answerOf readScalar (b :: more) with
      | none =>
        rw [read] at answers
        obtain ⟨fault, refused⟩ := answers
        rw [List.cons_append] at refused
        exact ⟨fault, by rw [refused]⟩
      | some j =>
        rw [read] at answers
        have found : readScalar ⟨b :: (more ++ rest), position.afterAll blank⟩ = .ok (j, _) := answers
        simp only [found, Option.bind_some]
        -- A scalar that is read may still be of another kind.
        cases check j with
        | ok x => rfl
        | error cause => exact ⟨_, rfl⟩

/-- Where a text must stand, what is read is what the tree says. -/
theorem understands_text (budget depth : Nat) :
    Understands bound (Shape.text.reader budget depth) Written.text := by
  show Understands bound (readKind (· == 0x22) .ok "a string") Written.text
  refine understands_kind "a string" ⟨rfl, rfl⟩ (fun _ => rfl) (fun _ => rfl)
    fun b more isScalar => ?_
  -- Behind the quote both read the same text.
  rw [Written.text]
  split
  · rename_i quote
    obtain rfl : b = 0x22 := beq_iff_eq.mp quote
    rw [answerOf_quote (passesText_of_isScalar isScalar)]
    cases answerOf readText more <;> rfl
  · rfl

/-- Where an integer must stand, what is read is what the tree says. -/
theorem understands_integer (budget depth : Nat) :
    Understands bound (Shape.integer.reader budget depth) Written.integer := by
  show Understands bound (readKind (fun b => b == 0x2D || isDigit b) fitInteger "i64") Written.integer
  refine understands_kind "i64" ⟨rfl, rfl⟩ (fun _ => rfl) (fun _ => rfl) fun b more isScalar => ?_
  -- A scalar that says an integer begins with a digit or a sign.
  rw [Written.integer]
  split
  · rfl
  · rename_i other
    cases read : answerOf readScalar (b :: more) with
    | none => rfl
    | some j =>
      cases j with
      | int n => exact absurd (begins_of_integer isScalar read) other
      | _ => rfl

/-- Where something may be missing, only a null is dealt with in another way. -/
theorem readOptional_of_starts {read : Reader} {c : Cursor} {b : UInt8} {more : List UInt8}
    (starts : c.skipSpace.rest = b :: more) (letter : b ≠ 0x6E) :
    readOptional read depth c = read depth c.skipSpace := by
  rw [readOptional]
  simp only [starts, beq_eq_false_iff_ne.mpr letter, Bool.false_eq_true, if_false]

/-- Where null may stand instead, what is read is what the tree says. -/
theorem understands_optional {read : Reader} (understands : Understands bound (read depth) value) :
    Understands bound (readOptional read depth) (Written.optional value) := by
  intro w blank inside rest position isBlank renders within closed
  have skipped : Cursor.skipSpace ⟨blank ++ (inside ++ rest), position⟩ =
      ⟨inside ++ rest, position.afterAll blank⟩ := skipSpace_blank isBlank (renders.opens.begins rest)
  have none : IsBlank [] := fun b member => by cases member
  have answers := understands w [] inside rest (position.afterAll blank) none renders within closed
  -- Whatever does not begin with the letter of null is read as if it could not be missing.
  have other {b : UInt8} {more : List UInt8} (same : inside = b :: more) (letter : b ≠ 0x6E)
      (passes : Written.optional value w = value w) :
      Answers (readOptional read depth ⟨blank ++ (inside ++ rest), position⟩) (Written.optional value w)
        ⟨rest, (position.afterAll blank).afterAll inside⟩ := by
    have starts : (Cursor.skipSpace ⟨blank ++ (inside ++ rest), position⟩).rest = b :: (more ++ rest) := by
      rw [skipped, same]
      rfl
    rw [readOptional_of_starts starts letter, skipped, passes]
    exact answers
  -- Null alone is taken for a missing value.
  cases w with
  | scalar token =>
    obtain ⟨isScalar, rfl⟩ := renders
    by_cases null : inside = 0x6E :: nullTail
    · subst null
      rw [readOptional, skipped, Written.optional, if_pos rfl]
      show _ = Except.ok _
      simp only [List.cons_append, BEq.rfl, if_true, Cursor.next_cons, readIdent_append, Except.map,
        Position.afterAll_cons]
    · -- Only null begins with its letter.
      obtain ⟨⟨b, more, rfl, _, _⟩, _⟩ := first_of_isScalar isScalar
      refine other rfl ?_ (by rw [Written.optional, if_neg null])
      rintro rfl
      exact null (by rw [eq_null_of_isScalar isScalar])
  | list xs =>
    obtain ⟨inside, _, rfl⟩ := renders
    exact other rfl (by decide) rfl
  | object ms =>
    obtain ⟨inside, _, rfl⟩ := renders
    exact other rfl (by decide) rfl

/-- Where a record must stand, what is read is what the tree says. -/
theorem understands_record {readers : List FieldReader} {fields : List WrittenField} (name : String)
    (understands : List.Forall₂ (UnderstandsField bound depth) readers fields) (enough : bound ≤ budget) :
    Understands bound (readRecord budget name readers (depth + 1)) (Written.record fields) := by
  intro w blank inside rest position isBlank renders within closed
  -- The fields are understood up to the length of the object, which is within the bound.
  have shorter : List.Forall₂ (UnderstandsField inside.length depth) readers fields :=
    understands.imp fun _ _ ⟨name, absence, reads⟩ => ⟨name, absence,
      fun w blank bytes rest position isBlank renders short =>
        reads w blank bytes rest position isBlank renders (short.trans within)⟩
  rw [readRecord_blank isBlank (renders.opens.begins rest)]
  exact readRecord_answers name rest _ shorter renders (within.trans enough)

end Readers

namespace Written

variable {fields : List WrittenField} {seen values : List (String × Json)}
  {m : List UInt8 × Written} {ms : List (List UInt8 × Written)} {w : Written} {depth : Nat}

/-- The name of a member, if it is a text that can be read. -/
def nameOf (m : List UInt8 × Written) : Option String := answerOf readText m.1

/-- What the members give for the fields. -/
def given (fields : List WrittenField) (ms : List (List UInt8 × Written)) : List (String × Json) :=
  ms.filterMap fun m => (gift fields m).join

/-- A member can be taken when its name can be read, and its value too if the name is known. -/
theorem isSome_gift : (gift fields m).isSome = true ↔
    ∃ name, nameOf m = some name ∧
      ∀ absence value, fields.lookup name = some (absence, value) → (value m.2).isSome = true := by
  rw [gift, nameOf]
  -- What cannot be named gives nothing, and an unknown name gives nothing to be read.
  cases answerOf readText m.1 with
  | none =>
    constructor
    · intro taken
      cases taken
    · rintro ⟨name, named, _⟩
      cases named
  | some name =>
    -- A name is known to a field, or passed over together with its value.
    rw [Option.bind_some]
    constructor
    · intro taken
      refine ⟨name, rfl, fun absence value known => ?_⟩
      simpa only [known, Option.isSome_map] using taken
    · rintro ⟨_, named, values⟩
      cases named
      cases known : fields.lookup name with
      | none => rfl
      | some field => simpa only [Option.isSome_map] using values field.1 field.2 known

/-- What a member gives for a field stands under the name of the field. -/
theorem gift_eq_some {name : String} {x : Json} : gift fields m = some (some (name, x)) ↔
    nameOf m = some name ∧
      ∃ absence value, fields.lookup name = some (absence, value) ∧ value m.2 = some x := by
  rw [gift, nameOf]
  -- The name of the member decides which field it is for.
  cases answerOf readText m.1 with
  | none => simp
  | some other =>
    rw [Option.bind_some, Option.some.injEq]
    cases known : fields.lookup other with
    | none =>
      -- An unknown name is nobody's gift.
      constructor
      · intro nothing
        cases nothing
      · rintro ⟨rfl, absence, value, found, _⟩
        rw [known] at found
        cases found
    | some field =>
      obtain ⟨absence, value⟩ := field
      constructor
      · intro gives
        obtain ⟨y, read, same⟩ := Option.map_eq_some_iff.mp gives
        obtain ⟨rfl, rfl⟩ := Prod.mk.inj (Option.some.inj same)
        exact ⟨rfl, absence, value, known, read⟩
      · rintro ⟨rfl, _, _, found, read⟩
        rw [known] at found
        cases found
        simp only [read, Option.map_some]

/-- A list says the first field with its first item, and the others with the rest. -/
theorem isSome_takeInOrder_cons {field : WrittenField} {xs : List Written} :
    (takeInOrder (field :: fields) (w :: xs)).isSome = true ↔
      (field.2.2 w).isSome = true ∧ (takeInOrder fields xs).isSome = true := by
  -- The first value is taken by the first field, the others by those behind it.
  obtain ⟨name, absence, value⟩ := field
  simp only [takeInOrder]
  cases value w <;> simp

/-- What is given for the fields is what some member gives. -/
theorem mem_given {entry : String × Json} :
    entry ∈ given fields ms ↔ ∃ m ∈ ms, gift fields m = some (some entry) := by
  simp only [given, List.mem_filterMap, Option.join_eq_some_iff]

/-- The known names are those of the members that can be taken. -/
theorem names_given (taken : ∀ m ∈ ms, (gift fields m).isSome = true) :
    (given fields ms).map Prod.fst =
      (ms.filterMap nameOf).filter fun name => (fields.lookup name).isSome := by
  -- By induction on the members: an unknown name is taken and gives nothing.
  induction ms with
  | nil => rfl
  | cons m ms ih =>
    obtain ⟨first, later⟩ := List.forall_mem_cons.mp taken
    obtain ⟨name, named, values⟩ := isSome_gift.mp first
    rw [List.filterMap_cons, named]
    cases known : fields.lookup name with
    | none =>
      have gives : gift fields m = some none := by
        rw [gift, ← nameOf, named, Option.bind_some, known]
      simp only [List.filter_cons, known, Option.isSome_none, Bool.false_eq_true, if_false, ← ih later,
        given, List.filterMap_cons, gives, Option.join_some]
    | some field =>
      obtain ⟨x, read⟩ := Option.isSome_iff_exists.mp (values field.1 field.2 known)
      have gives : gift fields m = some (some (name, x)) :=
        gift_eq_some.mpr ⟨named, field.1, field.2, known, read⟩
      simp only [List.filter_cons, known, Option.isSome_some, if_true, ← ih later, given,
        List.filterMap_cons, gives, Option.join_some, List.map_cons]

/-- Members are taken when each can be, and no known name comes twice. -/
theorem foldlM_take (distinct : (seen.map Prod.fst).Nodup) :
    ms.foldlM (take fields) seen = some values ↔
      (∀ m ∈ ms, (gift fields m).isSome = true) ∧ ((seen ++ given fields ms).map Prod.fst).Nodup ∧
        values = seen ++ given fields ms := by
  -- By induction on the members, each of which adds at most one name to those seen.
  induction ms generalizing seen with
  | nil => simpa [given, distinct] using eq_comm
  | cons m ms ih =>
    rw [List.foldlM_cons, take, List.forall_mem_cons]
    -- A member is refused, passed over, or one entry more.
    cases gives : gift fields m with
    | none => simp
    | some kept =>
      cases kept with
      | none =>
        have same : given fields (m :: ms) = given fields ms := by simp [given, gives]
        rw [same]
        simpa [keep] using ih distinct
      | some entry =>
        obtain ⟨name, x⟩ := entry
        have same : seen ++ given fields (m :: ms) = (seen ++ [(name, x)]) ++ given fields ms := by
          simp [given, gives]
        rw [same]
        have names : (seen ++ [(name, x)]).map Prod.fst = seen.map Prod.fst ++ [name] := by simp
        cases known : (seen.lookup name).isSome with
        | true =>
          -- The name is seen already, and so comes twice.
          have twice : ¬ ((seen ++ [(name, x)] ++ given fields ms).map Prod.fst).Nodup := by
            rw [List.map_append, names]
            intro nodup
            obtain ⟨y, found⟩ := Option.isSome_iff_exists.mp known
            exact List.disjoint_of_nodup_append nodup.of_append_left
              (List.mem_map_of_mem (mem_of_lookup found)) List.mem_cons_self
          rw [Option.bind_some, keep_seen known]
          constructor
          · intro none
            cases none
          · exact fun all => absurd all.2.1 twice
        | false =>
          have new : name ∉ seen.map Prod.fst := by
            -- The name is new, and is one more of those seen.
            intro member
            obtain ⟨⟨_, y⟩, inside, rfl⟩ := List.mem_map.mp member
            rw [lookup_of_mem distinct inside] at known
            cases known
          have distinct' : ((seen ++ [(name, x)]).map Prod.fst).Nodup := by
            rw [names]
            exact List.nodup_append.mpr ⟨distinct, List.nodup_singleton name, fun a member b single =>
              fun same => new (List.mem_singleton.mp single ▸ same ▸ member)⟩
          rw [Option.bind_some, keep_new known]
          simpa using ih distinct'

end Written

section Complete

variable {α : Type} {seen values : List (String × Json)} {fields : List (String × (Absence × α))}

/-- What stands in for an absent field. -/
def Absence.standIn : Absence → Option Json
  | .refused | .omitted => none
  | .replaced value => some value

/-- A record is completed field by field. -/
theorem completeRecord_cons {field : String × (Absence × α)} :
    completeRecord seen (field :: fields) = .ok values ↔
      (field.2.1 = .refused → (seen.lookup field.1).isSome = true) ∧
        ∃ later, completeRecord seen fields = .ok later ∧
          values = ((seen.lookup field.1).or field.2.1.standIn).toList.map (field.1, ·) ++ later := by
  obtain ⟨name, absence, what⟩ := field
  simp only [completeRecord]
  -- What is left to complete does not depend on the field.
  cases completeRecord seen fields with
  | error cause => cases seen.lookup name <;> cases absence <;> simp [Except.map]
  | ok later =>
    cases seen.lookup name <;> cases absence <;> simp [Except.map, Absence.standIn, eq_comm]

/-- A record is complete when no field is missing that must be present. -/
theorem completeRecord_ok : (∃ values, completeRecord seen fields = .ok values) ↔
    ∀ field ∈ fields, field.2.1 = .refused → (seen.lookup field.1).isSome = true := by
  -- By induction on the fields, which are completed one by one.
  induction fields with
  | nil => simp [completeRecord]
  | cons field fields ih =>
    rw [List.forall_mem_cons, ← ih]
    simp only [completeRecord_cons, exists_and_left]
    refine and_congr_right fun _ => ⟨?_, ?_⟩
    · rintro ⟨_, later, complete, _⟩
      exact ⟨later, complete⟩
    · rintro ⟨later, complete⟩
      exact ⟨_, later, complete, rfl⟩

/-- A complete record holds fields only. -/
theorem names_completeRecord (complete : completeRecord seen fields = .ok values) :
    ∀ value ∈ values, value.1 ∈ fields.map Prod.fst := by
  -- By induction on the fields: each adds a value under its own name, or none.
  induction fields generalizing values with
  | nil =>
    cases complete
    exact fun value member => by cases member
  | cons field fields ih =>
    obtain ⟨_, later, rest, rfl⟩ := completeRecord_cons.mp complete
    intro value member
    rcases List.mem_append.mp member with own | other
    · obtain ⟨x, _, rfl⟩ := List.mem_map.mp own
      exact List.mem_cons_self
    · exact List.mem_cons_of_mem _ (ih rest value other)

/-- A complete record holds for each field what was seen of it, or else what stands in for it. -/
theorem lookup_completeRecord (complete : completeRecord seen fields = .ok values)
    (distinct : (fields.map Prod.fst).Nodup) {field : String × (Absence × α)} (member : field ∈ fields) :
    values.lookup field.1 = (seen.lookup field.1).or field.2.1.standIn := by
  -- By induction on the fields, whose names are all different.
  induction fields generalizing values with
  | nil => cases member
  | cons first fields ih =>
    obtain ⟨_, later, rest, rfl⟩ := completeRecord_cons.mp complete
    rw [List.map_cons, List.nodup_cons] at distinct
    rw [List.lookup_append]
    rcases List.mem_cons.mp member with rfl | inside
    · -- The field is the first one, and no later one has its name.
      cases (seen.lookup field.1).or field.2.1.standIn with
      | some x => simp
      | none =>
        -- Behind a field that is left out the name stands nowhere else.
        cases held : later.lookup field.1 with
        | none => rfl
        | some x => exact absurd (names_completeRecord rest _ (mem_of_lookup held)) distinct.1
    · -- The field is a later one, and the first one has another name.
      have other : field.1 ≠ first.1 := fun same => distinct.1 (same ▸ List.mem_map_of_mem inside)
      rw [ih rest distinct.2 inside]
      cases (seen.lookup first.1).or first.2.1.standIn with
      | some x => simp [lookup_cons, other]
      | none => rfl

end Complete

namespace Written

variable {fields : List WrittenField} {ms : List (List UInt8 × Written)}

/-- What an object says where a record must stand. -/
theorem record_object {j : Json} : (Written.object ms).record fields = some j ↔
    (∀ m ∈ ms, (gift fields m).isSome = true) ∧ ((given fields ms).map Prod.fst).Nodup ∧
      ∃ values, completeRecord (given fields ms) fields = .ok values ∧ j = .object values := by
  have none : (([] : List (String × Json)).map Prod.fst).Nodup := List.nodup_nil
  -- An object is taken member by member, and then completed.
  rw [record]
  constructor
  · intro reads
    obtain ⟨seen, takes, completes⟩ := Option.bind_eq_some_iff.mp reads
    obtain ⟨taken, distinct, rfl⟩ := (foldlM_take none).mp takes
    rw [List.nil_append] at distinct completes
    obtain ⟨values, complete, rfl⟩ := Option.map_eq_some_iff.mp completes
    refine ⟨taken, distinct, values, ?_, rfl⟩
    -- What the completion says is the record, unless something is missing.
    cases read : completeRecord (given fields ms) fields with
    | error cause => rw [read] at complete; cases complete
    | ok found => rw [read] at complete; rw [Option.some.inj complete]
  · rintro ⟨taken, distinct, values, complete, rfl⟩
    have takes : ms.foldlM (take fields) [] = some (given fields ms) :=
      (foldlM_take none).mpr ⟨taken, distinct, rfl⟩
    rw [takes, Option.bind_some, complete]
    rfl

/-- A field is given exactly when a member has its name. -/
theorem isSome_lookup_given (taken : ∀ m ∈ ms, (gift fields m).isSome = true)
    (distinct : ((given fields ms).map Prod.fst).Nodup) {name : String}
    (known : (fields.lookup name).isSome = true) :
    ((given fields ms).lookup name).isSome = true ↔ ∃ m ∈ ms, nameOf m = some name := by
  have named : name ∈ (given fields ms).map Prod.fst ↔ ∃ m ∈ ms, nameOf m = some name := by
    rw [names_given taken, List.mem_filter, List.mem_filterMap, and_iff_left known]
  -- A field that is given stands under its name in what the members give.
  rw [← named, List.mem_map]
  constructor
  · intro isSome
    obtain ⟨x, found⟩ := Option.isSome_iff_exists.mp isSome
    exact ⟨(name, x), mem_of_lookup found, rfl⟩
  · rintro ⟨entry, member, rfl⟩
    rw [lookup_of_mem distinct member]
    rfl

/-- An object says a record when each member can be taken, no known name comes twice, and no field is
missing that must be present. -/
theorem isSome_record_object (fieldNames : (fields.map Prod.fst).Nodup) :
    ((Written.object ms).record fields).isSome = true ↔
      (∀ m ∈ ms, (gift fields m).isSome = true) ∧
        ((ms.filterMap nameOf).filter fun name => (fields.lookup name).isSome).Nodup ∧
        ∀ field ∈ fields, field.2.1 = .refused → ∃ m ∈ ms, nameOf m = some field.1 := by
  -- The members that can be taken give each known name once, and what they give is to be completed.
  constructor
  · intro isSome
    obtain ⟨_, reads⟩ := Option.isSome_iff_exists.mp isSome
    obtain ⟨taken, distinct, values, complete, _⟩ := record_object.mp reads
    refine ⟨taken, names_given taken ▸ distinct, fun field member refused => ?_⟩
    have known : (fields.lookup field.1).isSome = true := by rw [lookup_of_mem fieldNames member]; rfl
    exact (isSome_lookup_given taken distinct known).mp
      (completeRecord_ok.mp ⟨values, complete⟩ field member refused)
  · rintro ⟨taken, distinct, present⟩
    rw [← names_given taken] at distinct
    obtain ⟨values, complete⟩ := completeRecord_ok.mpr fun field member refused =>
      have known : (fields.lookup field.1).isSome = true := by rw [lookup_of_mem fieldNames member]; rfl
      (isSome_lookup_given taken distinct known).mpr (present field member refused)
    exact Option.isSome_iff_exists.mpr
      ⟨.object values, record_object.mpr ⟨taken, distinct, values, complete, rfl⟩⟩

end Written

namespace Written

variable {fields : List WrittenField} {xs : List Written} {values : List (String × Json)}

/-- What holds of each entry holds of the first one, and of those behind it at one place more. -/
theorem forall_getElem?_cons {α : Type} {first : α} {later : List α} {p : Nat → α → Prop} :
    (∀ place entry, (first :: later)[place]? = some entry → p place entry) ↔
      p 0 first ∧ ∀ place entry, later[place]? = some entry → p (place + 1) entry := by
  -- Index 0 is the first entry, and every later index is one more than in the rest.
  constructor
  · intro each
    exact ⟨each 0 first rfl, fun place entry found => each (place + 1) entry found⟩
  · rintro ⟨own, each⟩ place entry found
    cases place with
    | zero => cases found; exact own
    | succ place => exact each place entry found

/-- An item can be read by its field, and a field without an item may be absent. -/
def Fits (field : WrittenField) (item : Option Written) : Prop :=
  (∀ x ∈ item, (field.2.2 x).isSome = true) ∧ (item = none → field.2.1 ≠ .refused)

/-- A list says a record when it is not longer than the fields, and each field fits the item at its
place. -/
theorem isSome_takeInOrder : (takeInOrder fields xs).isSome = true ↔
    xs.length ≤ fields.length ∧
      ∀ (place : Nat) field, fields[place]? = some field → Fits field xs[place]? := by
  -- By induction on the fields, with the items that are left.
  induction fields generalizing xs with
  | nil => cases xs <;> simp [takeInOrder]
  | cons field fields ih =>
    rw [forall_getElem?_cons]
    -- An item is for the first field, or there is none and the field stands in for itself.
    cases xs with
    | nil =>
      obtain ⟨name, absence, value⟩ := field
      have later := @ih []
      simp only [List.getElem?_nil, List.length_nil, Nat.zero_le, true_and] at later ⊢
      rw [← later]
      cases absence <;> simp [takeInOrder, Fits]
    | cons x xs =>
      rw [isSome_takeInOrder_cons, ih]
      simp only [List.getElem?_cons_zero, List.getElem?_cons_succ, List.length_cons,
        Nat.add_le_add_iff_right, Fits, Option.mem_some_iff, forall_eq', reduceCtorEq, false_implies,
        and_true]
      exact and_left_comm

/-- What a list says of a record is named as the fields are. -/
theorem names_takeInOrder (taken : takeInOrder fields xs = some values) :
    ∀ value ∈ values, value.1 ∈ fields.map Prod.fst := by
  -- By induction on the fields, with the items that are left.
  induction fields generalizing xs values with
  | nil =>
    cases xs with
    | nil => cases taken; simp
    | cons x xs => cases taken
  | cons field fields ih =>
    obtain ⟨name, absence, value⟩ := field
    -- What later fields give has their names.
    have behind {ys : List Written} {later : List (String × Json)}
        (rest : takeInOrder fields ys = some later) :
        ∀ entry ∈ later, entry.1 ∈ name :: fields.map Prod.fst :=
      fun entry member => List.mem_cons_of_mem _ (ih rest entry member)
    have before {ys : List Written} {y : Json}
        (rest : (takeInOrder fields ys).map ((name, y) :: ·) = some values) :
        ∀ entry ∈ values, entry.1 ∈ name :: fields.map Prod.fst := by
      obtain ⟨later, more, rfl⟩ := Option.map_eq_some_iff.mp rest
      exact List.forall_mem_cons.mpr ⟨List.mem_cons_self, behind more⟩
    cases xs with
    | nil =>
      cases absence with
      | refused => cases taken
      | omitted => exact behind taken
      | replaced given => exact before taken
    | cons x xs =>
      obtain ⟨y, _, rest⟩ := Option.bind_eq_some_iff.mp taken
      exact before rest

/-- A record that is given as a list holds for each field what the item at its place says, or else
what stands in for the field. -/
theorem lookup_takeInOrder (distinct : (fields.map Prod.fst).Nodup)
    (taken : takeInOrder fields xs = some values) :
    ∀ (place : Nat) field, fields[place]? = some field →
      values.lookup field.1 = (xs[place]?).elim field.2.1.standIn field.2.2 := by
  -- By induction on the fields, with the items that are left.
  induction fields generalizing xs values with
  | nil => simp
  | cons first fields ih =>
    obtain ⟨name, absence, value⟩ := first
    rw [List.map_cons, List.nodup_cons] at distinct
    obtain ⟨new, distinct⟩ := distinct
    rw [forall_getElem?_cons]
    -- The name of the first field comes only with the first field.
    have absent {ys : List Written} {later : List (String × Json)}
        (rest : takeInOrder fields ys = some later) : later.lookup name = none := by
      rw [← Option.not_isSome_iff_eq_none, Option.isSome_iff_exists]
      rintro ⟨y, found⟩
      exact new (names_takeInOrder rest _ (mem_of_lookup found))
    have before {ys : List Written} {y : Json}
        (rest : (takeInOrder fields ys).map ((name, y) :: ·) = some values) :
        values.lookup name = some y ∧ ∀ (place : Nat) field, fields[place]? = some field →
          values.lookup field.1 = (ys[place]?).elim field.2.1.standIn field.2.2 := by
      obtain ⟨later, more, rfl⟩ := Option.map_eq_some_iff.mp rest
      refine ⟨by rw [lookup_cons, if_pos rfl], fun place field found => ?_⟩
      have other : field.1 ≠ name := by
        intro same
        exact new (List.mem_map.mpr ⟨field, List.mem_of_getElem? found, same⟩)
      rw [lookup_cons, if_neg other]
      exact ih distinct more place field found
    cases xs with
    | nil =>
      cases absence with
      -- A field that has to be given refuses the list.
      | refused => cases taken
      | omitted => exact ⟨absent taken, ih distinct taken⟩
      | replaced given => exact before taken
    | cons x xs =>
      obtain ⟨y, read, rest⟩ := Option.bind_eq_some_iff.mp taken
      obtain ⟨own, later⟩ := before rest
      exact ⟨own.trans read.symm, later⟩

end Written

end TemplateFacts.Json
