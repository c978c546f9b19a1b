import TemplateFacts.Proofs.Json.WrittenShape
import TemplateFacts.Proofs.Outcome

/-!
What can be found in a record that was read: a document that one of the readers of its fields gave, or one
that stands for an absent field. So whatever all of these have in common, the fields of a record have.
-/

namespace TemplateFacts.Json

/-- Whatever is found in the field has the property: what its reader gives, and what stands in for it. -/
structure Yields (Holds : String → Json → Prop) (reader : FieldReader) : Prop where
  given : ∀ {depth c j d}, reader.2.2 depth c = .ok (j, d) → Holds reader.1 j
  standIn : ∀ {value}, reader.2.1.standIn = some value → Holds reader.1 value

section Records

variable {Holds : String → Json → Prop} {readers : List FieldReader} {seen ms : List (String × Json)}
  {total depth : Nat} {first : Bool} {c d : Cursor} {j : Json}

/-- The members of a record are read by the readers of their fields. -/
theorem readFields_yields (yields : ∀ reader ∈ readers, Yields Holds reader) {budget : Nat}
    (before : ∀ m ∈ seen, Holds m.1 m.2)
    (reads : readFields total readers depth budget first seen c = .ok (ms, d)) :
    ∀ m ∈ ms, Holds m.1 m.2 := by
  -- By induction on the budget, one of which goes with each member.
  induction budget generalizing first seen c with
  | zero => cases reads
  | succ budget ih =>
    rw [readFields] at reads
    obtain ⟨⟨name?, c⟩, next, reads⟩ := ok_of_bind reads
    cases name? with
    | none =>
      cases reads
      exact before
    | some name =>
      dsimp only at reads
      cases known : readers.lookup name with
      | none =>
        -- What is not known is passed over, and nothing is kept of it.
        rw [known] at reads
        obtain ⟨c, -, reads⟩ := ok_of_bind reads
        obtain ⟨c, -, reads⟩ := ok_of_bind reads
        exact ih before reads
      | some reader =>
        obtain ⟨absence, read⟩ := reader
        rw [known] at reads
        dsimp only at reads
        split at reads
        · cases reads
        · -- What is kept is what the reader of the field has given.
          obtain ⟨c, -, reads⟩ := ok_of_bind reads
          obtain ⟨⟨x, c⟩, given, reads⟩ := ok_of_bind reads
          refine ih (List.forall_mem_append.mpr ⟨before, List.forall_mem_singleton.mpr ?_⟩) reads
          exact (yields _ (mem_of_lookup known)).given given

/-- A record is completed by what stands in for its absent fields. -/
theorem completeRecord_yields (yields : ∀ reader ∈ readers, Yields Holds reader)
    (before : ∀ m ∈ seen, Holds m.1 m.2) (complete : completeRecord seen readers = .ok ms) :
    ∀ m ∈ ms, Holds m.1 m.2 := by
  -- By induction on the fields, each of which was seen before or has something to stand in for it.
  induction readers generalizing ms with
  | nil =>
    cases complete
    exact fun m member => by cases member
  | cons reader readers ih =>
    obtain ⟨first, others⟩ := List.forall_mem_cons.mp yields
    obtain ⟨-, later, completed, rfl⟩ := completeRecord_cons.mp complete
    refine List.forall_mem_append.mpr ⟨fun m member => ?_, ih others completed⟩
    obtain ⟨x, held, rfl⟩ := List.mem_map.mp member
    rcases Option.or_eq_some_iff.mp (Option.mem_toList.mp held) with found | ⟨-, standIn⟩
    · exact before _ (mem_of_lookup found)
    · exact first.standIn standIn

/-- The items of a record given as a list are read by the readers of its fields. -/
theorem readSequence_yields (yields : ∀ reader ∈ readers, Yields Holds reader) {record : String}
    {count index : Nat} (reads : readSequence record count index depth first readers c = .ok (ms, d)) :
    ∀ m ∈ ms, Holds m.1 m.2 := by
  -- By induction on the fields, each of which takes the next item, if there is one.
  induction readers generalizing ms index first c with
  | nil =>
    cases reads
    exact fun m member => by cases member
  | cons reader readers ih =>
    obtain ⟨name, absence, read⟩ := reader
    obtain ⟨yield, others⟩ := List.forall_mem_cons.mp yields
    rw [readSequence] at reads
    obtain ⟨⟨c, more⟩, -, reads⟩ := ok_of_bind reads
    dsimp only at reads
    split at reads
    · obtain ⟨⟨x, c⟩, given, reads⟩ := ok_of_bind reads
      obtain ⟨⟨xs, c⟩, later, reads⟩ := ok_of_bind reads
      cases reads
      exact List.forall_mem_cons.mpr ⟨yield.given given, ih others later⟩
    · cases absence with
      | refused => cases reads
      | omitted => exact ih others reads
      | replaced value =>
        obtain ⟨⟨xs, c⟩, later, reads⟩ := ok_of_bind reads
        cases reads
        exact List.forall_mem_cons.mpr ⟨yield.standIn rfl, ih others later⟩

/-- A record is an object, and whatever is found in its fields has the property. -/
theorem readRecord_yields (yields : ∀ reader ∈ readers, Yields Holds reader) {budget : Nat}
    {name : String} (reads : readRecord budget name readers depth c = .ok (j, d)) :
    ∃ ms, j = .object ms ∧ ∀ m ∈ ms, Holds m.1 m.2 := by
  -- Only a list or an object is read as a record, and only where the reader may go deeper.
  unfold readRecord at reads
  dsimp only at reads
  split at reads
  · cases reads
  · split at reads
    · -- A list gives its items in the order of the fields.
      cases depth with
      | zero => cases reads
      | succ depth =>
        obtain ⟨⟨ms, c⟩, read, reads⟩ := ok_of_bind reads
        obtain ⟨c, -, reads⟩ := ok_of_bind reads
        cases reads
        exact ⟨ms, rfl, readSequence_yields yields read⟩
    · split at reads
      · -- An object gives its members by name, and the missing ones are completed.
        cases depth with
        | zero => cases reads
        | succ depth =>
          obtain ⟨⟨seen, c⟩, read, reads⟩ := ok_of_bind reads
          dsimp only at reads
          split at reads
          · rename_i complete completed
            cases reads
            have before := readFields_yields yields (fun m member => by cases member) read
            exact ⟨complete, rfl, completeRecord_yields yields before completed⟩
          · cases reads
      · cases reads

end Records

/-- What is found in an optional table: null, or an object of increasing names. -/
def IsTable (j : Json) : Prop := j = .null ∨ ∃ ms, j = .object ms ∧ Increasing ms

/-- A table is read as an object of increasing names, and null as itself. -/
theorem isTable_of_reads {budget depth : Nat} {c d : Cursor} {j : Json}
    (reads : (Shape.optional .table).reader budget depth c = .ok (j, d)) : IsTable j := by
  -- A table is an object whose members are kept in order.
  have table {depth : Nat} {c d : Cursor} {j : Json}
      (reads : Shape.table.reader budget depth c = .ok (j, d)) : IsTable j := by
    rw [Shape.reader] at reads
    unfold readEnclosed at reads
    dsimp only at reads
    split at reads
    · cases reads
    · split at reads
      · cases depth with
        | zero => cases reads
        | succ depth =>
          obtain ⟨⟨ms, c⟩, -, same⟩ := ok_of_map reads
          cases same
          exact .inr ⟨_, rfl, increasing_foldl_putMember List.Pairwise.nil⟩
      · cases reads
  rw [Shape.reader] at reads
  unfold readOptional at reads
  dsimp only at reads
  split at reads
  · -- Null stands for no table.
    split at reads
    · obtain ⟨c, -, same⟩ := ok_of_map reads
      cases same
      exact .inl rfl
    · exact table reads
  · exact table reads

/-- A text is read by the reader of its shape. -/
theorem exists_reader_of_ofBytes {shape : Shape} {bytes : List UInt8} {j : Json}
    (reads : shape.ofBytes bytes = .ok j) :
    ∃ budget depth c d, shape.reader budget depth c = .ok (j, d) := by
  -- The document is what the reader gave, once nothing but blanks was left.
  obtain ⟨⟨x, c⟩, read, reads⟩ := ok_of_bind reads
  dsimp only at reads
  split at reads
  · cases reads
    exact ⟨_, _, _, _, read⟩
  · cases reads

end TemplateFacts.Json
