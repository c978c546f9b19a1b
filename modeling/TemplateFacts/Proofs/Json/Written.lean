import TemplateFacts.Proofs.Json.Compact
import TemplateFacts.Proofs.Json.Token

/-!
Written documents: the tree of the tokens of a text, blanks left out. Not every one of them is read,
as its numbers may be out of range, its texts no texts and its nesting too deep. What is read of a
text, or that nothing is, is a function of its tree.
-/

namespace TemplateFacts.Json

/-- A document as it is written: scalars as their tokens, and names behind their opening quotes. -/
inductive Written where
  | scalar (token : List UInt8)
  | list (items : List Written)
  | object (members : List (List UInt8 × Written))

/-- The bytes have the form of a scalar. -/
def IsScalar (token : List UInt8) : Prop :=
  token = 0x6E :: nullTail ∨ token = 0x74 :: trueTail ∨ token = 0x66 :: falseTail ∨
    PassesNumber token ∨ ∃ inside, PassesText inside ∧ token = 0x22 :: inside

namespace Written

/-- What holds of the parts of a tree holds of the tree. -/
@[elab_as_elim]
theorem inductionOn {motive : Written → Prop} (scalar : ∀ token, motive (.scalar token))
    (list : ∀ xs, (∀ x ∈ xs, motive x) → motive (.list xs))
    (object : ∀ ms, (∀ m ∈ ms, motive m.2) → motive (.object ms)) (w : Written) : motive w :=
  @Written.rec motive (fun xs => ∀ x ∈ xs, motive x) (fun ms => ∀ m ∈ ms, motive m.2)
    (fun m => motive m.2)
    scalar list object
    (fun _ member => by cases member)
    (fun _ _ first later y member => by
      rcases List.mem_cons.mp member with rfl | inside
      · exact first
      · exact later y inside)
    (fun _ member => by cases member)
    (fun _ _ first later y member => by
      rcases List.mem_cons.mp member with rfl | inside
      · exact first
      · exact later y inside)
    (fun _ _ value => value) w

mutual
/-- The bytes have the tokens of a tree, with any blanks between them. -/
def Renders : Written → List UInt8 → Prop
  -- No blank stands before or behind a document.
  | .scalar token, bytes => IsScalar token ∧ bytes = token
  | .list xs, bytes => ∃ inside, RendersItems true xs inside ∧ bytes = 0x5B :: (inside ++ [0x5D])
  | .object ms, bytes => ∃ inside, RendersMembers true ms inside ∧ bytes = 0x7B :: (inside ++ [0x7D])
termination_by structural w => w

/-- The bytes have the tokens of the items of a list. -/
def RendersItems : Bool → List Written → List UInt8 → Prop
  | _, [], bytes => IsBlank bytes
  | first, x :: xs, bytes => ∃ lead inside later, Lead first lead ∧ Renders x inside ∧
      RendersItems false xs later ∧ bytes = lead ++ (inside ++ later)
termination_by structural _ xs => xs

/-- The bytes have the tokens of the members of an object. -/
def RendersMembers : Bool → List (List UInt8 × Written) → List UInt8 → Prop
  | _, [], bytes => IsBlank bytes
  | first, m :: ms, bytes => ∃ lead inside later, Lead first lead ∧ RendersMember m inside ∧
      RendersMembers false ms later ∧ bytes = lead ++ (inside ++ later)
termination_by structural _ ms => ms

/-- The bytes have the tokens of a member. -/
def RendersMember : List UInt8 × Written → List UInt8 → Prop
  | (name, x), bytes => ∃ colon inside, PassesText name ∧ Colon colon ∧ Renders x inside ∧
      bytes = 0x22 :: (name ++ (colon ++ inside))
termination_by structural m => m
end

mutual
/-- The document that a tree says, if it says one that nests no deeper than the given depth. -/
def value : Written → (depth : Nat) → Option Json
  -- Each bracket and brace takes one from the depth.
  | .scalar token, _ => answerOf readScalar token
  | .list xs, depth => match depth with
    | 0 => none
    | depth + 1 => (valueItems xs depth).map .list
  | .object ms, depth => match depth with
    | 0 => none
    | depth + 1 => (valueMembers ms depth).map ofMembers
termination_by structural w => w

/-- The documents that items say. -/
def valueItems : List Written → (depth : Nat) → Option (List Json)
  | [], _ => some []
  | x :: xs, depth => (value x depth).bind fun y => (valueItems xs depth).map (y :: ·)
termination_by structural xs => xs

/-- The members that members say. -/
def valueMembers : List (List UInt8 × Written) → (depth : Nat) → Option (List (String × Json))
  | [], _ => some []
  | m :: ms, depth => (valueMember m depth).bind fun y => (valueMembers ms depth).map (y :: ·)
termination_by structural ms => ms

/-- The member that a member says. -/
def valueMember : List UInt8 × Written → (depth : Nat) → Option (String × Json)
  | (token, x), depth => (answerOf readText token).bind fun name => (value x depth).map (name, ·)
termination_by structural m => m
end

section Listed

variable {first : Bool} {bytes : List UInt8}

theorem rendersItems_iff {xs : List Written} :
    RendersItems first xs bytes ↔ Listed Renders first xs bytes := by
  -- Both say the same of the first item and of the rest.
  induction xs generalizing first bytes with
  | nil => exact Iff.rfl
  | cons x xs ih => simp only [RendersItems, Listed, ih]

theorem rendersMembers_iff {ms : List (List UInt8 × Written)} :
    RendersMembers first ms bytes ↔ Listed RendersMember first ms bytes := by
  -- Both say the same of the first member and of the rest.
  induction ms generalizing first bytes with
  | nil => exact Iff.rfl
  | cons m ms ih => simp only [RendersMembers, Listed, ih]

end Listed

end Written

section Scalars

variable {token rest : List UInt8} {position : Position}

/-- A scalar is read as the same scalar, or as none, whatever follows. -/
theorem gives_scalar (isScalar : IsScalar token) :
    Gives readScalar token (answerOf readScalar token) := by
  -- Each kind of scalar is told by how it begins, and read by its own reader.
  rcases isScalar with rfl | rfl | rfl | passes | ⟨inside, passes, rfl⟩
  · have null : Gives readScalar (0x6E :: nullTail) (some .null) := fun _ _ _ => readScalar_null
    exact null.answerOf
  · have yes : Gives readScalar (0x74 :: trueTail) (some (.bool true)) := fun _ _ _ => readScalar_true
    exact yes.answerOf
  · have no : Gives readScalar (0x66 :: falseTail) (some (.bool false)) := fun _ _ _ => readScalar_false
    exact no.answerOf
  · exact gives_number passes
  · have text : Gives readScalar (0x22 :: inside) ((answerOf readText inside).map Json.text) := by
      intro rest position closed
      rw [List.cons_append, readScalar_quote]
      exact (gives_text passes rest (position.after 0x22) closed).map fun _ => rfl
    exact text.answerOf

/-- A scalar begins with no mark of the grammar. -/
theorem first_of_isScalar (isScalar : IsScalar token) :
    (∃ b more, token = b :: more ∧ b ≠ 0x5B ∧ b ≠ 0x7B) ∧ Opens token := by
  have begins {b : UInt8} {more : List UInt8}
      (marks : isSpace b = false ∧ b ≠ 0x5D ∧ b ≠ 0x7D ∧ b ≠ 0x2C ∧ b ≠ 0x5B ∧ b ≠ 0x7B) :
      (∃ c others, b :: more = c :: others ∧ c ≠ 0x5B ∧ c ≠ 0x7B) ∧ Opens (b :: more) := by
    obtain ⟨noSpace, noBracket, noBrace, noComma, noOpen⟩ := marks
    exact ⟨⟨b, more, rfl, noOpen⟩, b, more, rfl, noSpace, noBracket, noBrace, noComma⟩
  -- A word, a number and a text begin with bytes of their own.
  rcases isScalar with rfl | rfl | rfl | passes | ⟨inside, _, rfl⟩
  · exact begins (by decide)
  · exact begins (by decide)
  · exact begins (by decide)
  · -- A number begins with a sign or a digit, which are neither bracket nor brace.
    have opens := opens_lenient passes
    obtain ⟨b, more, rfl, _⟩ := id opens
    have first := begins_of_passesNumber passes
    refine ⟨⟨b, more, rfl, ?_, ?_⟩, opens⟩
    · rintro rfl
      exact absurd first (by decide)
    · rintro rfl
      exact absurd first (by decide)
  · exact begins (by decide)

/-- What begins like null is null. -/
theorem eq_null_of_isScalar {more : List UInt8} (isScalar : IsScalar (0x6E :: more)) :
    more = nullTail := by
  -- Only the word begins with its letter.
  rcases isScalar with same | same | same | passes | ⟨inside, _, same⟩
  · exact (List.cons.inj same).2
  · exact absurd (List.cons.inj same).1 (by decide)
  · exact absurd (List.cons.inj same).1 (by decide)
  · exact absurd (begins_of_passesNumber passes) (by decide)
  · exact absurd (List.cons.inj same).1 (by decide)

end Scalars

namespace Written

variable {w : Written} {bytes rest : List UInt8} {position : Position} {budget depth : Nat}

theorem Renders.opens (renders : Renders w bytes) : Opens bytes := by
  -- A scalar by its own first byte, a list and an object by the bracket.
  cases w with
  | scalar token =>
    obtain ⟨isScalar, rfl⟩ := renders
    exact (first_of_isScalar isScalar).2
  | list xs =>
    obtain ⟨inside, _, rfl⟩ := renders
    exact ⟨_, _, rfl, by decide, by decide, by decide, by decide⟩
  | object ms =>
    obtain ⟨inside, _, rfl⟩ := renders
    exact ⟨_, _, rfl, by decide, by decide, by decide, by decide⟩

theorem valueItems_eq (xs : List Written) (depth : Nat) :
    valueItems xs depth = xs.mapM fun x => x.value depth := by
  -- The recursion through the items, as a map.
  induction xs with
  | nil => rfl
  | cons x xs ih => rw [valueItems, ih, mapM_cons_eq]

theorem valueMembers_eq (ms : List (List UInt8 × Written)) (depth : Nat) :
    valueMembers ms depth =
      ms.mapM fun m => (answerOf readText m.1).bind fun name => (m.2.value depth).map (name, ·) := by
  -- The recursion through the members, as a map.
  induction ms with
  | nil => rfl
  | cons m ms ih =>
    obtain ⟨token, x⟩ := m
    rw [valueMembers, ih, mapM_cons_eq]
    rfl

/-- What is read of a text is what its tree says. -/
theorem readValue_answers (renders : Renders w bytes) (within : bytes.length ≤ budget)
    (closed : Closed rest) :
    Answers (readValue budget depth ⟨bytes ++ rest, position⟩) (w.value depth)
      ⟨rest, position.afterAll bytes⟩ := by
  -- By induction on the tree, with one level of depth for each level of the tree.
  induction w using inductionOn generalizing bytes depth rest position with
  | scalar token =>
    obtain ⟨isScalar, rfl⟩ := renders
    have answers := gives_scalar isScalar rest position closed
    obtain ⟨⟨b, more, rfl, noBracket, noBrace⟩, opens⟩ := first_of_isScalar isScalar
    obtain ⟨c, others, same, noSpace, _⟩ := opens
    obtain ⟨rfl, rfl⟩ := List.cons.inj same
    rw [List.cons_append, readValue_scalar noSpace noBracket noBrace]
    exact answers
  | list xs ih =>
    obtain ⟨inside, renders, rfl⟩ := renders
    cases depth with
    | zero =>
      -- Nothing may be nested here, and the reader refuses as well.
      rw [List.cons_append, readValue, readNode, skipSpace_begins (begins_cons (by decide))]
      exact ⟨_, rfl⟩
    | succ depth =>
      rw [value, valueItems_eq]
      exact readValue_list (rendersItems_iff.mp renders) (fun x _ _ renders => renders.opens)
        (fun x member bytes rest position renders within closed => ih x member renders within closed)
        within
  | object ms ih =>
    obtain ⟨inside, renders, rfl⟩ := renders
    cases depth with
    | zero =>
      rw [List.cons_append, readValue, readNode, skipSpace_begins (begins_cons (by decide))]
      exact ⟨_, rfl⟩
    | succ depth =>
      have pairs : ∀ m ∈ ms, ∀ bytes, RendersMember m bytes →
          Pairs (readValue budget depth) budget (answerOf readText m.1) (m.2.value depth) bytes := by
        rintro ⟨token, x⟩ member _ ⟨_, inside, passes, ⟨before, behind, isBlank, isBlank', rfl⟩,
          renders, rfl⟩
        refine ⟨token, before, behind, inside, isBlank, isBlank', gives_text passes,
          fun within rest position closed => ?_, by simp⟩
        rw [readValue_blank isBlank' (renders.opens.begins rest)]
        exact ih (token, x) member renders within closed
      rw [value, valueMembers_eq]
      exact readValue_object (rendersMembers_iff.mp renders) pairs within

/-- Parts of one kind are parts of another if each of them is one. -/
theorem listed_imp {α β : Type} {part : α → List UInt8 → Prop} {other : β → List UInt8 → Prop}
    {first : Bool} {xs : List α} (listed : Listed part first xs bytes)
    (each : ∀ x ∈ xs, ∀ inside, part x inside → ∃ y, other y inside) :
    ∃ ys, Listed other first ys bytes := by
  -- Item by item, with the same bytes between them.
  induction xs generalizing first bytes with
  | nil => exact ⟨[], listed⟩
  | cons x xs ih =>
    obtain ⟨lead, inside, later, isLead, isPart, isLater, rfl⟩ := listed
    obtain ⟨y, isOther⟩ := each x List.mem_cons_self inside isPart
    obtain ⟨ys, others⟩ := ih isLater fun x member => each x (List.mem_cons_of_mem _ member)
    exact ⟨y :: ys, lead, inside, later, isLead, isOther, others, rfl⟩

/-- Whatever is written has the form of a document. -/
theorem Renders.spells (renders : Renders w bytes) : ∃ j, Spells .lenient j bytes := by
  -- By induction on the tree: what a scalar says is of no matter for the form.
  induction w using inductionOn generalizing bytes with
  | scalar token =>
    obtain ⟨rfl | rfl | rfl | passes | ⟨inside, passes, rfl⟩, rfl⟩ := renders
    · exact ⟨.null, rfl⟩
    · exact ⟨.bool true, rfl⟩
    · exact ⟨.bool false, rfl⟩
    · -- Any number has the form of this one.
      exact ⟨.int 0, passes⟩
    · exact ⟨.text "", inside, passes, rfl⟩
  | list xs ih =>
    obtain ⟨inside, renders, rfl⟩ := renders
    obtain ⟨ys, items⟩ := listed_imp (rendersItems_iff.mp renders)
      fun x member inside renders => ih x member renders
    exact ⟨.list ys, inside, spellsItems_iff.mpr items, rfl⟩
  | object ms ih =>
    obtain ⟨inside, renders, rfl⟩ := renders
    have each : ∀ m ∈ ms, ∀ inside, RendersMember m inside →
        ∃ n : String × Json, SpellsPair (fun _ => PassesText) (fun _ => Spells .lenient) n inside := by
      rintro ⟨token, x⟩ member _ ⟨colon, inside, passes, isColon, renders, rfl⟩
      -- The name is passed as a text, whatever it says.
      obtain ⟨j, spells⟩ := ih (token, x) member renders
      exact ⟨("", j), token, colon, inside, passes, isColon, spells, rfl⟩
    obtain ⟨ns, members⟩ := listed_imp (rendersMembers_iff.mp renders) each
    exact ⟨.object ns, inside, spellsMembers_iff.mpr members, rfl⟩

/-- What is written is passed over with the blanks before it, whatever it says. -/
theorem skipValue_renders {blank : List UInt8} (isBlank : IsBlank blank) (renders : Renders w bytes)
    (enough : bytes.length ≤ budget) (closed : Closed rest) :
    skipValue budget ⟨blank ++ (bytes ++ rest), position⟩ =
      .ok ⟨rest, (position.afterAll blank).afterAll bytes⟩ := by
  -- What is passed over is known by its spelling alone.
  obtain ⟨j, spells⟩ := renders.spells
  have some : 0 < bytes.length := by
    obtain ⟨b, more, rfl, _⟩ := renders.opens
    exact Nat.succ_pos _
  rw [skipValue_blank budget isBlank (renders.opens.begins rest) (by omega)]
  exact skipValue_passes spells enough closed

mutual
/-- The tree of a document as it is written on one line. -/
def ofJson : Json → Written
  -- Scalars are their own tokens.
  | .list xs => .list (ofItems xs)
  | .object ms => .object (ofMembers ms)
  | .null => .scalar (encodeChars (compactChars .null))
  | .bool b => .scalar (encodeChars (compactChars (.bool b)))
  | .int n => .scalar (encodeChars (compactChars (.int n)))
  | .float x => .scalar (encodeChars (compactChars (.float x)))
  | .text s => .scalar (encodeChars (compactChars (.text s)))
termination_by structural j => j

/-- The trees of items. -/
def ofItems : List Json → List Written
  | [] => []
  | x :: xs => ofJson x :: ofItems xs
termination_by structural xs => xs

/-- The members of the trees of members. -/
def ofMembers : List (String × Json) → List (List UInt8 × Written)
  | [] => []
  | m :: ms => ofMember m :: ofMembers ms
termination_by structural ms => ms

/-- The name behind its quote, and the tree of the value. -/
def ofMember : String × Json → List UInt8 × Written
  | (name, x) => ((encodeChars (textChars name)).tail, ofJson x)
termination_by structural m => m
end

mutual
/-- A written document is written as its tree. -/
theorem renders_ofJson :
    (j : Json) → IsExact j → Renders (ofJson j) (encodeChars (compactChars j))
  | .null, _ => ⟨.inl rfl, rfl⟩
  | .bool true, _ => ⟨.inr (.inl rfl), rfl⟩
  | .bool false, _ => ⟨.inr (.inr (.inl rfl)), rfl⟩
  | .int n, _ => ⟨.inr (.inr (.inr (.inl (passesNumber_intChars n)))), rfl⟩
  | .text s, _ => by
    obtain ⟨inside, same, spells⟩ := encodeChars_textChars s
    exact ⟨.inr (.inr (.inr (.inr ⟨inside, spells.passes, same⟩))), rfl⟩
  | .list [], _ => ⟨[], lead_nil, rfl⟩
  | .list (x :: xs), ⟨first, later⟩ => by
    -- The first item stands right behind the bracket.
    obtain ⟨inside, same, renders⟩ := renders_ofItems xs later
    refine ⟨encodeChars (compactChars x) ++ inside, ⟨[], _, inside, lead_nil,
      renders_ofJson x first, renders, rfl⟩, ?_⟩
    rw [compactChars, encodeChars_cons, encodeChars_append, same, List.append_assoc]
    rfl
  | .object [], _ => ⟨[], lead_nil, rfl⟩
  | .object (m :: ms), ⟨first, later⟩ => by
    obtain ⟨inside, same, renders⟩ := renders_ofMembers ms later
    refine ⟨encodeChars (compactMember m) ++ inside, ⟨[], _, inside, lead_nil,
      renders_ofMember m first, renders, rfl⟩, ?_⟩
    rw [compactChars, encodeChars_cons, encodeChars_append, same, List.append_assoc]
    rfl

/-- The items behind the first one are written as their trees, up to the closing bracket. -/
theorem renders_ofItems : (xs : List Json) → IsExactItems xs →
    ∃ inside, encodeChars (compactItems xs) = inside ++ [0x5D] ∧
      RendersItems false (ofItems xs) inside
  | [], _ => ⟨[], rfl, lead_nil⟩
  | x :: xs, ⟨first, later⟩ => by
    obtain ⟨inside, same, renders⟩ := renders_ofItems xs later
    refine ⟨[0x2C] ++ (encodeChars (compactChars x) ++ inside), ?_, [0x2C], _, inside, lead_comma,
      renders_ofJson x first, renders, rfl⟩
    rw [compactItems, encodeChars_cons, encodeChars_append, same, List.append_assoc,
      List.append_assoc]
    rfl

/-- The members behind the first one are written as their trees, up to the closing brace. -/
theorem renders_ofMembers : (ms : List (String × Json)) → IsExactMembers ms →
    ∃ inside, encodeChars (compactMembers ms) = inside ++ [0x7D] ∧
      RendersMembers false (ofMembers ms) inside
  | [], _ => ⟨[], rfl, lead_nil⟩
  | m :: ms, ⟨first, later⟩ => by
    obtain ⟨inside, same, renders⟩ := renders_ofMembers ms later
    refine ⟨[0x2C] ++ (encodeChars (compactMember m) ++ inside), ?_, [0x2C], _, inside, lead_comma,
      renders_ofMember m first, renders, rfl⟩
    rw [compactMembers, encodeChars_cons, encodeChars_append, same, List.append_assoc,
      List.append_assoc]
    rfl

/-- A written member is written as its tree. -/
theorem renders_ofMember : (m : String × Json) → IsExactMember m →
    RendersMember (ofMember m) (encodeChars (compactMember m))
  | (name, x), exact => by
    obtain ⟨inName, same, spells⟩ := encodeChars_textChars name
    refine ⟨[0x3A], encodeChars (compactChars x), ?_,
      ⟨[], [], fun b member => (by cases member), fun b member => (by cases member), rfl⟩,
      renders_ofJson x exact, ?_⟩
    · rw [same]
      exact spells.passes
    · rw [compactMember, encodeChars_append, encodeChars_cons, same]
      rfl
end

end Written

end TemplateFacts.Json
