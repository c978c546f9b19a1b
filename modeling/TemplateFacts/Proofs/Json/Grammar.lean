import TemplateFacts.Json.Reader
import TemplateFacts.Proofs.Json.Number
import TemplateFacts.Proofs.Json.Text

/-!
The grammar of documents: which bytes spell a document, with blanks wherever they may stand, members
in any order and any of the ways to write a character. What is spelled is read, and what only has the
form of a document is passed over.
-/

namespace TemplateFacts.Json

/-- What holds of the parts of a document holds of the document. -/
@[elab_as_elim]
theorem inductionOn {motive : Json → Prop} (null : motive .null) (bool : ∀ b, motive (.bool b))
    (int : ∀ n, motive (.int n)) (float : ∀ x, motive (.float x)) (text : ∀ s, motive (.text s))
    (list : ∀ xs, (∀ x ∈ xs, motive x) → motive (.list xs))
    (object : ∀ ms, (∀ m ∈ ms, motive m.2) → motive (.object ms)) (j : Json) : motive j :=
  @Json.rec motive (fun xs => ∀ x ∈ xs, motive x) (fun ms => ∀ m ∈ ms, motive m.2)
    (fun m => motive m.2)
    null bool int float text list object
    (fun _ member => by cases member)
    (fun _ _ first later y member => by
      rcases List.mem_cons.mp member with rfl | inside
      · exact first
      · exact later y inside)
    (fun _ member => by cases member)
    (fun _ _ first later y member => by
      rcases List.mem_cons.mp member with rfl | inside
      · exact first
      · exact later y inside)
    (fun _ _ value => value) j

/-- A text is taken from a text only. -/
theorem asText?_eq_some {j : Json} {s : String} : j.asText? = some s ↔ j = .text s := by
  cases j <;> simp [asText?]

/-- Items are taken from a list only. -/
theorem asList?_eq_some {j : Json} {items : List Json} : j.asList? = some items ↔ j = .list items := by
  cases j <;> simp [asList?]

mutual
/-- The document as it is kept: the members in order of their names, the last one of each name. -/
def settle : Json → Json
  -- Scalars are kept as they are.
  | .list xs => .list (settleItems xs)
  | .object ms => ofMembers (settleMembers ms)
  | .null => .null
  | .bool b => .bool b
  | .int n => .int n
  | .float x => .float x
  | .text s => .text s
termination_by structural j => j

/-- The items as they are kept. -/
def settleItems : List Json → List Json
  | [] => []
  | x :: xs => settle x :: settleItems xs
termination_by structural xs => xs

/-- The members as they are kept, in the order of the text. -/
def settleMembers : List (String × Json) → List (String × Json)
  | [] => []
  | m :: ms => settleMember m :: settleMembers ms
termination_by structural ms => ms

/-- The member as it is kept. -/
def settleMember : String × Json → String × Json
  | (name, x) => (name, settle x)
termination_by structural m => m
end

theorem settleItems_eq (xs : List Json) : settleItems xs = xs.map settle := by
  -- The recursion through the items, as a map.
  induction xs with
  | nil => rfl
  | cons x xs ih => rw [settleItems, ih, List.map_cons]

theorem settleMembers_eq (ms : List (String × Json)) :
    settleMembers ms = ms.map fun m => (m.1, settle m.2) := by
  -- The recursion through the members, as a map.
  induction ms with
  | nil => rfl
  | cons m ms ih =>
    obtain ⟨name, x⟩ := m
    rw [settleMembers, ih, List.map_cons]
    rfl

mutual
/-- How deep the brackets and braces of a document are nested. -/
def nesting : Json → Nat
  -- A scalar has none.
  | .list xs => nestingItems xs + 1
  | .object ms => nestingMembers ms + 1
  | .null => 0
  | .bool _ => 0
  | .int _ => 0
  | .float _ => 0
  | .text _ => 0
termination_by structural j => j

/-- The nesting of the deepest item. -/
def nestingItems : List Json → Nat
  | [] => 0
  | x :: xs => max (nesting x) (nestingItems xs)
termination_by structural xs => xs

/-- The nesting of the deepest member. -/
def nestingMembers : List (String × Json) → Nat
  | [] => 0
  | m :: ms => max (nestingMember m) (nestingMembers ms)
termination_by structural ms => ms

/-- The nesting of the value of a member. -/
def nestingMember : String × Json → Nat
  | (_, x) => nesting x
termination_by structural m => m
end

/-- An item is nested less deep than the list. -/
theorem nesting_item {x : Json} {xs : List Json} (member : x ∈ xs) :
    nesting x < nesting (.list xs) := by
  -- The nesting of a list is one more than the greatest among its items.
  have inside : nesting x ≤ nestingItems xs := by
    induction xs with
    | nil => cases member
    | cons y xs ih =>
      rw [nestingItems]
      rcases List.mem_cons.mp member with rfl | later
      · exact Nat.le_max_left ..
      · exact Nat.le_trans (ih later) (Nat.le_max_right ..)
  exact Nat.lt_succ_of_le inside

/-- The value of a member is nested less deep than the object. -/
theorem nesting_member {m : String × Json} {ms : List (String × Json)} (member : m ∈ ms) :
    nesting m.2 < nesting (.object ms) := by
  -- The nesting of an object is one more than the greatest among its members.
  obtain ⟨name, x⟩ := m
  have inside : nesting x ≤ nestingMembers ms := by
    induction ms with
    | nil => cases member
    | cons n ms ih =>
      rw [nestingMembers]
      rcases List.mem_cons.mp member with rfl | later
      · exact Nat.le_max_left (nestingMember (name, x)) (nestingMembers ms)
      · exact Nat.le_trans (ih later) (Nat.le_max_right ..)
  exact Nat.lt_succ_of_le inside

/-- What stands before a part: blanks, with a comma among them unless the part is the first one. -/
def Lead (first : Bool) (bytes : List UInt8) : Prop :=
  match first with
  | true => IsBlank bytes
  | false => ∃ before behind, IsBlank before ∧ IsBlank behind ∧ bytes = before ++ 0x2C :: behind

/-- What stands between a name and its value: a colon among blanks. -/
def Colon (bytes : List UInt8) : Prop :=
  ∃ before behind, IsBlank before ∧ IsBlank behind ∧ bytes = before ++ 0x3A :: behind

/-- The bytes spell some parts one after another, up to the closing bracket. -/
def Listed {α : Type} (part : α → List UInt8 → Prop) : Bool → List α → List UInt8 → Prop
  | _, [], bytes => IsBlank bytes
  | first, x :: xs, bytes => ∃ lead inside later, Lead first lead ∧ part x inside ∧
      Listed part false xs later ∧ bytes = lead ++ (inside ++ later)

/-- The bytes spell a member: its name, a colon and its value. -/
def SpellsPair (text : String → List UInt8 → Prop) (value : String → Json → List UInt8 → Prop)
    (m : String × Json) (bytes : List UInt8) : Prop :=
  ∃ inName colon inside, text m.1 inName ∧ Colon colon ∧ value m.1 m.2 inside ∧
    bytes = 0x22 :: (inName ++ (colon ++ inside))

/-- How texts and numbers are spelled. -/
structure Leaves where
  text : String → List UInt8 → Prop
  number : Json → List UInt8 → Prop

/-- Texts and numbers that are read. -/
def Leaves.strict : Leaves := ⟨SpellsText, SpellsNumber⟩

/-- Texts and numbers that are passed over, whatever they say. -/
def Leaves.lenient : Leaves := ⟨fun _ => PassesText, fun _ => PassesNumber⟩

mutual
/-- The bytes spell a document. -/
def Spells (leaves : Leaves) : Json → List UInt8 → Prop
  -- Blanks stand around the parts of lists and objects only.
  | .null, bytes => bytes = 0x6E :: nullTail
  | .bool true, bytes => bytes = 0x74 :: trueTail
  | .bool false, bytes => bytes = 0x66 :: falseTail
  | .int n, bytes => leaves.number (.int n) bytes
  | .float x, bytes => leaves.number (.float x) bytes
  | .text s, bytes => ∃ inside, leaves.text s inside ∧ bytes = 0x22 :: inside
  | .list xs, bytes => ∃ inside, SpellsItems leaves true xs inside ∧ bytes = 0x5B :: (inside ++ [0x5D])
  | .object ms, bytes =>
    ∃ inside, SpellsMembers leaves true ms inside ∧ bytes = 0x7B :: (inside ++ [0x7D])
termination_by structural j => j

/-- The bytes spell the items of a list. -/
def SpellsItems (leaves : Leaves) : Bool → List Json → List UInt8 → Prop
  | _, [], bytes => IsBlank bytes
  | first, x :: xs, bytes => ∃ lead inside later, Lead first lead ∧ Spells leaves x inside ∧
      SpellsItems leaves false xs later ∧ bytes = lead ++ (inside ++ later)
termination_by structural _ xs => xs

/-- The bytes spell the members of an object. -/
def SpellsMembers (leaves : Leaves) : Bool → List (String × Json) → List UInt8 → Prop
  | _, [], bytes => IsBlank bytes
  | first, m :: ms, bytes => ∃ lead inside later, Lead first lead ∧ SpellsMember leaves m inside ∧
      SpellsMembers leaves false ms later ∧ bytes = lead ++ (inside ++ later)
termination_by structural _ ms => ms

/-- The bytes spell a member of an object. -/
def SpellsMember (leaves : Leaves) : String × Json → List UInt8 → Prop
  | (name, x), bytes => ∃ inName colon inside, leaves.text name inName ∧ Colon colon ∧
      Spells leaves x inside ∧ bytes = 0x22 :: (inName ++ (colon ++ inside))
termination_by structural m => m
end

section Listed

variable {leaves : Leaves} {first : Bool} {bytes rest : List UInt8}

theorem spellsItems_iff {xs : List Json} :
    SpellsItems leaves first xs bytes ↔ Listed (Spells leaves) first xs bytes := by
  -- Both say the same of the first item and of the rest.
  induction xs generalizing first bytes with
  | nil => exact Iff.rfl
  | cons x xs ih => simp only [SpellsItems, Listed, ih]

theorem spellsMembers_iff {ms : List (String × Json)} :
    SpellsMembers leaves first ms bytes ↔
      Listed (SpellsPair leaves.text fun _ => Spells leaves) first ms bytes := by
  -- Both say the same of the first member and of the rest.
  induction ms generalizing first bytes with
  | nil => exact Iff.rfl
  | cons m ms ih =>
    obtain ⟨name, x⟩ := m
    simp only [SpellsMembers, Listed, ih]
    rfl

/-- A part begins, and with no mark of the grammar that stands between parts. -/
def Opens (bytes : List UInt8) : Prop :=
  ∃ b more, bytes = b :: more ∧ isSpace b = false ∧ b ≠ 0x5D ∧ b ≠ 0x7D ∧ b ≠ 0x2C

theorem Opens.begins (opens : Opens bytes) (rest : List UInt8) : Begins (bytes ++ rest) := by
  obtain ⟨b, more, rfl, noSpace, _⟩ := opens
  exact ⟨b, more ++ rest, rfl, noSpace⟩

/-- A sign or a digit begins a part. -/
theorem opens_number {b : UInt8} {more : List UInt8} (starts : b = 0x2D ∨ isDigit b = true) :
    Opens (b :: more) := by
  -- Neither a minus sign nor a digit is blank, nor does it close anything.
  rcases starts with rfl | digit
  · exact ⟨0x2D, more, rfl, by decide, by decide, by decide, by decide⟩
  · refine ⟨b, more, rfl, ?_, ?_, ?_, ?_⟩
    · cases space : isSpace b with
      | false => rfl
      | true => rw [(closed_of_isSpace space).1] at digit; cases digit
    · rintro rfl; cases digit
    · rintro rfl; cases digit
    · rintro rfl; cases digit

/-- Numbers begin with a sign or a digit. -/
theorem opens_strict {j : Json} (spells : SpellsNumber j bytes) : Opens bytes := by
  -- A number begins with its sign or with the first digit of its body.
  obtain ⟨negative, body, behind, rfl, reads⟩ := spells
  cases negative with
  | true => exact opens_number (.inl rfl)
  | false =>
    obtain ⟨b, more, rfl, digit⟩ := digit_of_readNumber reads
    exact opens_number (.inr digit)

theorem opens_lenient (passes : PassesNumber bytes) : Opens bytes := by
  -- A number that is passed over begins as one that is read.
  obtain ⟨negative, body, behind, rfl, reads⟩ := passes
  cases negative with
  | true => exact opens_number (.inl rfl)
  | false =>
    obtain ⟨b, more, rfl, digit⟩ := digit_of_skipNumber reads
    exact opens_number (.inr digit)

/-- A document begins with no mark of the grammar that stands between parts. -/
theorem opens_spells (numbers : ∀ j bytes, leaves.number j bytes → Opens bytes) {j : Json}
    (spells : Spells leaves j bytes) : Opens bytes := by
  -- A value is known by its first byte: a letter of its word, a quote, a bracket, or what opens a
  -- number.
  cases j with
  | null =>
    rw [Spells] at spells
    subst spells
    exact ⟨_, _, rfl, by decide, by decide, by decide, by decide⟩
  | bool b =>
    cases b with
    | true =>
      rw [Spells] at spells
      subst spells
      exact ⟨_, _, rfl, by decide, by decide, by decide, by decide⟩
    | false =>
      rw [Spells] at spells
      subst spells
      exact ⟨_, _, rfl, by decide, by decide, by decide, by decide⟩
  | int n => exact numbers _ _ spells
  | float x => exact numbers _ _ spells
  | text s =>
    obtain ⟨inside, _, rfl⟩ := spells
    exact ⟨_, _, rfl, by decide, by decide, by decide, by decide⟩
  | list xs =>
    obtain ⟨inside, _, rfl⟩ := spells
    exact ⟨_, _, rfl, by decide, by decide, by decide, by decide⟩
  | object ms =>
    obtain ⟨inside, _, rfl⟩ := spells
    exact ⟨_, _, rfl, by decide, by decide, by decide, by decide⟩

/-- What follows a part does not continue a number. -/
theorem closed_listed {α : Type} {part : α → List UInt8 → Prop} {xs : List α}
    (listed : Listed part false xs bytes) (closed : Closed rest) : Closed (bytes ++ rest) := by
  -- Behind the last item stands the bracket, or blanks and the bracket.
  cases xs with
  | nil => exact closed_blank listed closed
  | cons x xs =>
    obtain ⟨lead, inside, later, ⟨before, behind, isBlank, _, rfl⟩, _, _, rfl⟩ := listed
    rw [List.append_assoc, List.append_assoc]
    exact closed_blank isBlank (closed_cons (by decide))

end Listed

end TemplateFacts.Json
