import TemplateFacts.Json.Lexeme

/-!
Places in a text: reading some bytes moves a place behind these bytes, whatever follows them, or else
nothing is read. Only a number has to be told apart from what follows it.
-/

namespace TemplateFacts.Json

namespace Position

variable {position : Position}

@[simp] theorem afterAll_nil : position.afterAll [] = position := rfl

@[simp] theorem afterAll_cons (b : UInt8) (bytes : List UInt8) :
    position.afterAll (b :: bytes) = (position.after b).afterAll bytes := rfl

/-- Bytes are passed one part after another. -/
@[simp] theorem afterAll_append (first second : List UInt8) :
    position.afterAll (first ++ second) = (position.afterAll first).afterAll second :=
  List.foldl_append

/-- Without a line feed only the column grows. -/
theorem afterAll_noFeed {bytes : List UInt8} (noFeed : ∀ b ∈ bytes, b ≠ 10) :
    position.afterAll bytes = ⟨position.line, position.column + bytes.length⟩ := by
  -- Each byte that is no line feed is one more column.
  induction bytes generalizing position with
  | nil => rfl
  | cons b bytes ih =>
    have other : (b == 10) = false := beq_eq_false_iff_ne.mpr (noFeed b List.mem_cons_self)
    have step : position.after b = ⟨position.line, position.column + 1⟩ := by
      simp only [after, other, Bool.false_eq_true, if_false]
    rw [afterAll_cons, ih fun c member => noFeed c (List.mem_cons_of_mem b member), step,
      List.length_cons]
    simp only [Nat.add_assoc, Nat.add_comm 1]

end Position

@[simp] theorem Cursor.next_cons (b : UInt8) (rest : List UInt8) (position : Position) :
    Cursor.next ⟨b :: rest, position⟩ = ⟨rest, position.after b⟩ := rfl

/-- The bytes are blanks of the grammar. -/
def IsBlank (bytes : List UInt8) : Prop := ∀ b ∈ bytes, isSpace b = true

/-- A byte begins what follows blanks. -/
def Begins (rest : List UInt8) : Prop := ∃ b more, rest = b :: more ∧ isSpace b = false

/-- What follows does not continue a number. -/
def Closed (rest : List UInt8) : Prop :=
  ∀ b more, rest = b :: more → isDigit b = false ∧ b ≠ 0x2E ∧ isExponentLetter b = false

section Blanks

variable {blank rest : List UInt8} {position : Position}

/-- Blanks are skipped up to the first other byte. -/
theorem skipSpace_blank (isBlank : IsBlank blank) (begins : Begins rest) :
    Cursor.skipSpace ⟨blank ++ rest, position⟩ = ⟨rest, position.afterAll blank⟩ := by
  -- The induction is on the blank bytes; what follows them begins with another byte.
  induction blank generalizing position with
  | nil =>
    obtain ⟨b, more, rfl, other⟩ := begins
    simp only [Cursor.skipSpace, List.nil_append, spaceFrom, other, Bool.false_eq_true, if_false,
      Position.afterAll_nil]
  | cons b blank ih =>
    have space : isSpace b = true := isBlank b List.mem_cons_self
    have isBlank' : IsBlank blank := fun c member => isBlank c (List.mem_cons_of_mem b member)
    have later : Cursor.skipSpace ⟨blank ++ rest, position.after b⟩ =
        ⟨rest, (position.after b).afterAll blank⟩ := ih isBlank'
    simp only [Cursor.skipSpace] at later ⊢
    simp only [List.cons_append, spaceFrom, space, if_true, later, Position.afterAll_cons]

/-- Blanks at the end of a text are skipped. -/
theorem skipSpace_end (isBlank : IsBlank blank) :
    Cursor.skipSpace ⟨blank, position⟩ = ⟨[], position.afterAll blank⟩ := by
  -- As with something behind, but the end is what stops the reader.
  induction blank generalizing position with
  | nil => rfl
  | cons b blank ih =>
    have space : isSpace b = true := isBlank b List.mem_cons_self
    have isBlank' : IsBlank blank := fun c member => isBlank c (List.mem_cons_of_mem b member)
    have later : Cursor.skipSpace ⟨blank, position.after b⟩ =
        ⟨[], (position.after b).afterAll blank⟩ := ih isBlank'
    simp only [Cursor.skipSpace] at later ⊢
    simp only [spaceFrom, space, if_true, later, Position.afterAll_cons]

/-- Where something begins there are no blanks to skip. -/
theorem skipSpace_begins (begins : Begins rest) :
    Cursor.skipSpace ⟨rest, position⟩ = ⟨rest, position⟩ := by
  have none : IsBlank [] := fun b member => by cases member
  exact skipSpace_blank none begins

/-- A blank does not continue a number. -/
theorem closed_of_isSpace {b : UInt8} (space : isSpace b = true) :
    isDigit b = false ∧ b ≠ 0x2E ∧ isExponentLetter b = false := by
  -- There are four blanks, and each is gone through.
  simp only [isSpace, Bool.or_eq_true, beq_iff_eq] at space
  rcases space with ((rfl | rfl) | rfl) | rfl <;> decide

/-- Blanks do not continue a number, and neither does what follows them. -/
theorem closed_blank (isBlank : IsBlank blank) (closed : Closed rest) : Closed (blank ++ rest) := by
  -- The first byte behind a value is blank or the old first one.
  cases blank with
  | nil => exact closed
  | cons b blank =>
    rintro c more same
    obtain ⟨rfl, _⟩ := List.cons.inj same
    exact closed_of_isSpace (isBlank _ List.mem_cons_self)

/-- The end of a text does not continue a number. -/
theorem closed_nil : Closed [] := by
  intro b more same
  cases same

/-- A byte outside the numbers does not continue one. -/
theorem closed_cons {b : UInt8} (outside : isDigit b = false ∧ b ≠ 0x2E ∧ isExponentLetter b = false) :
    Closed (b :: rest) := by
  -- Only the first byte matters.
  intro c more same
  obtain ⟨rfl, _⟩ := List.cons.inj same
  exact outside

end Blanks

/-- What is read is the given value, up to the given place, or else nothing is read. -/
def Answers {α : Type} (reading : Reading α) (value : Option α) (behind : Cursor) : Prop :=
  match value with
  | some x => reading = .ok (x, behind)
  | none => ∃ fault, reading = .error fault

section Answers

variable {α β : Type} {reading : Reading α} {value : Option α} {middle behind : Cursor}

theorem Answers.some_iff {x : α} :
    Answers reading (some x) behind ↔ reading = .ok (x, behind) := Iff.rfl

/-- A reading goes on from where its first part ends. -/
theorem Answers.bind {next : α × Cursor → Reading β} {result : α → Option β}
    (first : Answers reading value middle)
    (later : ∀ x, value = some x → Answers (next (x, middle)) (result x) behind) :
    Answers (Except.bind reading next) (value.bind result) behind := by
  -- When the first part is refused the whole is; else the rest answers from where it stopped.
  cases value with
  | none =>
    obtain ⟨fault, refused⟩ := first
    exact ⟨fault, by rw [refused]; rfl⟩
  | some x =>
    have read : reading = .ok (x, middle) := first
    rw [read]
    exact later x rfl

/-- What is read may be changed together with the place behind it. -/
theorem Answers.map {f : α × Cursor → β × Cursor} {g : α → β}
    (answers : Answers reading value middle) (same : ∀ x, f (x, middle) = (g x, behind)) :
    Answers (reading.map f) (value.map g) behind := by
  -- A refusal stays, and an answer goes through `g`.
  cases value with
  | none =>
    obtain ⟨fault, refused⟩ := answers
    exact ⟨fault, by rw [refused]; rfl⟩
  | some x =>
    have read : reading = .ok (x, middle) := answers
    show reading.map f = .ok (g x, behind)
    rw [read, ← same]
    rfl

end Answers

/-- What a reader gives of some bytes is the value, whatever follows that does not continue a number. -/
def Gives {α : Type} (read : Cursor → Reading α) (bytes : List UInt8) (value : Option α) : Prop :=
  ∀ rest position, Closed rest →
    Answers (read ⟨bytes ++ rest, position⟩) value ⟨rest, position.afterAll bytes⟩

end TemplateFacts.Json
