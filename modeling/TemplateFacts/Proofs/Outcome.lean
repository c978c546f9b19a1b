/-! Steps that may fail, done one after the other: what the outcome says about each of them. -/

namespace TemplateFacts

section Steps

variable {ε α β : Type} {first : Except ε α} {next : α → Except ε β}

/-- Two steps that succeed do so one after the other. -/
theorem ok_of_bind {b : β} (succeeds : (first >>= next) = .ok b) :
    ∃ a, first = .ok a ∧ next a = .ok b := by
  -- A failure of the first would be the failure of both.
  cases first with
  | error e => cases succeeds
  | ok a => exact ⟨a, rfl, succeeds⟩

/-- A step that succeeds is followed by the next one. -/
theorem bind_of_ok {a : α} (succeeds : first = .ok a) : (first >>= next) = next a := by
  rw [succeeds]
  rfl

/-- Two steps succeed exactly when both do, one after the other. -/
theorem bind_eq_ok {b : β} : (first >>= next) = .ok b ↔ ∃ a, first = .ok a ∧ next a = .ok b :=
  ⟨ok_of_bind, fun ⟨_, succeeds, behind⟩ => (bind_of_ok succeeds).trans behind⟩

/-- The failure of two steps is that of one of them. -/
theorem error_of_bind {e : ε} (fails : (first >>= next) = .error e) :
    first = .error e ∨ ∃ a, first = .ok a ∧ next a = .error e := by
  -- The failure is that of the first, or the second's on what the first gave.
  cases first with
  | error cause => exact .inl (by cases fails; rfl)
  | ok a => exact .inr ⟨a, rfl, fails⟩

/-- What is made of a step that succeeds is made of what it gives. -/
theorem ok_of_map {f : α → β} {b : β} (succeeds : first.map f = .ok b) :
    ∃ a, first = .ok a ∧ f a = b := by
  -- A failure is mapped to itself.
  cases first with
  | error e => cases succeeds
  | ok a => exact ⟨a, rfl, Except.ok.inj succeeds⟩

end Steps

end TemplateFacts
