import TemplateFacts.Contract.Check
import TemplateFacts.Error

/-! Contracts together with those that they refer to by name. -/

namespace TemplateFacts

/-- A contract with those that it refers to by name. -/
structure Schema where
  root : Contract
  definitions : List (String × Contract)
deriving Inhabited

namespace Contract

mutual
/-- The number of lists and objects around the innermost part of a document. -/
def depth : Json → Nat
  -- A scalar has depth zero.
  | .list xs => depthOfItems xs + 1
  | .object ms => depthOfMembers ms + 1
  | _ => 0
termination_by structural j => j

/-- The greatest depth of the items. -/
def depthOfItems : List Json → Nat
  -- An empty list adds nothing.
  | [] => 0
  | x :: xs => max (depth x) (depthOfItems xs)
termination_by structural xs => xs

/-- The greatest depth of the values of the members. -/
def depthOfMembers : List (String × Json) → Nat
  -- An empty object adds nothing.
  | [] => 0
  | m :: ms => max (depthOfMember m) (depthOfMembers ms)
termination_by structural ms => ms

/-- The depth of the value of a member. -/
def depthOfMember : String × Json → Nat
  -- The name does not count.
  | (_, x) => depth x
termination_by structural m => m
end

/-- Checks contracts of names, following references so many times in a row. -/
def followNames (definitions : List (String × Contract)) :
    (fuel : Nat) → String → List Step → Json → List Violation
  -- A name that is not defined demands nothing.
  | 0, _, _, _ => []
  | fuel + 1, name, place, j =>
    match definitions.lookup name with
    | some contract => violations (followNames definitions fuel) contract place j
    | none => []

end Contract

/-- The violations of a contract by a document. -/
def Schema.violations (schema : Schema) (j : Json) : List Contract.Violation :=
  -- Between two references that lead to one contract the check moves into the document.
  let fuel := (Contract.depth j + 1) * schema.definitions.length
  Contract.violations (Contract.followNames schema.definitions fuel) schema.root [] j

/-- Checks a document, and reports every violation rather than the first. -/
def Schema.validate (schema : Schema) (j : Json) : Except Error Unit :=
  -- A document without violations is accepted.
  match schema.violations j with
  | [] => .ok ()
  | violations => .error (.schemaValidationFailed (violations.map Contract.Violation.text))

end TemplateFacts
