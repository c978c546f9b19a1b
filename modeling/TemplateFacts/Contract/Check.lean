import TemplateFacts.Contract.Basic

/-! The violations of a contract by a document, in the order in which they are reported. -/

namespace TemplateFacts.Contract

/-- Two numbers are equal, whatever their written forms. -/
def numberEq : Json → Json → Bool
  -- An integer equals a float of the same value.
  | .int a, .int b => a == b
  | .int a, .float b => b.eqInt a
  | .float a, .int b => a.eqInt b
  | .float a, .float b => a.numEq b
  | _, _ => false

/-- A number is a zero with a sign. -/
def isMinusZero : Json → Bool
  -- Integers have no such zero.
  | .float x => x.isMinusZero
  | _ => false

/-- Two numbers are equal, and neither or both are zeros with a sign. -/
def signedEq (a b : Json) : Bool := numberEq a b && isMinusZero a == isMinusZero b

mutual
/-- Two documents are equal up to the order of members, given when numbers are equal. -/
def sameWith (numbers : Json → Json → Bool) : Json → Json → Bool
  -- Members are matched by name.
  | .null, b => match b with
    | .null => true
    | _ => false
  | .bool x, b => match b with
    | .bool y => x == y
    | _ => false
  | .int x, b => numbers (.int x) b
  | .float x, b => numbers (.float x) b
  | .text x, b => match b with
    | .text y => x == y
    | _ => false
  | .list xs, b => match b with
    | .list ys => sameItems numbers xs ys
    | _ => false
  | .object xs, b => match b with
    | .object ys => xs.length == ys.length && sameMembers numbers xs ys
    | _ => false
termination_by structural a => a

/-- Two lists are equal item by item. -/
def sameItems (numbers : Json → Json → Bool) : List Json → List Json → Bool
  -- Lists of two lengths differ.
  | [], ys => ys.isEmpty
  | x :: xs, ys => match ys with
    | [] => false
    | y :: ys => sameWith numbers x y && sameItems numbers xs ys
termination_by structural xs => xs

/-- Every member has an equal one of its name on the other side. -/
def sameMembers (numbers : Json → Json → Bool) :
    List (String × Json) → List (String × Json) → Bool
  -- The other side has no further names when the numbers of members agree.
  | [], _ => true
  | x :: xs, ys => sameMember numbers x ys && sameMembers numbers xs ys
termination_by structural xs => xs

/-- A member has an equal one of its name among the others. -/
def sameMember (numbers : Json → Json → Bool) : String × Json → List (String × Json) → Bool
  -- Names are unique.
  | (name, x), ys => match ys.lookup name with
    | some y => sameWith numbers x y
    | none => false
termination_by structural x => x
end

/-- Two documents are equal up to the written forms of numbers and the order of members. -/
def sameValue (a b : Json) : Bool := sameWith numberEq a b

/-- The floating-point number nearest to a number. -/
def nearest? : Json → Option Binary64
  -- Only numbers have one.
  | .int n => some (.ofInt n)
  | .float x => some x
  | _ => none

/-- A document is the one that was expected, a number only nearly so. -/
def isExpected (value j : Json) : Bool :=
  -- Numbers are compared as floating-point numbers.
  match nearest? value, nearest? j with
  | some x, some y => (x.distance y).isTiny
  | _, _ => sameValue value j

/-- No two items of a list are equal. -/
def allDistinct (same : Json → Json → Bool) : List Json → Bool
  -- Each item is compared with those behind it.
  | [] => true
  | x :: xs => !xs.any (same x) && allDistinct same xs

/-- The greatest number of items that are compared without regard to the sign of zeros. -/
def fewItems : Nat := 15

/-- No item of a list occurs twice. -/
def hasUniqueItems (xs : List Json) : Bool :=
  -- In long lists the two zeros are told apart.
  allDistinct (if xs.length ≤ fewItems then sameValue else sameWith signedEq) xs

/-- A float without a fraction. -/
def isWhole (x : Binary64) : Bool :=
  -- The denominator divides the numerator.
  match x with
  | .finite _ significand exponent =>
    let ratio := Binary64.magnitude significand exponent
    ratio.1 % ratio.2 == 0
  | _ => false

/-- A document is of a kind. -/
def Kind.holds : Kind → Json → Bool
  -- A whole float is an integer too.
  | .array, .list _ => true
  | .boolean, .bool _ => true
  | .integer, .int _ => true
  | .integer, .float x => isWhole x
  | .null, .null => true
  | .number, .int _ => true
  | .number, .float _ => true
  | .object, .object _ => true
  | .string, .text _ => true
  | _, _ => false

/-- A number lies below an integer. -/
def isBelow (least : Int) : Json → Bool
  -- Anything but a number lies nowhere.
  | .int n => n < least
  | .float (.finite negative significand exponent) =>
    let ratio := Binary64.magnitude significand exponent
    (if negative then -(ratio.1 : Int) else ratio.1) < least * ratio.2
  | _ => false

/-- A number does not lie above an integer. -/
def isAtMost (bound : Int) : Json → Bool
  -- Anything but a number lies nowhere.
  | .int n => n ≤ bound
  | .float (.finite negative significand exponent) =>
    let ratio := Binary64.magnitude significand exponent
    (if negative then -(ratio.1 : Int) else ratio.1) ≤ bound * ratio.2
  | _ => false

/-- Lists what is wrong with a document at a place. -/
abbrev Checker := List Step → Json → List Violation

/-- The one violation of a demand that holds or does not hold of a document as a whole. -/
def demand (holds : Bool) (place : List Step) (j : Json) (problem : Problem) : List Violation :=
  if holds then [] else [⟨place, j, problem⟩]

/-- The violations inside the members of known names, in the order of the names known. -/
def checkKnown (known : List (String × Checker)) (place : List Step)
    (members : List (String × Json)) : List Violation :=
  -- Absent members violate nothing here.
  known.flatMap fun (name, check) =>
    match members.lookup name with
    | some x => check (place ++ [.member name]) x
    | none => []

/-- The violations inside members, each checked by its name or else by the given checker. -/
def checkMembers (known : List (String × Checker)) (other : Checker) (place : List Step)
    (members : List (String × Json)) : List Violation :=
  -- The members come in their own order.
  members.flatMap fun (name, x) => ((known.lookup name).getD other) (place ++ [.member name]) x

/-- The violations inside the items of a list. -/
def checkItems (check : Checker) (place : List Step) (index : Nat) : List Json → List Violation
  -- Items are counted from zero.
  | [] => []
  | x :: xs => check (place ++ [.item index]) x ++ checkItems check place (index + 1) xs

/-- The violations inside the first items of a list, each checked by a checker of its own. -/
def checkFirst (checks : List Checker) (place : List Step) (index : Nat) (xs : List Json) :
    List Violation :=
  -- Further items are not checked.
  match checks, xs with
  | check :: checks, x :: xs =>
    check (place ++ [.item index]) x ++ checkFirst checks place (index + 1) xs
  | _, _ => []

/-- The names of members that are not known. -/
def unknownNames (known : List String) (members : List (String × Json)) : List String :=
  (members.map (·.1)).filter fun name => !known.contains name

/-- The violations of an object that may have no members but the known ones. -/
def checkClosed (known : List (String × Checker)) : Checker := fun place j =>
  match j with
  | .object members =>
    -- One violation names all unknown members.
    let inside := checkMembers known (fun _ _ => []) place members
    let unknown := unknownNames (known.map (·.1)) members
    inside ++ if unknown.isEmpty then [] else [⟨place, j, .unexpected unknown⟩]
  | _ => []

/-- The violations of a demand for members. -/
def checkRequired (names : List String) : Checker := fun place j =>
  match j with
  | .object members =>
    -- Each missing name is a violation of its own.
    (names.filter fun name => (members.lookup name).isNone).map fun name =>
      ⟨place, j, .missing name⟩
  | _ => []

/-- The violation of a demand that concerns texts only. -/
def checkText (holds : String → Bool) (problem : Problem) : Checker := fun place j =>
  match j with
  | .text s => demand (holds s) place j problem
  | _ => []

/-- The violation of a demand that a pattern matches. -/
def checkPattern (matcher : Matcher) (source : String) : Checker := fun place j =>
  match j with
  | .text s =>
    -- A matcher that gives up is a violation too.
    match matcher.matchesIn s with
    | .ok found => demand found place j (.noMatch source)
    | .error excess => [⟨place, j, .gaveUp excess⟩]
  | _ => []

/-- The violation of a demand that concerns lists only. -/
def checkList (holds : List Json → Bool) (problem : Problem) : Checker := fun place j =>
  match j with
  | .list xs => demand (holds xs) place j problem
  | _ => []

/-- The violations of every one of the demands, one after the other. -/
def checkEach (checks : List Checker) : Checker := fun place j =>
  checks.flatMap fun check => check place j

mutual
/-- Lists the violations of a contract, given how to check the contracts of names. -/
def violations (follow : String → Checker) : Contract → List Step → Json → List Violation
  -- Demands on one kind of document say nothing about the others.
  | .never, place, j => [⟨place, j, .forbidden⟩]
  | .all parts, place, j => checkEach (violationsOfEach follow parts) place j
  | .anyOf choices, place, j =>
    let holds := (violationsOfEach follow choices).any fun check => (check place j).isEmpty
    demand holds place j .noChoice
  | .ref target, place, j => follow target place j
  | .kinds allowed, place, j => demand (allowed.any (·.holds j)) place j (.wrongKind allowed)
  | .const value, place, j => demand (isExpected value j) place j (.notConst value)
  | .enum values, place, j => demand (values.any (sameValue · j)) place j (.notInEnum values)
  | .required names, place, j => checkRequired names place j
  | .properties known, place, j =>
    match j with
    | .object members => checkKnown (violationsOfKnown follow known) place members
    | _ => []
  | .closed known, place, j => checkClosed (violationsOfKnown follow known) place j
  | .others known other, place, j =>
    match j with
    | .object members =>
      checkMembers (violationsOfKnown follow known) (violations follow other) place members
    | _ => []
  | .noMembers, place, j =>
    match j with
    | .object ((_, x) :: _) => [⟨place, x, .forbidden⟩]
    | _ => []
  | .memberNames name, place, j =>
    match j with
    | .object members => members.flatMap fun member => violations follow name place (.text member.1)
    | _ => []
  | .items item, place, j =>
    match j with
    | .list xs => checkItems (violations follow item) place 0 xs
    | _ => []
  | .firstItems first, place, j =>
    match j with
    | .list xs => checkFirst (violationsOfEach follow first) place 0 xs
    | _ => []
  | .minItems count, place, j =>
    checkList (fun xs => count ≤ xs.length) (.tooFewItems count) place j
  | .uniqueItems, place, j => checkList hasUniqueItems .notUnique place j
  | .minLength count, place, j => checkText (fun s => count ≤ s.length) (.tooShort count) place j
  | .minimum least, place, j => demand (!isBelow least j) place j (.tooSmall least)
  | .above bound, place, j => demand (!isAtMost bound j) place j (.notAbove bound)
  | .pattern matcher source, place, j => checkPattern matcher source place j
  | .ofFormat format, place, j => checkText format.holds (.notFormat format) place j
termination_by structural contract => contract

/-- The checkers of some contracts. -/
def violationsOfEach (follow : String → Checker) : List Contract → List Checker
  -- Order is kept.
  | [] => []
  | part :: parts => violations follow part :: violationsOfEach follow parts
termination_by structural parts => parts

/-- The checkers of contracts with names. -/
def violationsOfKnown (follow : String → Checker) :
    List (String × Contract) → List (String × Checker)
  -- Order and names are kept.
  | [] => []
  | entry :: entries => violationsOfEntry follow entry :: violationsOfKnown follow entries
termination_by structural entries => entries

/-- The checker of a contract with a name. -/
def violationsOfEntry (follow : String → Checker) : String × Contract → String × Checker
  -- The name is kept.
  | (name, contract) => (name, violations follow contract)
termination_by structural entry => entry
end

end TemplateFacts.Contract
