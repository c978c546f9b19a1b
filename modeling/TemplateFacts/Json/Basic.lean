import TemplateFacts.Binary64.Basic

/-! Documents: the values of JSON, with integers kept apart from other numbers. -/

namespace TemplateFacts

/-- A document. -/
inductive Json where
  | null
  | bool (b : Bool)
  | int (n : Int)
  | float (x : Binary64)
  | text (s : String)
  | list (items : List Json)
  | object (members : List (String × Json))
deriving Inhabited

namespace Json

mutual
/-- Equality of documents is decided part by part. -/
def decEq : (a b : Json) → Decidable (a = b)
  -- Documents of two kinds differ.
  | .null, b => match b with
    | .null => isTrue rfl
    | .bool _ | .int _ | .float _ | .text _ | .list _ | .object _ => isFalse (by simp)
  | .bool x, b => match b with
    | .bool y => if same : x = y then isTrue (by rw [same]) else isFalse (by simp [same])
    | .null | .int _ | .float _ | .text _ | .list _ | .object _ => isFalse (by simp)
  | .int x, b => match b with
    | .int y => if same : x = y then isTrue (by rw [same]) else isFalse (by simp [same])
    | .null | .bool _ | .float _ | .text _ | .list _ | .object _ => isFalse (by simp)
  | .float x, b => match b with
    | .float y => if same : x = y then isTrue (by rw [same]) else isFalse (by simp [same])
    | .null | .bool _ | .int _ | .text _ | .list _ | .object _ => isFalse (by simp)
  | .text x, b => match b with
    | .text y => if same : x = y then isTrue (by rw [same]) else isFalse (by simp [same])
    | .null | .bool _ | .int _ | .float _ | .list _ | .object _ => isFalse (by simp)
  | .list xs, b => match b with
    | .list ys => match decEqItems xs ys with
      | isTrue same => isTrue (by rw [same])
      | isFalse differ => isFalse (by simp [differ])
    | .null | .bool _ | .int _ | .float _ | .text _ | .object _ => isFalse (by simp)
  | .object xs, b => match b with
    | .object ys => match decEqMembers xs ys with
      | isTrue same => isTrue (by rw [same])
      | isFalse differ => isFalse (by simp [differ])
    | .null | .bool _ | .int _ | .float _ | .text _ | .list _ => isFalse (by simp)
termination_by structural a => a

/-- Equality of lists of documents is decided item by item. -/
def decEqItems : (a b : List Json) → Decidable (a = b)
  -- Lists of two lengths differ.
  | [], [] => isTrue rfl
  | [], _ :: _ => isFalse (by simp)
  | _ :: _, [] => isFalse (by simp)
  | x :: xs, y :: ys => match decEq x y, decEqItems xs ys with
    | isTrue first, isTrue rest => isTrue (by rw [first, rest])
    | isFalse differ, _ => isFalse (by simp [differ])
    | _, isFalse differ => isFalse (by simp [differ])
termination_by structural a => a

/-- Equality of lists of members is decided member by member, in order. -/
def decEqMembers : (a b : List (String × Json)) → Decidable (a = b)
  -- Lists of two lengths differ.
  | [], [] => isTrue rfl
  | [], _ :: _ => isFalse (by simp)
  | _ :: _, [] => isFalse (by simp)
  | x :: xs, y :: ys => match decEqMember x y, decEqMembers xs ys with
    | isTrue first, isTrue rest => isTrue (by rw [first, rest])
    | isFalse differ, _ => isFalse (by simp [differ])
    | _, isFalse differ => isFalse (by simp [differ])
termination_by structural a => a

/-- Equality of members is decided by name and value. -/
def decEqMember : (a b : String × Json) → Decidable (a = b)
  -- The names are compared first.
  | (n, x), (m, y) =>
    if named : n = m then
      match decEq x y with
      | isTrue same => isTrue (by rw [named, same])
      | isFalse differ => isFalse (by simp [differ])
    else isFalse (by simp [named])
termination_by structural a => a
end

instance : DecidableEq Json := decEq

/-- The value of a member of an object. -/
def get? (name : String) : Json → Option Json
  -- Only objects have members.
  | .object members => members.lookup name
  | _ => none

/-- The text of a document that is one. -/
def asText? : Json → Option String
  -- Nothing is converted.
  | .text s => some s
  | _ => none

/-- The items of a document that is a list. -/
def asList? : Json → Option (List Json)
  -- Nothing is converted.
  | .list items => some items
  | _ => none

/-- The members of a document that is an object. -/
def asObject? : Json → Option (List (String × Json))
  -- Nothing is converted.
  | .object members => some members
  | _ => none

/-- The truth value of a document that is one. -/
def asBool? : Json → Option Bool
  -- Nothing is converted.
  | .bool b => some b
  | _ => none

/-- The integer of a document that is one. -/
def asInt? : Json → Option Int
  -- A float is no integer, whatever its value.
  | .int n => some n
  | _ => none

/-- The least integer that is kept as an integer. -/
def leastInt : Int := -9223372036854775808

/-- The greatest integer that is kept as an integer. -/
def greatestInt : Int := 18446744073709551615

/-- The greatest integer of a signed field. -/
def greatestSigned : Int := 9223372036854775807

/-- Sets a member in a list that is sorted by name, replacing the member of that name. -/
def putMember (name : String) (value : Json) : List (String × Json) → List (String × Json)
  -- Names are unique and increase.
  | [] => [(name, value)]
  | (other, kept) :: rest =>
    if name < other then (name, value) :: (other, kept) :: rest
    else if name = other then (name, value) :: rest
    else (other, kept) :: putMember name value rest

/-- The object of the members in order of their names, the last member of a name being kept. -/
def ofMembers (members : List (String × Json)) : Json :=
  -- Members are set from first to last.
  .object (members.foldl (fun sorted member => putMember member.1 member.2 sorted) [])

end Json

end TemplateFacts
