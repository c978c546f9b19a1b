import TemplateFacts.Json.Basic
import TemplateFacts.Settings.Fault

/-! Values of a configuration, each with the place it comes from, and tables put over tables. -/

namespace TemplateFacts.Settings

/-- A value of a configuration. -/
inductive Value where
  | scalar (s : Scalar) (origin : Option String)
  | list (items : List Value) (origin : Option String)
  | table (entries : List (String × Value)) (origin : Option String)
deriving Inhabited

/-- The entries of a table, in the order in which they were first set. -/
abbrev Entries := List (String × Value)

namespace Value

/-- What the value is, for a failure that shows it. -/
def found : Value → Found
  | .scalar s _ => .scalar s
  | .list .. => .list
  | .table .. => .table

/-- Where the value comes from. -/
def origin : Value → Option String
  | .scalar _ origin => origin
  | .list _ origin => origin
  | .table _ origin => origin

/-- An empty table that comes from nowhere. -/
def bare : Value := .table [] none

/-- Nothing at all. -/
def nothing : Value := .scalar .unit none

/-- The value itself if it is a table, and an empty table otherwise. -/
def asTable : Value → Value
  -- What is no table is lost when a key is set in it.
  | .table entries origin => .table entries origin
  | _ => bare

/-- The entries of a table; other values have none. -/
def entries : Value → Entries
  | .table entries _ => entries
  | _ => []

/-- The items of a list; other values have none. -/
def items : Value → List Value
  | .list items _ => items
  | _ => []

/-- The value under a key of a table. -/
def get? (key : String) (v : Value) : Option Value := v.entries.lookup key

end Value

/-- Sets an entry, in the place of the one under the same key if there is one. -/
def putEntry (key : String) (v : Value) : Entries → Entries
  -- A new key comes last.
  | [] => [(key, v)]
  | (other, kept) :: rest =>
    if other == key then (key, v) :: rest else (other, kept) :: putEntry key v rest

mutual
/-- Sets a key of a table, other values being taken for empty tables. -/
def setKey (key : String) (target : Value) : Value → Value
  -- A table is put over what is there, key by key, and any other value replaces it.
  | .table incoming _ =>
    let inner := (target.get? key).getD .bare
    .table (putEntry key (setKeys inner incoming) target.asTable.entries) target.asTable.origin
  | v => .table (putEntry key v target.asTable.entries) target.asTable.origin
termination_by structural v => v

/-- Sets some keys of a table, one after the other. -/
def setKeys (target : Value) : List (String × Value) → Value
  -- Without keys to set the target stays what it is.
  | [] => target
  | entry :: rest => setKeys (setEntry target entry) rest
termination_by structural entries => entries

/-- Sets the key of an entry. -/
def setEntry (target : Value) : String × Value → Value
  | (key, v) => setKey key target v
termination_by structural entry => entry
end

mutual
/-- The value that a document writes. -/
def Value.ofJson (origin : Option String) : Json → Value
  -- Integers too great for 64 bits with a sign are taken for floats.
  | .null => .scalar .unit origin
  | .bool b => .scalar (.bool b) origin
  | .int n =>
    .scalar (if n ≤ Json.greatestSigned then .int n else .float (.ofInt n)) origin
  | .float x => .scalar (.float x) origin
  | .text s => .scalar (.text s) origin
  | .list js => .list (Value.ofItems origin js) origin
  | .object members => .table (Value.ofMembers origin members) origin
termination_by structural j => j

/-- The values that the items of a list write. -/
def Value.ofItems (origin : Option String) : List Json → List Value
  | [] => []
  | j :: js => Value.ofJson origin j :: Value.ofItems origin js
termination_by structural js => js

/-- The entries that the members of an object write. -/
def Value.ofMembers (origin : Option String) : List (String × Json) → Entries
  | [] => []
  | m :: ms => Value.ofMember origin m :: Value.ofMembers origin ms
termination_by structural ms => ms

/-- The entry that a member writes. -/
def Value.ofMember (origin : Option String) : String × Json → String × Value
  | (key, j) => (key, Value.ofJson origin j)
termination_by structural m => m
end

end TemplateFacts.Settings
