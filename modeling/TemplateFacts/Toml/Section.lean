import TemplateFacts.Json.Basic
import TemplateFacts.Toml.DateTime

/-!
Tables of a TOML document, put together from its sections.

A table is opened by its own header, by the header of a table inside it, or by a key with points,
and each of these ways admits other additions later.
-/

namespace TemplateFacts.Toml

/-- What stands under a key while tables are put together. -/
inductive Node where
  /-- A value, to which nothing can be added. -/
  | value (j : Json)
  /-- A table opened by a key with points. -/
  | dotted (entries : List (String × Node))
  /-- A table opened by a header, by its own or by that of a table inside it. -/
  | section (headed : Bool) (entries : List (String × Node))
  /-- A list of tables, the last one first. -/
  | sections (last : List (String × Node)) (earlier : List (List (String × Node)))
deriving Inhabited

/-- The entries of a table. -/
abbrev Entries := List (String × Node)

/-- Sets an entry, in the place of the entry of that key if there is one. -/
def setEntry (key : String) (node : Node) : Entries → Entries
  | [] => [(key, node)]
  | (other, kept) :: rest =>
    if other == key then (key, node) :: rest else (other, kept) :: setEntry key node rest

/-- Adds a value under keys joined by points. -/
def addValue? (j : Json) : List String → Entries → Option Entries
  -- Only tables opened in the same way are added to.
  | [], _ => none
  | [key], entries =>
    match entries.lookup key with
    | none => some (entries ++ [(key, .value j)])
    | some _ => none
  | key :: keys, entries =>
    match entries.lookup key with
    | none => (addValue? j keys []).map fun inner => entries ++ [(key, .dotted inner)]
    | some (.dotted inner) => (addValue? j keys inner).map fun inner =>
        setEntry key (.dotted inner) entries
    | some _ => none

/-- Adds the entries of a section to those of the tables inside it. -/
def mergeEntries? (entries : Entries) : Entries → Option Entries
  -- No key may be in both.
  | [] => some entries
  | (key, node) :: rest =>
    match entries.lookup key with
    | none => mergeEntries? (entries ++ [(key, node)]) rest
    | some _ => none

/-- Adds a section under the keys of its header. -/
def addSection? (isItem : Bool) (body : Entries) : List String → Entries → Option Entries
  -- A header goes on in the last table of a list.
  | [], _ => none
  | [key], entries =>
    match entries.lookup key, isItem with
    | none, false => some (entries ++ [(key, .section true body)])
    | none, true => some (entries ++ [(key, .sections body [])])
    | some (.section false inner), false =>
      (mergeEntries? inner body).map fun inner => setEntry key (.section true inner) entries
    | some (.sections last earlier), true =>
      some (setEntry key (.sections body (last :: earlier)) entries)
    | _, _ => none
  | key :: keys, entries =>
    match entries.lookup key with
    | none =>
      (addSection? isItem body keys []).map fun inner => entries ++ [(key, .section false inner)]
    | some (.section headed inner) =>
      (addSection? isItem body keys inner).map fun inner =>
        setEntry key (.section headed inner) entries
    | some (.sections last earlier) =>
      (addSection? isItem body keys last).map fun last =>
        setEntry key (.sections last earlier) entries
    | some _ => none

/-- The key that marks a table as a date-time in disguise, if it is the first one. -/
def dateTimeKey : String := "$__toml_private_datetime"

/-- The document of a disguised date-time. -/
def disguised? : Node → Option Json
  -- Only texts can be read as date-times.
  | .value (.text s) => (dateTimeText? s.toList).map .text
  | _ => none

/-- The node is a section of its own, or a list of such. -/
def Node.isSection : Node → Bool
  | .section .. => true
  | .sections .. => true
  | _ => false

mutual
/-- The document of a node, if its disguised date-times are right. -/
def Node.toJson? : Node → Option Json
  -- Lists of tables are turned around.
  | .value j => some j
  | .dotted entries => tableOf? entries
  | .section _ entries => tableOf? entries
  | .sections last earlier => do
    let j ← tableOf? last
    return .list (← tablesOf? earlier [j])
termination_by structural node => node

/-- The document of a table. -/
def tableOf? : List (String × Node) → Option Json
  -- No section may lie inside a disguised date-time, whose other keys are passed over.
  | [] => some (.object [])
  | (key, node) :: rest =>
    if key == dateTimeKey then
      if rest.any fun e => e.2.isSection then none else disguised? node
    else do
      let j ← node.toJson?
      return .object ((key, j) :: (← membersOf? rest))
termination_by structural entries => entries

/-- The members that entries stand for. -/
def membersOf? : List (String × Node) → Option (List (String × Json))
  | [] => some []
  | (key, node) :: rest => do
    let j ← node.toJson?
    return (key, j) :: (← membersOf? rest)
termination_by structural entries => entries

/-- The documents of tables given in reverse, put before some others. -/
def tablesOf? : List (List (String × Node)) → List Json → Option (List Json)
  | [], js => some js
  | entries :: rest, js => do
    let j ← tableOf? entries
    tablesOf? rest (j :: js)
termination_by structural tables => tables
end

/-- The document of the outermost table. -/
def rootOf? : Entries → Option Json
  -- As a disguised date-time it may have sections, which are passed over as well.
  | [] => some (.object [])
  | (key, node) :: rest =>
    if key == dateTimeKey then disguised? node else tableOf? ((key, node) :: rest)

end TemplateFacts.Toml
