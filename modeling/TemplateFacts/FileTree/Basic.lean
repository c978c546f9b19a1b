import TemplateFacts.Timestamp

/-! Trees of files, directories and symbolic links. -/

namespace TemplateFacts

/-- A file, a symbolic link, or a directory with what it holds. -/
inductive FileTree where
  | file (bytes : List UInt8) (modified : Timestamp.Instant)
  | link (target : String)
  | directory (entries : List (String × FileTree))
deriving Inhabited

namespace FileTree

/-- An empty directory. -/
def empty : FileTree := .directory []

/-- What a directory holds. -/
def entries : FileTree → List (String × FileTree)
  -- Only directories hold anything.
  | .directory es => es
  | _ => []

/-- The tree is a directory. -/
def isDirectory : FileTree → Bool
  | .directory _ => true
  | _ => false

/-- The part of a tree below the given names, links not being followed. -/
def at? (tree : FileTree) : List String → Option FileTree
  -- Each name selects an entry.
  | [] => some tree
  | name :: names =>
    match tree.entries.lookup name with
    | some entry => entry.at? names
    | none => none

/-- Sets an entry of a directory, in the place of the entry of that name if there is one. -/
def setEntry (name : String) (entry : FileTree) : List (String × FileTree) → List (String × FileTree)
  -- A new entry comes last.
  | [] => [(name, entry)]
  | (other, kept) :: rest =>
    if other == name then (name, entry) :: rest else (other, kept) :: setEntry name entry rest

/-- Removes an entry of a directory. -/
def dropEntry (name : String) (es : List (String × FileTree)) : List (String × FileTree) :=
  es.filter fun e => e.1 != name

/-- Sets the part of a tree below the given names, where all but the last are those of directories. -/
def put (part : FileTree) : List String → FileTree → FileTree
  -- The directories on the way keep their other entries.
  | [], _ => part
  | name :: names, tree =>
    .directory (setEntry name (put part names ((tree.entries.lookup name).getD empty)) tree.entries)

/-- Removes the part of a tree below the given names. -/
def erase : List String → FileTree → FileTree
  -- The root cannot be removed.
  | [], tree => tree
  | [name], tree => .directory (dropEntry name tree.entries)
  | name :: names, tree =>
    match tree.entries.lookup name with
    | some entry => .directory (setEntry name (erase names entry) tree.entries)
    | none => tree

mutual
/-- Every part of a tree with the names above it, a directory before what it holds. -/
def listing (above : List String) : FileTree → List (List String × FileTree)
  -- Files and links hold nothing.
  | .directory es => listingOfEntries above es
  | _ => []
termination_by structural tree => tree

/-- Every part of some entries with the names above it. -/
def listingOfEntries (above : List String) :
    List (String × FileTree) → List (List String × FileTree)
  -- Order is kept.
  | [] => []
  | e :: es => listingOfEntry above e ++ listingOfEntries above es
termination_by structural es => es

/-- An entry, and every part of it, with the names above it. -/
def listingOfEntry (above : List String) : String × FileTree → List (List String × FileTree)
  -- The name of the entry comes last.
  | (name, tree) => (above ++ [name], tree) :: listing (above ++ [name]) tree
termination_by structural e => e
end

end FileTree

end TemplateFacts
