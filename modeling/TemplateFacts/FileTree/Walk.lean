import TemplateFacts.Error
import TemplateFacts.FileTree.Basic
import TemplateFacts.Utf8

/-! Where a path leads in a tree of files, links being followed. -/

namespace TemplateFacts.FileTree

/-- The greatest number of links that are followed on one way. -/
def greatestLinks : Nat := 40

/-- The greatest number of bytes of a name. -/
def greatestName : Nat := 255

/-- The names of a place, and what is there, its directory being there in any case. -/
structure Spot where
  names : List String
  tree? : Option FileTree

/-- The segments of a path between its slashes, empty ones left out. -/
def segments (path : String) : List String := (Text.split '/' path).filter (· != "")

/-- The path ends with a slash, and so must lead to a directory. -/
def endsInSlash (path : String) : Bool := path.toList.getLast? == some '/'

/-- Goes along segments from a directory, given how to go on at a link. -/
def goAlong (root : FileTree) (followLast : Bool)
    (onLink : (here : List String) → (target : String) → (rest : List String) →
      Except Errno Spot) (slash : Bool) (here : List String) :
    List String → Except Errno Spot
  -- Only the last name may be missing.
  | [] => .ok ⟨here, root.at? here⟩
  | segment :: rest =>
    if segment == "." then goAlong root followLast onLink slash here rest
    else if segment == ".." then goAlong root followLast onLink slash here.dropLast rest
    else if segment.utf8ByteSize > greatestName then .error .nameTooLong
    else
      let there := here ++ [segment]
      match root.at? there with
      | none => if rest.isEmpty then .ok ⟨there, none⟩ else .error .noEntry
      | some (.directory _) => goAlong root followLast onLink slash there rest
      | some (.file bytes modified) =>
        if rest.isEmpty && !slash then .ok ⟨there, some (.file bytes modified)⟩
        else .error .notDirectory
      | some (.link target) =>
        if rest.isEmpty && !slash && !followLast then .ok ⟨there, some (.link target)⟩
        else onLink here target rest

/-- Goes along segments, following at most so many links. -/
def goFollowing (root : FileTree) (followLast : Bool) :
    (links : Nat) → (slash : Bool) → (here segments : List String) → Except Errno Spot
  -- A link is replaced by its target, seen from the directory that holds it.
  | 0, slash, here, path =>
    goAlong root followLast (fun _ _ _ => .error .tooManyLinks) slash here path
  | links + 1, slash, here, path =>
    goAlong root followLast (fun here target rest =>
      goFollowing root followLast links (slash || (rest.isEmpty && endsInSlash target))
        (if target.toList.head? == some '/' then [] else here) (segments target ++ rest))
      slash here path

/-- The greatest number of bytes of a path. -/
def greatestPath : Nat := 4095

/-- Why a path is refused before anything is looked up, if it is. -/
def refusal? (path : Path) : Option Errno :=
  -- The empty path leads nowhere.
  if path.text.toList.contains '\x00' then some .zeroByte
  else if path.text == "" then some .noEntry
  else if path.text.utf8ByteSize > greatestPath then some .nameTooLong
  else none

/-- Where a path leads, seen from a working directory. -/
def resolve (root : FileTree) (cwd path : Path) (followLast : Bool) : Except Errno Spot :=
  -- The segments are those of the whole path from the root.
  match refusal? path with
  | some e => .error e
  | none =>
    let whole := cwd.join path
    goFollowing root followLast greatestLinks (endsInSlash whole.text) [] (segments whole.text)

/-- What a path leads to. -/
def stat (root : FileTree) (cwd path : Path) (followLast : Bool) :
    Except Errno (List String × FileTree) :=
  -- Something must be there.
  match resolve root cwd path followLast with
  | .error e => .error e
  | .ok ⟨names, some tree⟩ => .ok (names, tree)
  | .ok ⟨_, none⟩ => .error .noEntry

/-- A path leads to a directory. -/
def isDirectoryAt (root : FileTree) (cwd path : Path) : Bool :=
  match stat root cwd path true with
  | .ok (_, .directory _) => true
  | _ => false

/-- A path leads to a file. -/
def isFileAt (root : FileTree) (cwd path : Path) : Bool :=
  match stat root cwd path true with
  | .ok (_, .file ..) => true
  | _ => false

/-- The bytes and the time of the file that a path leads to. -/
def fileAt (root : FileTree) (cwd path : Path) :
    Except Errno (List UInt8 × Timestamp.Instant) :=
  -- A directory can be opened, and not read.
  match stat root cwd path true with
  | .error e => .error e
  | .ok (_, .file bytes modified) => .ok (bytes, modified)
  | .ok _ => .error .isDirectory

/-- The text of the file that a path leads to. -/
def textAt (root : FileTree) (cwd path : Path) : Except IoFault String :=
  -- All bytes are read before they are taken for text.
  match fileAt root cwd path with
  | .error e => .error (.refused e)
  | .ok (bytes, _) =>
    match Utf8.decode bytes with
    | .ok text => .ok text
    | .error _ => .error .notText

/-- The last segment of a path, told apart from dots. -/
inductive Last where
  /-- The path is that of the root. -/
  | root
  | dots
  | name (s : String)
deriving DecidableEq, Repr

/-- The directory that a path leads to but for its last segment, and that segment. -/
def resolveParent (root : FileTree) (cwd path : Path) : Except Errno (List String × Last) :=
  -- All segments but the last must be those of directories.
  match refusal? path with
  | some e => .error e
  | none =>
    let path := segments (cwd.join path).text
    match path.getLast? with
    | none => .ok ([], .root)
    | some last =>
      match goFollowing root true greatestLinks true [] path.dropLast with
      | .error e => .error e
      | .ok ⟨_, none⟩ => .error .noEntry
      | .ok ⟨names, some _⟩ =>
        .ok (names, if last == "." || last == ".." then .dots else .name last)

end TemplateFacts.FileTree
