import TemplateFacts.FileTree.Walk

/-! The operations that change a tree of files, one at a time. -/

namespace TemplateFacts.FileTree

/-- A change of a tree. -/
inductive Operation where
  | makeDirectory (path : Path)
  /-- Makes a file, or empties the one that is there. -/
  | create (path : Path)
  /-- Gives a file its bytes. -/
  | fill (path : Path) (bytes : List UInt8)
  /-- Moves a file, in the place of another one if there is one. -/
  | rename (source target : Path)
  | remove (path : Path)
deriving DecidableEq

/-- Where and when changes happen. -/
structure Setting where
  cwd : Path
  now : Timestamp.Instant
deriving DecidableEq, Repr

/-- Makes a directory in one that is there. -/
def makeDirectory (setting : Setting) (path : Path) (root : FileTree) :
    Except Errno FileTree := do
  -- Nothing may be there, not even a link that leads nowhere.
  let (names, last) ← resolveParent root setting.cwd path
  match last with
  | .name name =>
    if name.utf8ByteSize > greatestName then throw .nameTooLong
    else if (root.at? (names ++ [name])).isSome then throw .exists
    else return put empty (names ++ [name]) root
  | _ => throw .exists

/-- Sets the bytes of the file that a path leads to, making it if need be. -/
def setFile (setting : Setting) (path : Path) (bytes : List UInt8) (root : FileTree) :
    Except Errno FileTree := do
  -- A link is written through.
  let spot ← resolve root setting.cwd path true
  match spot.tree? with
  | some (.directory _) => throw .isDirectory
  | some _ => return put (.file bytes setting.now) spot.names root
  | none =>
    if endsInSlash path.text then throw .isDirectory
    else return put (.file bytes setting.now) spot.names root

/-- Moves a file to a path. -/
def rename (setting : Setting) (source target : Path) (root : FileTree) :
    Except Errno FileTree := do
  -- What is at the target is replaced, unless it is a directory.
  let (fromNames, fromLast) ← resolveParent root setting.cwd source
  let (toNames, toLast) ← resolveParent root setting.cwd target
  match fromLast, toLast with
  | .name fromName, .name toName =>
    match root.at? (fromNames ++ [fromName]) with
    | none => throw .noEntry
    | some moved =>
      if toName.utf8ByteSize > greatestName then throw .nameTooLong
      else if endsInSlash target.text && !moved.isDirectory then throw .notDirectory
      else match root.at? (toNames ++ [toName]) with
        | some (.directory _) => throw .isDirectory
        | _ => return put moved (toNames ++ [toName]) (erase (fromNames ++ [fromName]) root)
  | _, _ => throw .busy

/-- Removes a file or a link. -/
def remove (setting : Setting) (path : Path) (root : FileTree) : Except Errno FileTree := do
  -- Directories are not removed.
  let (names, last) ← resolveParent root setting.cwd path
  match last with
  | .name name =>
    match root.at? (names ++ [name]) with
    | none => throw .noEntry
    | some (.directory _) => throw .isDirectory
    | some _ => return erase (names ++ [name]) root
  | _ => throw .isDirectory

/-- The tree after an operation, or why it is refused. -/
def perform (setting : Setting) : Operation → FileTree → Except Errno FileTree
  -- A refused operation changes nothing.
  | .makeDirectory path => makeDirectory setting path
  | .create path => setFile setting path []
  | .fill path bytes => setFile setting path bytes
  | .rename source target => rename setting source target
  | .remove path => remove setting path

end TemplateFacts.FileTree
