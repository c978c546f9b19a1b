import TemplateFacts.FileTree.Operation
import TemplateFacts.Utf8

/-!
Files replaced as a whole.

The new content goes into a temporary file beside the target, which is then moved into its place.
The target is never touched before that, so it holds either its old content or the new one.
-/

namespace TemplateFacts.FileTree

/-- The result of some operations, and the trees passed through, the last one first. -/
structure Passage (α : Type) where
  result : Except Errno α
  tree : FileTree
  earlier : List FileTree

/-- How a process carries out operations: any may be refused for reasons outside the tree. -/
structure Disk where
  setting : Setting
  processId : Nat
  refuses : Operation → Option Errno
  /-- How many bytes a file has got by the time that filling it is refused. -/
  wrote : Path → List UInt8 → Nat

/-- A disk that refuses nothing of its own accord. -/
def Disk.willing (setting : Setting) (processId : Nat) : Disk :=
  ⟨setting, processId, fun _ => none, fun _ _ => 0⟩

/-- Carries out an operation. -/
def Disk.perform (disk : Disk) (operation : Operation) (tree : FileTree) : Passage Unit :=
  -- The disk may refuse what the tree would allow.
  match disk.refuses operation with
  | some e => ⟨.error e, tree, []⟩
  | none =>
    match FileTree.perform disk.setting operation tree with
    | .ok changed => ⟨.ok (), changed, [tree]⟩
    | .error e => ⟨.error e, tree, []⟩

/-- Fills a file, as a whole or up to where the disk refuses to go on. -/
def Disk.fill (disk : Disk) (path : Path) (bytes : List UInt8) (tree : FileTree) : Passage Unit :=
  -- The bytes that the file has got by then stay in it.
  match disk.refuses (.fill path bytes) with
  | none => disk.perform (.fill path bytes) tree
  | some e =>
    match FileTree.perform disk.setting (.fill path (bytes.take (disk.wrote path bytes))) tree with
    | .ok changed => ⟨.error e, changed, [tree]⟩
    | .error _ => ⟨.error e, tree, []⟩

/-- Goes on after some operations, whatever their result. -/
def Passage.andThen {α β : Type} (passage : Passage α)
    (next : Except Errno α → FileTree → Passage β) : Passage β :=
  -- The trees of both parts are passed through.
  let after := next passage.result passage.tree
  ⟨after.result, after.tree, after.earlier ++ passage.earlier⟩

/-- A result without any operation. -/
def Passage.stay {α : Type} (result : Except Errno α) (tree : FileTree) : Passage α :=
  ⟨result, tree, []⟩

/-- Makes the first of some directories, each of which lies in the one behind it. -/
def makeAll (disk : Disk) : List Path → FileTree → Passage Unit
  -- Those behind it are made only when they turn out to be missing.
  | [], tree => .stay (.ok ()) tree
  | path :: above, tree =>
    if path.text == "" then Passage.stay (.ok ()) tree
    else
      let settle (result : Except Errno Unit) (tree : FileTree) : Passage Unit :=
        match result with
        | .ok () => Passage.stay (.ok ()) tree
        | .error e =>
          .stay (if isDirectoryAt tree disk.setting.cwd path then .ok () else .error e) tree
      (disk.perform (.makeDirectory path) tree).andThen fun result tree =>
        if result matches .error .noEntry then
          (makeAll disk above tree).andThen fun result tree =>
            match result with
            | .error e => Passage.stay (.error e) tree
            | .ok () => (disk.perform (.makeDirectory path) tree).andThen settle
        else settle result tree

/-- The path and those above it, up to the root or to the end of a relative path. -/
def lineage : (fuel : Nat) → Path → List Path
  -- Each step makes the text shorter.
  | 0, _ => []
  | fuel + 1, path =>
    match path.parent? with
    | some above => path :: lineage fuel above
    | none => [path]

/-- Makes a directory and those above it that are missing. -/
def makeDirectories (disk : Disk) (path : Path) : FileTree → Passage Unit :=
  makeAll disk (lineage (path.text.length + 1) path)

/-- The path of the temporary file for a target. -/
def temporaryPath (processId : Nat) (target : Path) : Path :=
  -- The leading dot hides it, and the number keeps processes apart.
  let name := target.fileName?.getD ""
  target.withFileName s!".{name}.{processId}.tmp"

/-- Moves the temporary file into place, or removes it. -/
def moveIntoPlace (disk : Disk) (temporary target : Path) (tree : FileTree) : Passage Unit :=
  -- The reason why it could not be moved is reported, whether or not it can be removed.
  (disk.perform (.rename temporary target) tree).andThen fun result tree =>
    match result with
    | .ok () => Passage.stay (.ok ()) tree
    | .error e =>
      (disk.perform (.remove temporary) tree).andThen fun _ tree => Passage.stay (.error e) tree

/-- Replaces the content of a file, making its directory if need be. -/
def replaceFile (disk : Disk) (target : Path) (content : String) (tree : FileTree) :
    Passage Unit :=
  -- Nothing is moved into place before all of it is written.
  let temporary := temporaryPath disk.processId target
  let parents := match target.parent? with
    | some folder =>
      if folder.text == "" then Passage.stay (.ok ()) tree else makeDirectories disk folder tree
    | none => Passage.stay (.ok ()) tree
  let stopOr (next : FileTree → Passage Unit) (result : Except Errno Unit) (tree : FileTree) :
      Passage Unit :=
    match result with
    | .ok () => next tree
    | .error e => Passage.stay (.error e) tree
  parents.andThen <| stopOr fun tree =>
    (disk.perform (.create temporary) tree).andThen <| stopOr fun tree =>
      (disk.fill temporary (Utf8.encode content) tree).andThen <| stopOr fun tree =>
        moveIntoPlace disk temporary target tree

end TemplateFacts.FileTree
