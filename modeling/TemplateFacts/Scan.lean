import TemplateFacts.FileTree.Walk
import TemplateFacts.SourceFile

/-! The source files in a tree. -/

namespace TemplateFacts.Scan

/-- The names of directories that are never entered. -/
def ignoredNames : List String := [".git", "node_modules"]

/-- An entry below the root of the scan is passed over with all that it holds. -/
def isPruned (excluded : List Path) (path : Path) (name : String) (tree : FileTree) : Bool :=
  -- Only directories are ignored by name, and anything is excluded by its path.
  (tree.isDirectory && ignoredNames.contains name) || excluded.any path.startsWith

mutual
/-- The source files in an entry, with the path to it. -/
def sourcesIn (excluded : List Path) (path : Path) : FileTree → List Path
  -- Links are not followed.
  | .directory es => sourcesAmong excluded path es
  | .file .. => if SourceFile.isSourceName (path.fileName?.getD path.text) then [path] else []
  | .link _ => []
termination_by structural tree => tree

/-- The source files among the entries of a directory. -/
def sourcesAmong (excluded : List Path) (path : Path) : List (String × FileTree) → List Path
  -- The order of the entries is kept.
  | [] => []
  | e :: es => sourcesOfEntry excluded path e ++ sourcesAmong excluded path es
termination_by structural es => es

/-- The source files in an entry of a directory. -/
def sourcesOfEntry (excluded : List Path) (path : Path) : String × FileTree → List Path
  -- The path of the entry ends with its name.
  | (name, tree) =>
    let inside := path.join ⟨name⟩
    if isPruned excluded inside name tree then [] else sourcesIn excluded inside tree
termination_by structural e => e
end

/-- The source files below a path in the order of their paths. -/
def sources (root : FileTree) (cwd path : Path) (excluded : List Path) :
    Except Error (List Path) :=
  -- A link at the very beginning is followed if it leads to a directory.
  let sorted (tree : FileTree) : List Path :=
    (sourcesIn excluded path tree).mergeSort fun a b => decide (a.text ≤ b.text)
  match root.stat cwd path false with
  | .error e => .error (.io (.walk path e))
  | .ok (_, .link _) =>
    match root.stat cwd path true with
    | .error e => .error (.io (.walk path e))
    | .ok (_, .directory es) => .ok (sorted (.directory es))
    | .ok _ => .ok []
  | .ok (_, tree) => .ok (sorted tree)

end TemplateFacts.Scan
