import TemplateFacts.Compiler.Client
import TemplateFacts.Contract.Document
import TemplateFacts.Facts.Assembly
import TemplateFacts.FileTree.Replace
import TemplateFacts.Json.Writer
import TemplateFacts.Sha256

/-!
The generation of facts for the sources of a run.

Sources are taken in order. Facts are written only after they were checked against the contract,
and the run goes on after a failure only if the failure concerns one source and the run may.
-/

namespace TemplateFacts.Generation

open Compiler (Client Description)

/-- What a run is told to do. -/
structure Options where
  root : Path
  outDir : Option Path
  componentIdFrom : ComponentIdSource
  generatedAt : Option String
  continueOnError : Bool
deriving Repr

/-- What is there and what was done at some point of a run. -/
structure Progress (σ : Type) where
  compiler : σ
  tree : FileTree
  written : List Path
  failed : List (Path × Error)

/-- A run before its first source. -/
def Progress.start {σ : Type} (compiler : σ) (tree : FileTree) : Progress σ :=
  ⟨compiler, tree, [], []⟩

/-- What the facts of a run have in common. -/
def contextOf (options : Options) (compilerVersion : String) : FactsContext where
  root := options.root
  compilerVersion := compilerVersion
  generator := generatorName
  componentIdFrom := options.componentIdFrom

/-- A stamp given by hand, if it is a date-time. -/
def checkedStamp (stamp : String) : Except Error String :=
  -- The stamp is kept as it is written.
  if Timestamp.isStamp stamp then .ok stamp
  else .error (.invalidArgument "--generated-at must be a valid ISO date-time string")

/-- The hash of the bytes of a file. -/
def hashAt (cwd file : Path) (tree : FileTree) : Except Error String :=
  match tree.fileAt cwd file with
  | .ok (bytes, _) => .ok (Sha256.hexDigest bytes)
  | .error e => .error (.io (.refused e))

/-- The time of the last change of a file. -/
def stampAt (cwd file : Path) (tree : FileTree) : Except Error String :=
  match tree.fileAt cwd file with
  | .ok (_, modified) => .ok modified.text
  | .error e => .error (.io (.refused e))

/-- The facts about a source that the compiler has described. -/
def assemble (disk : FileTree.Disk) (options : Options) (context : FactsContext) (file : Path)
    (described : Description) (tree : FileTree) : Except Error Facts := do
  -- The source is read only after its compilation is known to have succeeded.
  let _ ← ensureCompiled file described.compile
  let hash ← hashAt disk.setting.cwd file tree
  let generatedAt ← match options.generatedAt with
    | some stamp => .ok stamp
    | none => stampAt disk.setting.cwd file tree
  buildFacts {
    file
    compile := described.compile
    metadata := described.metadata
    graph := described.graph
    hash
    generatedAt } context

/-- The facts as they are written, if the contract accepts them. -/
def accepted (contract : Schema) (facts : Facts) : Except Error String :=
  -- What is checked is what is written.
  let document := Json.canonicalize facts.toJson
  (contract.validate document).map fun () => Json.canonicalText document

/-- Generates the facts about a source, and gives the path they are written to. -/
def generateFile {σ : Type} (client : Client σ) (disk : FileTree.Disk) (options : Options)
    (contract : Schema) (context : FactsContext) (file : Path) (compiler : σ)
    (tree : FileTree) : Except Error Path × σ × FileTree :=
  -- The tree changes only when the facts are known to be right.
  match client.describe file compiler with
  | (.error e, compiler) => (.error e, compiler, tree)
  | (.ok described, compiler) =>
    match assemble disk options context file described tree >>= accepted contract with
    | .error e => (.error e, compiler, tree)
    | .ok text =>
      let target := SourceFile.outputPath file options.root options.outDir
      let passage := FileTree.replaceFile disk target text tree
      match passage.result with
      | .ok () => (.ok target, compiler, passage.tree)
      | .error e => (.error (.io (.refused e)), compiler, passage.tree)

/-- Generates the facts about some sources, up to the first failure that ends the run. -/
def generateEach {σ : Type} (client : Client σ) (disk : FileTree.Disk) (options : Options)
    (contract : Schema) (context : FactsContext) :
    List Path → Progress σ → Except Error Unit × Progress σ
  -- Sources behind the failure are left alone.
  | [], progress => (.ok (), progress)
  | file :: files, progress =>
    match generateFile client disk options contract context file progress.compiler
        progress.tree with
    | (.ok target, compiler, tree) =>
      generateEach client disk options contract context files
        { progress with compiler, tree, written := progress.written ++ [target] }
    | (.error e, compiler, tree) =>
      if options.continueOnError && e.isFileScoped then
        generateEach client disk options contract context files
          { progress with compiler, tree, failed := progress.failed ++ [(file, e)] }
      else (.error e, { progress with compiler, tree })

/-- Generates the facts about all sources of a run. -/
def generateAll {σ : Type} (client : Client σ) (disk : FileTree.Disk) (options : Options)
    (contract : Schema) (files : List Path) (compiler : σ) (tree : FileTree) :
    Except Error Unit × Progress σ :=
  -- The version is asked for once, before anything else.
  match client.version compiler with
  | (.error e, compiler) => (.error e, .start compiler tree)
  | (.ok version, compiler) =>
    match generateEach client disk options contract (contextOf options version) files
        (.start compiler tree) with
    | (.error e, progress) => (.error e, progress)
    | (.ok (), progress) =>
      if progress.failed.isEmpty then (.ok (), progress)
      else (.error (.filesFailed progress.failed.length files.length), progress)

/-- What is printed about the facts that were written. -/
def Progress.printed {σ : Type} (progress : Progress σ) : String :=
  -- Each path has a line of its own.
  String.join (progress.written.map fun path => s!"Wrote {path.text}\n")

end TemplateFacts.Generation
