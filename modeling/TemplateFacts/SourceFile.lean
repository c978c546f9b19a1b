import TemplateFacts.Path
import TemplateFacts.Text.Case

/-! Source files: how they are named, and where the facts about them are written. -/

namespace TemplateFacts.SourceFile

/-- The ending of the names of source files. -/
def sourceEnding : String := ".bicep"

/-- The ending of the names of facts files. -/
def factsEnding : String := ".facts.json"

/-- The name without the ending of source files, unless nothing would be left. -/
def stripEnding (name : String) : String :=
  -- The ending is compared letter by letter.
  match Text.dropEnd? name sourceEnding with
  | some stem => if stem == "" then name else stem
  | none => name

/-- The file name of a source without its ending. -/
def stem (file : Path) : String :=
  -- A path that ends in no name has an empty stem.
  stripEnding (file.fileName?.getD "")

/-- A file name is that of a source, whatever the case of its ending. -/
def isSourceName (name : String) : Bool :=
  -- The case is removed from the whole name.
  Text.endsWith (Text.lower name) sourceEnding

/-- Where the facts about a source are written. -/
def outputPath (file root : Path) (outDir : Option Path) : Path :=
  -- Below an output directory the folders of the source are repeated.
  let name := stem file ++ factsEnding
  match outDir with
  | none =>
    match file.parent? with
    | some folder => folder.join ⟨name⟩
    | none => ⟨name⟩
  | some outDir =>
    let relative := Path.relativeTo root file
    if relative.isAbsolute then outDir.join ⟨name⟩
    else match relative.parent? with
      | some folder => (outDir.join folder).join ⟨name⟩
      | none => outDir.join ⟨name⟩

end TemplateFacts.SourceFile
