import TemplateFacts.Binary64.Read
import TemplateFacts.FileTree.Walk
import TemplateFacts.Json.Reader
import TemplateFacts.Settings.Basic
import TemplateFacts.Settings.Key
import TemplateFacts.Settings.Value
import TemplateFacts.Text.Lines
import TemplateFacts.Toml.Reader

/-!
Settings in layers: what is built in, then a file, then the environment, then overrides.

A file and the environment make settings, each in its own notation. Each layer is a list of keys and
values, and is put over the layers below it key by key. How files are read that are neither TOML nor
JSON is left open: any reader of the other formats may be given.
-/

namespace TemplateFacts.Settings.Environment

/-- The beginning of the names that make settings. -/
def beginning : String := "bicep_facts_"

/-- Where such settings are said to come from. -/
def originName : String := "the environment"

/-- The key of the only setting whose text is cut into a list. -/
def listKey : String := "compiler.args"

/-- The integer of 64 bits that a text writes. -/
def readInt? (s : String) : Option Int :=
  -- One sign may stand before the digits.
  let (negative, cs) := Binary64.readSign s.toList
  match Text.readNat? cs with
  | some n =>
    let n : Int := if negative then -(n : Int) else n
    if Json.leastInt ≤ n && n ≤ Json.greatestSigned then some n else none
  | none => none

/-- The text with two underscores written as a point, from the front. -/
def pointed : List Char → List Char
  -- A third underscore stands for itself.
  | '_' :: '_' :: cs => '.' :: pointed cs
  | c :: cs => c :: pointed cs
  | [] => []

/-- The key that a variable sets. -/
def keyOf? (name : String) : Option String :=
  -- Names are compared without regard to case.
  (Text.dropStart? (Text.lower name) beginning).map fun s => String.ofList (pointed s.toList)

/-- The value that the text of a variable stands for. -/
def valueOf (key text : String) : Value :=
  -- A flag is tried first, then an integer, then a float.
  let origin := some originName
  let word := Text.lower text
  if word == "true" then .scalar (.bool true) origin
  else if word == "false" then .scalar (.bool false) origin
  else match readInt? text with
    | some n => .scalar (.int n) origin
    | none =>
      match Binary64.ofText? text with
      | some x => .scalar (.float x) origin
      | none =>
        if key == listKey then
          .list ((Text.split ' ' text).map fun s => .scalar (.text s) origin) origin
        else .scalar (.text text) origin

/-- The settings that variables make, as keys and values. -/
def layer (environment : List (String × String)) : Entries :=
  -- Variables of other programs are passed over, and of two with one key the later wins.
  environment.foldl (fun entries v =>
    match keyOf? v.1 with
    | some key => putEntry key (valueOf key v.2) entries
    | none => entries) []

end TemplateFacts.Settings.Environment

namespace TemplateFacts.Settings.File

/-- The formats of files of settings that are read by a reader given from outside. -/
inductive Foreign where
  | yaml
  | ini
  | ron
  | json5
deriving DecidableEq, Repr

/-- The formats of files of settings. -/
inductive Format where
  | toml
  | json
  | foreign (format : Foreign)
deriving DecidableEq, Repr

/-- A reader of the foreign formats: the settings that a text makes, said to come from some place, if
the text is a document of the format. -/
abbrev ForeignReader := Foreign → (origin : Option String) → (text : String) → Option Entries

/-- The reader that takes no text for a document. -/
def readNothing : ForeignReader := fun _ _ _ => none

/-- The endings of file names and the formats they belong to. -/
def endings : List (String × Format) :=
  [("toml", .toml), ("json", .json), ("yaml", .foreign .yaml), ("yml", .foreign .yaml),
    ("ini", .foreign .ini), ("ron", .foreign .ron), ("json5", .foreign .json5)]

/-- The ending of a file name behind its last point. -/
def endingOf (name : String) : String :=
  -- A name whose only point is its first character has no ending.
  let backwards := name.toList.reverse
  let ending := backwards.takeWhile (· != '.')
  if (backwards.drop (ending.length + 1)).isEmpty then "" else String.ofList ending.reverse

/-- The file that a name stands for, and its format. -/
def locate (cwd : Path) (tree : FileTree) (name : Path) : Except Fault (Path × Format) :=
  -- A file of that very name comes first, and then those with an ending added to it.
  let file := cwd.join name
  if tree.isFileAt cwd file then
    match endings.lookup (endingOf (file.fileName?.getD "")) with
    | some format => .ok (file, format)
    | none => .error (.unknownFormat file.text)
  else
    let candidates := endings.filterMap fun (ending, format) =>
      file.fileName?.map fun last => (file.withFileName (last ++ "." ++ ending), format)
    match candidates.find? fun candidate => tree.isFileAt cwd candidate.1 with
    | some found => .ok found
    | none => .error (.notFound name.text)

/-- The settings that a text makes in a format, as keys and values. -/
def readText? (foreign : ForeignReader) (origin : Option String) (text : String) :
    Format → Option Entries
  -- What is wrong with the text does not matter, and only tables hold settings.
  | .toml => (Toml.ofText? text).map fun j => (Value.ofJson origin j).entries
  | .json => (Json.ofText text).toOption.map fun j => (Value.ofJson origin j).entries
  | .foreign format => foreign format origin text

/-- The settings that a file makes, as keys and values. -/
def layer (foreign : ForeignReader) (cwd : Path) (tree : FileTree) (name : Path) :
    Except Fault Entries :=
  -- Values come from the file as seen from the working directory.
  match locate cwd tree name with
  | .error fault => .error fault
  | .ok (file, format) =>
    match tree.textAt cwd file with
    | .error fault => .error (.unreadable fault.message)
    | .ok text =>
      match readText? foreign (some (Path.relativeTo cwd file).text) text format with
      | some entries => .ok entries
      | none => .error .malformed

end TemplateFacts.Settings.File

namespace TemplateFacts.Settings

/-- The settings that are built in, as keys and values. -/
def builtIn : Entries :=
  -- They come from nowhere.
  let text (s : String) : Value := .scalar (.text s) none
  [("compiler", .table [("path", text "bicep"), ("args", .list [] none),
      ("connect_timeout_secs", .scalar (.int 10) none)] none),
    ("generate", .table [("component_id_from", text "resource"),
      ("continue_on_error", .scalar (.bool false) none)] none)]

/-- Puts a layer over a table. -/
def putLayer (table : Value) (layer : Entries) : Value :=
  -- The first level of a layer names keys that may lead deeper.
  layer.foldl (fun table entry => setAt (Key.ofText entry.1) entry.2 table) table

/-- The table that layers make, the lowest one first. -/
def stack (layers : List Entries) : Value := layers.foldl putLayer .bare

/-- What settings are loaded from. -/
structure Sources where
  /-- The file of settings, if one is named. -/
  file : Option Path
  environment : List (String × String)
  overrides : Overrides
  /-- How the file is read if its format is neither TOML nor JSON. -/
  foreign : File.ForeignReader := File.readNothing

/-- Loads settings, seen from a working directory. -/
def load (cwd : Path) (tree : FileTree) (sources : Sources) : Except Error Settings := do
  -- Overrides are applied before the settings are checked.
  let fileLayer ← match sources.file with
    | some name => (File.layer sources.foreign cwd tree name).mapError .config
    | none => .ok []
  let table := stack [builtIn, fileLayer, Environment.layer sources.environment]
  let settings ← (ofValue table).mapError .config
  (settings.overriddenBy sources.overrides).checked

end TemplateFacts.Settings
