import TemplateFacts.FileTree.Basic
import TemplateFacts.Host.Basic
import TemplateFacts.Text.Digits

/-! Surroundings that a document describes. -/

namespace TemplateFacts

namespace Json

/-- The text of a member, if there is one. -/
def textAt? (j : Json) (name : String) : Option String := (j.get? name).bind asText?

/-- The items of a member, or none. -/
def itemsAt (j : Json) (name : String) : List Json := ((j.get? name).bind asList?).getD []

/-- The texts among the items of a member. -/
def textsAt (j : Json) (name : String) : List String := (j.itemsAt name).filterMap asText?

/-- The natural number of a member, or a default. -/
def natAt (j : Json) (name : String) (default : Nat) : Nat :=
  (((j.get? name).bind asInt?).map Int.toNat).getD default

/-- The flag of a member, or a default. -/
def flagAt (j : Json) (name : String) (default : Bool) : Bool :=
  ((j.get? name).bind asBool?).getD default

end Json

namespace FileTree

/-- The bytes that pairs of hexadecimal digits write. -/
def bytesOfHex : List Char → List UInt8
  -- What is no pair of digits counts as zero.
  | a :: b :: rest => ((Text.hexByte? a b).getD 0) :: bytesOfHex rest
  | _ => []

/-- The bytes of a member that is a text, or digits under another name. -/
def describedBytes (j : Json) (name : String) : List UInt8 :=
  match j.textAt? "hex" with
  | some hex => bytesOfHex hex.toList
  | none => Utf8.encode ((j.textAt? name).getD "")

/-- The part of a tree that an entry describes. -/
def ofEntry (now : Timestamp.Instant) (entry : Json) : FileTree :=
  -- An entry is a directory, a link or a file.
  let modified : Timestamp.Instant := match entry.itemsAt "mtime" with
    | [s, n] => ⟨(s.asInt?).getD 0, ((n.asInt?).getD 0).toNat⟩
    | _ => now
  if entry.flagAt "dir" false then .empty
  else match entry.textAt? "link" with
    | some target => .link target
    | none => .file (describedBytes entry "text") modified

/-- Adds the entries that are described to a directory of a tree. -/
def plant (now : Timestamp.Instant) (directory : List String) (entries : List Json)
    (tree : FileTree) : FileTree :=
  -- A directory that is there already keeps what it holds.
  entries.foldl (fun tree entry =>
    let names := directory ++ (segments ((entry.textAt? "path").getD "")).filter (· != ".")
    match ofEntry now entry, tree.at? names with
    | .directory [], some (.directory _) => tree
    | part, _ => put part names tree) tree

end FileTree

namespace Compiler

/-- The action that a rule describes. -/
def Action.ofJson (j : Json) : Action :=
  -- A reply has the members that the rule gives.
  if j.flagAt "hangup" false then .hangUp
  else match j.textAt? "raw" with
    | some text => .raw (Utf8.encode text)
    | none =>
      let member (name : String) : List (String × Json) := match j.get? name with
        | some value => [(name, value)]
        | none => []
      .reply (j.get? "id") (member "result" ++ member "error")

/-- The rule that a document describes. -/
def Rule.ofJson (j : Json) : Rule :=
  ⟨j.textAt? "method", j.textAt? "path_suffix", j.itemsAt "before", Action.ofJson j⟩

/-- The probe that a document describes. -/
def Probe.ofJson (j : Json) : Probe :=
  -- Its text is the usual one unless another one is given.
  ⟨(j.textAt? "stdout").getD Script.usualProbe.stdout, (j.textAt? "stderr").getD "",
    ((j.get? "exit").bind Json.asInt?).getD 0⟩

/-- The script that a document describes. -/
def Script.ofJson (j : Json) : Script where
  args := j.textsAt "args"
  probe := ((j.get? "probe").map Probe.ofJson).getD Script.usualProbe
  stderr := (j.textAt? "stderr").getD ""
  connects := j.flagAt "connect" true
  batch := j.natAt "batch" 1
  rules := (j.itemsAt "rules").map Rule.ofJson

end Compiler

namespace Host

/-- The variables that a document describes. -/
def variablesOf (j : Json) : List (String × String) :=
  ((j.asObject?).getD []).filterMap fun (name, value) => value.asText?.map (name, ·)

/-- The path of the compiler when none is described. -/
def usualCompiler : String := "/opt/bicep"

/-- The surroundings that a document describes. -/
def ofJson (j : Json) : Host :=
  -- The working directory and the file of the compiler are always there.
  let cwd := (j.textAt? "cwd").getD "/"
  let now : Timestamp.Instant := ⟨j.natAt "now" 0, 0⟩
  let compilerFile := FileTree.segments ((j.textAt? "compiler_path").getD usualCompiler)
  let bare := FileTree.plant now [] [.object [("path", .text cwd), ("dir", .bool true)]] .empty
  { disk := .willing ⟨⟨cwd⟩, now⟩ (j.natAt "process" 1)
    tree := FileTree.put (.file [] now) compilerFile
      (FileTree.plant now [] (j.itemsAt "tree") bare)
    environment := variablesOf ((j.get? "env").getD .null)
    compilerFile
    script := Compiler.Script.ofJson ((j.get? "compiler").getD .null) }

end Host

end TemplateFacts
