import TemplateFacts.Compiler.Question
import TemplateFacts.Proofs.Json.Record

/-!
The answers of the compiler: a document that tells a record is read as exactly this record, in
whatever order its members come, whatever other members come among them, and whether or not what is
missing is written out.
-/

namespace TemplateFacts

open Json (Once Kept Shape Absence settle)

section Told

/-- The members give something for a name, once or not at all. -/
def Gives (ms : List (String × Json)) (name : String) (tells : Option Json → Prop) : Prop :=
  ∃ given, Once ms name given ∧ tells given

/-- A text is told, or it is empty. -/
def TellsText (s : String) : Option Json → Prop
  | some j => j = .text s
  | none => s = ""

/-- A text is told, or null, or nothing if there is no text. -/
def TellsText? (s : Option String) : Option Json → Prop
  | some j => j = .ofText? s
  | none => s = none

/-- A truth value is told, or it is false. -/
def TellsFlag (b : Bool) : Option Json → Prop
  | some j => j = .bool b
  | none => b = false

/-- A list is told item by item, or it is empty. -/
def TellsList {α : Type} (tells : α → Json → Prop) (xs : List α) : Option Json → Prop
  | some j => ∃ js, j = .list js ∧ List.Forall₂ tells xs js
  | none => xs = []

/-- The document tells the diagnostic. -/
def Diagnostic.Told (d : Diagnostic) (j : Json) : Prop :=
  ∃ ms, j = .object ms ∧ Gives ms "code" (TellsText d.code) ∧
    Gives ms "message" (TellsText d.message)

/-- The document tells the outcome of a compilation. -/
def CompileResult.Told (result : CompileResult) (j : Json) : Prop :=
  ∃ ms, j = .object ms ∧ Gives ms "success" (TellsFlag result.success) ∧
    Gives ms "contents" (TellsText? result.contents) ∧
    Gives ms "diagnostics" (TellsList Diagnostic.Told result.diagnostics)

/-- The document tells what is said about a declaration. -/
def SymbolMetadata.Told (symbol : SymbolMetadata) (j : Json) : Prop :=
  ∃ ms, j = .object ms ∧ Once ms "name" (some (.text symbol.name)) ∧
    Gives ms "description" (TellsText? symbol.description)

/-- The document tells what is said about the declarations of a source. -/
def Metadata.Told (metadata : Metadata) (j : Json) : Prop :=
  ∃ ms, j = .object ms ∧
    Gives ms "parameters" (TellsList SymbolMetadata.Told metadata.parameters) ∧
    Gives ms "outputs" (TellsList SymbolMetadata.Told metadata.outputs)

/-- The document tells the node. -/
def GraphNode.Told (node : GraphNode) (j : Json) : Prop :=
  ∃ ms, j = .object ms ∧ Once ms "name" (some (.text node.name)) ∧
    Gives ms "type" (TellsText node.nodeType) ∧
    Gives ms "relativePath" (TellsText? node.relativePath)

/-- The document tells the graph. -/
def DeploymentGraph.Told (graph : DeploymentGraph) (j : Json) : Prop :=
  ∃ ms, j = .object ms ∧ Gives ms "nodes" (TellsList GraphNode.Told graph.nodes)

end Told

section Kept

variable {ms : List (String × Json)} {name : String}

/-- A text that must be there is kept. -/
theorem kept_text {s : String} {absence : Absence} (once : Once ms name (some (.text s))) :
    Kept ms (name, absence, .text) (name, .text s) := ⟨rfl, _, once, rfl⟩

/-- A text is kept, and an empty one stands for none. -/
theorem kept_textOr {s : String} (gives : Gives ms name (TellsText s)) :
    Kept ms (name, .replaced (.text ""), .text) (name, .text s) := by
  -- A member that is not there stands for the empty text the reader puts in its place.
  obtain ⟨given, once, tells⟩ := gives
  refine ⟨rfl, given, once, ?_⟩
  cases given with
  | none =>
    obtain rfl : s = "" := tells
    rfl
  | some j =>
    obtain rfl : j = .text s := tells
    rfl

/-- A text that may be missing is kept, or null is. -/
theorem kept_text? {s : Option String} (gives : Gives ms name (TellsText? s)) :
    Kept ms (name, .replaced .null, .optional .text) (name, .ofText? s) := by
  -- A member that is not there, and one that is `null`, both stand for no text.
  obtain ⟨given, once, tells⟩ := gives
  refine ⟨rfl, given, once, ?_⟩
  cases given with
  | none =>
    obtain rfl : s = none := tells
    rfl
  | some j =>
    obtain rfl : j = .ofText? s := tells
    cases s with
    | none => rfl
    | some s => rfl

/-- A truth value is kept, and false stands for none. -/
theorem kept_flag {b : Bool} (gives : Gives ms name (TellsFlag b)) :
    Kept ms (name, .replaced (.bool false), .flag) (name, .bool b) := by
  -- A member that is not there stands for `false`.
  obtain ⟨given, once, tells⟩ := gives
  refine ⟨rfl, given, once, ?_⟩
  cases given with
  | none =>
    obtain rfl : b = false := tells
    rfl
  | some j =>
    obtain rfl : j = .bool b := tells
    rfl

/-- The items of a list fit one by one. -/
theorem fitItems_told {α : Type} {tells : α → Json → Prop} {toJson : α → Json}
    {check : Json → Except Json.Cause Json} {xs : List α} {js : List Json}
    (told : List.Forall₂ tells xs js)
    (fit : ∀ x j, tells x j → check (settle j) = .ok (toJson x)) :
    Json.fitItems check (js.map settle) = .ok (xs.map toJson) := by
  -- The items are checked in their order, each as its record tells.
  induction told with
  | nil => rfl
  | cons first later ih =>
    simp only [List.map_cons, Json.fitItems, fit _ _ first, ih, Except.bind, bind]
    rfl

/-- A list is kept item by item, and an empty one stands for none. -/
theorem kept_list {α : Type} {tells : α → Json → Prop} {toJson : α → Json} {shape : Shape}
    {xs : List α} (gives : Gives ms name (TellsList tells xs))
    (fit : ∀ x j, tells x j → shape.fit (settle j) = .ok (toJson x)) :
    Kept ms (name, .replaced (.list []), .list shape) (name, .list (xs.map toJson)) := by
  -- A member that is not there stands for the empty list.
  obtain ⟨given, once, tells⟩ := gives
  refine ⟨rfl, given, once, ?_⟩
  cases given with
  | none =>
    obtain rfl : xs = [] := tells
    rfl
  | some j =>
    obtain ⟨js, rfl, told⟩ := tells
    simp only [settle, Json.settleItems_eq, Shape.fit, fitItems_told told fit, Except.map]

end Kept

section Fit

variable {j : Json}

/-- A told diagnostic is kept as it is. -/
theorem Diagnostic.fit_told {d : Diagnostic} (told : d.Told j) :
    Diagnostic.shape.fit (settle j) = .ok d.toJson := by
  -- Both members are texts that may be left out.
  obtain ⟨ms, rfl, code, message⟩ := told
  exact Json.fit_record _ (by decide) (.cons (kept_textOr code) (.cons (kept_textOr message) .nil))

/-- A told outcome of a compilation is kept as it is. -/
theorem CompileResult.fit_told {result : CompileResult} (told : result.Told j) :
    CompileResult.shape.fit (settle j) = .ok result.toJson := by
  -- Each of the three members is kept, so the record is the members in the shape's order.
  obtain ⟨ms, rfl, success, contents, diagnostics⟩ := told
  have items := kept_list diagnostics fun _ _ told => Diagnostic.fit_told told
  exact Json.fit_record _ (by decide)
    (.cons (kept_flag success) (.cons (kept_text? contents) (.cons items .nil)))

/-- What is told about a declaration is kept as it is. -/
theorem SymbolMetadata.fit_told {symbol : SymbolMetadata} (told : symbol.Told j) :
    SymbolMetadata.shape.fit (settle j) = .ok symbol.toJson := by
  -- Both members are kept, and the shape lists them in this order.
  obtain ⟨ms, rfl, name, description⟩ := told
  exact Json.fit_record _ (by decide)
    (.cons (kept_text name) (.cons (kept_text? description) .nil))

/-- What is told about the declarations of a source is kept as it is. -/
theorem Metadata.fit_told {metadata : Metadata} (told : metadata.Told j) :
    Metadata.shape.fit (settle j) = .ok metadata.toJson := by
  -- The two lists hold symbols, whose items are kept by the lemma above.
  obtain ⟨ms, rfl, parameters, outputs⟩ := told
  have symbols (s : SymbolMetadata) (j : Json) (told : s.Told j) := SymbolMetadata.fit_told told
  exact Json.fit_record _ (by decide)
    (.cons (kept_list parameters symbols) (.cons (kept_list outputs symbols) .nil))

/-- A told node is kept as it is. -/
theorem GraphNode.fit_told {node : GraphNode} (told : node.Told j) :
    GraphNode.shape.fit (settle j) = .ok node.toJson := by
  -- The type may be left out, the name may not.
  obtain ⟨ms, rfl, name, nodeType, relativePath⟩ := told
  exact Json.fit_record _ (by decide)
    (.cons (kept_text name) (.cons (kept_textOr nodeType) (.cons (kept_text? relativePath) .nil)))

/-- A told graph is kept as it is. -/
theorem DeploymentGraph.fit_told {graph : DeploymentGraph} (told : graph.Told j) :
    DeploymentGraph.shape.fit (settle j) = .ok graph.toJson := by
  -- The only member is the list of nodes.
  obtain ⟨ms, rfl, nodes⟩ := told
  have items := kept_list nodes fun _ _ told => GraphNode.fit_told told
  exact Json.fit_record _ (by decide) (.cons items .nil)

end Fit

section Records

/-- A text that may be missing is read back. -/
theorem asText?_ofText? (s : Option String) : (Json.ofText? s).asText? = s := by
  -- `null` is no text, and a text is itself.
  cases s with
  | none => rfl
  | some s => rfl

/-- Items that are read back one by one are read back together. -/
theorem map_ofRecord {α : Type} {toJson : α → Json} {ofRecord : Json → α}
    (inverse : ∀ x, ofRecord (toJson x) = x) (xs : List α) : (xs.map toJson).map ofRecord = xs := by
  -- The two maps are one, which is the identity on every item.
  rw [List.map_map]
  exact (List.map_congr_left fun x _ => inverse x).trans (List.map_id xs)

/-- A written diagnostic is read back. -/
theorem Diagnostic.ofRecord_toJson (d : Diagnostic) : Diagnostic.ofRecord d.toJson = d := rfl

/-- A written outcome of a compilation is read back. -/
theorem CompileResult.ofRecord_toJson (result : CompileResult) :
    CompileResult.ofRecord result.toJson = result := by
  -- The optional text and the list are read back on their own; the flag is there by definition.
  have contents : result.toJson.textOf? "contents" = result.contents := asText?_ofText? _
  have diagnostics : (result.toJson.listOf "diagnostics").map Diagnostic.ofRecord =
      result.diagnostics := map_ofRecord Diagnostic.ofRecord_toJson _
  rw [CompileResult.ofRecord, contents, diagnostics]
  rfl

/-- What is written about a declaration is read back. -/
theorem SymbolMetadata.ofRecord_toJson (symbol : SymbolMetadata) :
    SymbolMetadata.ofRecord symbol.toJson = symbol := by
  -- Only the optional text needs reading back.
  have description : symbol.toJson.textOf? "description" = symbol.description := asText?_ofText? _
  rw [SymbolMetadata.ofRecord, description]
  rfl

/-- What is written about the declarations of a source is read back. -/
theorem Metadata.ofRecord_toJson (metadata : Metadata) :
    Metadata.ofRecord metadata.toJson = metadata := by
  -- Both members are lists of symbols.
  have parameters : (metadata.toJson.listOf "parameters").map SymbolMetadata.ofRecord =
      metadata.parameters := map_ofRecord SymbolMetadata.ofRecord_toJson _
  have outputs : (metadata.toJson.listOf "outputs").map SymbolMetadata.ofRecord =
      metadata.outputs := map_ofRecord SymbolMetadata.ofRecord_toJson _
  rw [Metadata.ofRecord, parameters, outputs]

/-- A written node is read back. -/
theorem GraphNode.ofRecord_toJson (node : GraphNode) : GraphNode.ofRecord node.toJson = node := by
  -- Only the optional path needs reading back.
  have relativePath : node.toJson.textOf? "relativePath" = node.relativePath := asText?_ofText? _
  rw [GraphNode.ofRecord, relativePath]
  rfl

/-- A written graph is read back. -/
theorem DeploymentGraph.ofRecord_toJson (graph : DeploymentGraph) :
    DeploymentGraph.ofRecord graph.toJson = graph := by
  -- The nodes are read back one by one.
  have nodes : (graph.toJson.listOf "nodes").map GraphNode.ofRecord = graph.nodes :=
    map_ofRecord GraphNode.ofRecord_toJson _
  rw [DeploymentGraph.ofRecord, nodes]

end Records

end TemplateFacts
