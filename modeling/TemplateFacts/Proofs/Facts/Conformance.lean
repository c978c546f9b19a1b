import Mathlib.Data.Bool.AllAny
import TemplateFacts.Facts.Assembly
import TemplateFacts.Json.Writer
import TemplateFacts.Proofs.Contract.Bundled
import TemplateFacts.Proofs.Path

/-!
Facts as they are assembled satisfy the bundled contract, unless something is wrong with what they
are assembled from: a name, a version or the generator is empty, the digest or the stamp is none, or
the source has no path or name of its own.
-/

namespace TemplateFacts

namespace Text

/-- No character vanishes in lower case. -/
theorem lower_eq_empty (s : String) : lower s = "" ↔ s = "" := by
  -- Every character becomes at least one, by each of the tables.
  have kept (c : Char) : lowerChar c ≠ [] := by
    unfold lowerChar
    split
    · exact List.cons_ne_nil _ _
    · split
      · exact List.cons_ne_nil _ _
      · split <;> exact List.cons_ne_nil _ _
  rw [lower, ← String.toList_eq_nil_iff, String.toList_ofList, ← String.toList_eq_nil_iff]
  cases s.toList with
  | nil => exact iff_of_true rfl rfl
  | cons c rest =>
    refine iff_of_false (fun none => ?_) (List.cons_ne_nil _ _)
    have first := (List.append_eq_nil_iff.mp none).1
    split at first
    · split at first <;> cases first
    · exact kept c first

end Text

/-- Setting a text brings in no other. -/
theorem mem_putText {s t : String} {texts : List String} (member : t ∈ putText s texts) :
    t = s ∨ t ∈ texts := by
  -- By induction on the texts, as the new one comes before one of them or last.
  induction texts with
  | nil => exact .inl (List.mem_singleton.mp member)
  | cons other rest ih =>
    rw [putText] at member
    split at member
    · exact List.mem_cons.mp member
    · split at member
      · exact .inr member
      · rcases List.mem_cons.mp member with rfl | later
        · exact .inr List.mem_cons_self
        · exact (ih later).imp_right (List.mem_cons_of_mem _)

/-- A resource type is not empty. -/
theorem ne_of_mem_resourceTypes {graph : DeploymentGraph} {type : String}
    (member : type ∈ resourceTypes graph) : type ≠ "" := by
  -- The types are those of the nodes that name one.
  have among (types : List String) (set : type ∈ types.foldr putText []) : type ∈ types := by
    induction types with
    | nil => exact set
    | cons first types ih =>
      rcases mem_putText set with rfl | later
      · exact List.mem_cons_self
      · exact List.mem_cons_of_mem _ (ih later)
  obtain ⟨node, kept, rfl⟩ := List.mem_map.mp (among _ member)
  have given := (List.mem_filter.mp kept).2
  rw [Bool.and_eq_true, bne_iff_ne] at given
  exact given.1

/-- A component has an id exactly when a resource type or a file name gives one. -/
theorem componentId_ne_empty {source : ComponentIdSource} {file : Path} {types : List String}
    (given : ∀ type ∈ types, type ≠ "") :
    componentId source file types ≠ "" ↔
      (source = .resource ∧ types ≠ []) ∨ file.fileName? ≠ none := by
  cases source with
  | file =>
    have stem : componentId .file file types = SourceFile.stem file := by cases types <;> rfl
    rw [stem, ne_eq, SourceFile.stem_eq_empty]
    exact (or_iff_right fun both => by cases both.1).symm
  | resource =>
    cases types with
    | nil =>
      have stem : componentId .resource file [] = SourceFile.stem file := rfl
      rw [stem, ne_eq, SourceFile.stem_eq_empty]
      exact (or_iff_right fun both => both.2 rfl).symm
    | cons first types =>
      have some : first ≠ "" := given first List.mem_cons_self
      -- A segment that is not empty is taken, and else the whole type.
      have chosen (last : String) : Text.lower (if last == "" then first else last) ≠ "" := by
        rw [ne_eq, Text.lower_eq_empty]
        split
        · exact some
        · rename_i filled
          exact fun empty => filled (beq_iff_eq.mpr empty)
      exact iff_of_true (chosen _) (.inl ⟨rfl, List.cons_ne_nil _ _⟩)

/-- A parameter is sensitive or says nothing about it. -/
theorem sensitive_parameterOf (symbols : List SymbolMetadata) (name : String) (definition : Json) :
    (parameterOf symbols name definition).sensitive ≠ some false := by
  -- Sensitive is written only when it is true.
  rw [parameterOf]
  dsimp only
  split <;> simp

/-- A module has a path. -/
theorem path_of_moduleOf {resources : List Json} {node : GraphNode} {m : Module}
    (resolved : moduleOf resources node = some m) : m.path ≠ "" := by
  -- A path that is empty counts as no path, so no module is made of it.
  obtain ⟨path, found, rfl⟩ := Option.map_eq_some_iff.mp resolved
  have some := (Option.filter_eq_some_iff.mp found).2
  exact bne_iff_ne.mp some

/-- The facts that a template gives, with what else is gathered about its source. -/
def factsOf (inputs : FactsInputs) (context : FactsContext) (template : Template) : Facts :=
  let types := resourceTypes inputs.graph
  let resolution := resolveModules template inputs.graph
  { componentId := componentId context.componentIdFrom inputs.file types
    source := {
      path := (Path.relativeTo context.root inputs.file).posixText
      hash := inputs.hash
      compilerVersion := context.compilerVersion }
    scopes := {
      allowed := [scopeOfSchema template.schemaUrl?]
      default := scopeOfSchema template.schemaUrl? }
    parameters := buildParameters template inputs.metadata
    outputs := buildOutputs template inputs.metadata
    modules := if resolution.modules.isEmpty then none else some resolution.modules
    capabilities := classify types
    provenance := {
      generatedAt := inputs.generatedAt
      generator := context.generator
      notes := resolution.omissionNote.map fun note => [note] } }

/-- Facts are built from the template that the compiler gave, if there is one that can be read. -/
theorem buildFacts_eq (inputs : FactsInputs) (context : FactsContext) :
    buildFacts inputs context =
      (ensureCompiled inputs.file inputs.compile >>= Template.parse inputs.file).map
        (factsOf inputs context) := by
  -- The failures come first and pass through; behind them the record is a plain function of the
  -- template.
  rw [buildFacts]
  cases ensureCompiled inputs.file inputs.compile with
  | error e => rfl
  | ok contents =>
    show (Template.parse inputs.file contents >>= _) = (Template.parse inputs.file contents).map _
    cases Template.parse inputs.file contents <;> rfl

/-- What facts are assembled from is sound: it gives them all the texts that they need. -/
structure Sound (inputs : FactsInputs) (context : FactsContext) (facts : Facts) : Prop where
  parameters : ∀ p ∈ facts.parameters, p.name ≠ ""
  outputs : ∀ o ∈ facts.outputs, o.name ≠ ""
  modules : ∀ ms, facts.modules = some ms → ∀ m ∈ ms, m.name ≠ ""
  compilerVersion : context.compilerVersion ≠ ""
  generator : context.generator ≠ ""
  hash : Contract.IsDigest inputs.hash
  generatedAt : Contract.Format.dateTime.holds inputs.generatedAt = true
  /-- The source is not the root itself. -/
  path : (Path.relativeTo context.root inputs.file).posixText ≠ ""
  componentId : facts.componentId ≠ ""

/-- Facts that are assembled conform to the contract exactly when what they are assembled from is sound. -/
theorem conforms_factsOf (inputs : FactsInputs) (context : FactsContext) (template : Template) :
    (factsOf inputs context template).Conforms ↔
      Sound inputs context (factsOf inputs context template) := by
  have path : (factsOf inputs context template).source.path =
      (Path.relativeTo context.root inputs.file).posixText := by rw [factsOf]
  -- What the contract demands besides what is asked here is the assembled part's own.
  constructor
  · intro c
    exact {
      parameters := fun p member => (c.parameters p member).1
      outputs := c.outputs
      modules := fun ms given m member => ((c.modules ms given).2 m member).1
      compilerVersion := c.compilerVersion
      generator := c.generator
      hash := c.hash
      generatedAt := c.generatedAt
      path := path ▸ c.path
      componentId := c.componentId }
  · -- The assembled modules, parameters and features conform by the way they are assembled.
    intro s
    exact {
      componentId := s.componentId
      path := path.symm ▸ s.path
      hash := s.hash
      compilerVersion := s.compilerVersion
      someScope := List.cons_ne_nil _ _
      scopesOnce := List.nodup_singleton _
      parameters := fun p member => ⟨s.parameters p member, by
        obtain ⟨entry, _, rfl⟩ := List.mem_map.mp (List.mem_mergeSort.mp member)
        exact sensitive_parameterOf _ _ _⟩
      outputs := s.outputs
      modules := fun ms given => by
        have names := s.modules ms given
        simp only [factsOf] at given
        split at given
        · cases given
        · rename_i some
          obtain rfl := Option.some.inj given
          refine ⟨fun none => some (by rw [none]; rfl), fun m member => ⟨names m member, ?_⟩⟩
          obtain ⟨node, _, resolved⟩ := List.mem_filterMap.mp (List.mem_mergeSort.mp member)
          exact path_of_moduleOf resolved
      features := fun fs given s member => by
        simp only [factsOf, classify, classifyFrom] at given
        split at given
        · cases given
        · obtain rfl := Option.some.inj given
          exact ne_of_mem_resourceTypes member
      generatedAt := s.generatedAt
      generator := s.generator }

/-- Whatever is built satisfies the bundled contract, up to defects of what it is built from: it does
exactly when that is sound. The source has a path of its own unless it is the root, and the component
has an id when a resource type or a file name gives one. -/
theorem built_conforms_iff {inputs : FactsInputs} {context : FactsContext} {facts : Facts}
    (built : buildFacts inputs context = .ok facts) :
    (Contract.bundled.violations (Json.canonicalize facts.toJson) = [] ↔
      Sound inputs context facts) ∧
    ((Path.relativeTo context.root inputs.file).posixText ≠ "" ↔
      context.root.steps ≠ inputs.file.steps) ∧
    (facts.componentId ≠ "" ↔
      (context.componentIdFrom = .resource ∧ resourceTypes inputs.graph ≠ []) ∨
        inputs.file.fileName? ≠ none) := by
  -- A record that was built is the one of some template; each clause is then about that function.
  obtain ⟨template, rfl⟩ : ∃ template, factsOf inputs context template = facts := by
    rw [buildFacts_eq] at built
    cases read : ensureCompiled inputs.file inputs.compile >>= Template.parse inputs.file with
    | error e =>
      rw [read] at built
      cases built
    | ok template =>
      rw [read] at built
      exact ⟨template, Except.ok.inj built⟩
  refine ⟨?_, not_congr (Path.posixText_relativeTo _ _), ?_⟩
  · rw [Contract.bundled_violations_eq_nil, conforms_factsOf]
  · exact componentId_ne_empty fun _ => ne_of_mem_resourceTypes

/-- Inputs with a template that declares nothing, about a file below the root. -/
def plainInputs : FactsInputs where
  file := ⟨"/work/main.bicep"⟩
  compile := { success := true, diagnostics := [], contents := some "\x7b\x7d" }
  metadata := { parameters := [], outputs := [] }
  graph := { nodes := [] }
  hash := String.ofList (List.replicate 64 'a')
  generatedAt := "2024-05-01T12:00:00Z"

/-- The context of a run below a root. -/
def plainContext : FactsContext where
  root := ⟨"/work"⟩
  compilerVersion := "0.30.23"
  generator := generatorName
  componentIdFrom := .resource

/-- Inputs about a file below the root, with a template that declares a parameter and an output, and a graph
that names a module. -/
def declaringInputs : FactsInputs := { plainInputs with
  compile := { success := true, diagnostics := [], contents := some (Json.compact (.object [
    ("parameters", .object [("key", .object [("type", .text "secureString")])]),
    ("outputs", .object [("place", .object [("type", .text "string")])])])) }
  metadata := { parameters := [⟨"key", some "Opens the store"⟩], outputs := [] }
  graph := { nodes := [⟨"net", moduleNodeType, some "net.bicep"⟩] } }

/-- The template that is read from these inputs. -/
def declaringTemplate : Template :=
  ⟨none, [("key", .object [("type", .text "secureString")])],
    [("place", .object [("type", .text "string")])], .null⟩

/-- The facts about a source with a parameter, an output and a module satisfy the contract. -/
theorem declaring_conforms : ∃ facts, buildFacts declaringInputs plainContext = .ok facts ∧
    facts.parameters.map Parameter.name = ["key"] ∧ facts.outputs.map Output.name = ["place"] ∧
    facts.modules.map (·.map Module.name) = some ["net"] ∧
    Contract.bundled.violations (Json.canonicalize facts.toJson) = [] := by
  let facts := factsOf declaringInputs plainContext declaringTemplate
  -- The text of the template is evaluated once, and the names are read off what it says.
  have read : (ensureCompiled declaringInputs.file declaringInputs.compile >>=
      Template.parse declaringInputs.file) = .ok declaringTemplate := by decide +kernel
  have built : buildFacts declaringInputs plainContext = .ok facts := by
    rw [buildFacts_eq, read]
    rfl
  have parameters : facts.parameters.map Parameter.name = ["key"] := by
    simp [facts, factsOf, buildParameters, declaringTemplate, parameterOf]
  have outputs : facts.outputs.map Output.name = ["place"] := by
    simp [facts, factsOf, buildOutputs, declaringTemplate, outputOf]
  have modules : facts.modules.map (·.map Module.name) = some ["net"] := by decide +kernel
  refine ⟨facts, built, parameters, outputs, modules, (built_conforms_iff built).1.mpr ?_⟩
  exact {
    parameters := fun p member empty => by
      have among := List.mem_map_of_mem (f := Parameter.name) member
      simp [parameters, empty] at among
    outputs := fun o member empty => by
      have among := List.mem_map_of_mem (f := Output.name) member
      simp [outputs, empty] at among
    modules := fun ms given m member empty => by
      have among := List.mem_map_of_mem (f := Module.name) member
      rw [given, Option.map_some, Option.some.injEq] at modules
      simp [modules, empty] at among
    compilerVersion := by decide
    generator := by decide
    hash := ⟨rfl, List.all_iff_forall_prop.mp (by decide)⟩
    generatedAt := by decide
    path := by decide
    componentId := by decide }

end TemplateFacts
