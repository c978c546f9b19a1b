import TemplateFacts.Proofs.Facts.Resources

/-!
Which modules a template deploys: the name of every module node is either that of a module or left out,
and the module is formed from the first node of its name and from the last resource that deploys a
template under it.
-/

namespace TemplateFacts

/-- The node stands for a module of the name. -/
def NamesModule (name : String) (node : GraphNode) : Prop :=
  node.nodeType = "<module>" ∧ node.name = name

/-- The first node that stands for a module of the name. -/
def IsFirst (nodes : List GraphNode) (name : String) (node : GraphNode) : Prop :=
  ∃ before after, nodes = before ++ node :: after ∧ NamesModule name node ∧
    ∀ other ∈ before, ¬ NamesModule name other

/-- A node that stands for a module of the one name comes before all those of the other. -/
def Precedes (nodes : List GraphNode) (name other : String) : Prop :=
  ∃ before node after, nodes = before ++ node :: after ∧ NamesModule name node ∧
    ∀ first ∈ before, ¬ NamesModule other first

/-- The resource deploys a template under the name. -/
def Deploys (resource : Json) (name : String) : Prop :=
  (∃ type, resource.get? "type" = some (.text type) ∧
    Text.asciiLower type = "microsoft.resources/deployments") ∧
    resource.get? "name" = some (.text name)

/-- The last resource of the template that deploys one under the name, if there is any. -/
def IsLastDeployment (resources : Json) (name : String) : Option Json → Prop
  | some resource => ∃ place, resourceAt resources place = some resource ∧ Deploys resource name ∧
      ∀ later other, place < later → resourceAt resources later = some other → ¬ Deploys other name
  | none => ∀ place other, resourceAt resources place = some other → ¬ Deploys other name

/-- The path of the node, or else the link of the resource. -/
def Leads (node : GraphNode) (deployment : Option Json) (path : String) : Prop :=
  node.relativePath = some path ∨ node.relativePath = none ∧ ∃ resource properties link,
    deployment = some resource ∧ resource.get? "properties" = some properties ∧
      properties.get? "templateLink" = some link ∧ link.get? "uri" = some (.text path)

/-- The value counts as not set. -/
def IsUnset (value : Json) : Prop :=
  value = .null ∨ value = .bool false ∨ value = .int 0 ∨
    (∃ negative exponent, value = .float (.finite negative 0 exponent)) ∨ value = .text ""

/-- The resource has a member that counts as set. -/
def Sets (deployment : Option Json) (name : String) (value : Json) : Prop :=
  (∃ resource, deployment = some resource ∧ resource.get? name = some value) ∧ ¬ IsUnset value

/-- The calls that name a scope, in the order in which they are looked for. -/
def scopeCalls : List (String × Scope) :=
  [("subscription()", .subscription), ("resourcegroup()", .resourceGroup),
    ("managementgroup()", .managementGroup), ("tenant()", .tenant)]

/-- The first of the calls that occurs in the expression is that of the scope. -/
def NamesScope (expression : String) (scope : Scope) : Prop :=
  ∃ before call after, scopeCalls = before ++ (call, scope) :: after ∧
    call.toList <:+: (Text.asciiLower expression).toList ∧
    ∀ other ∈ before, ¬ other.1.toList <:+: (Text.asciiLower expression).toList

/-- The scope that the resource names. -/
def ScopeNamed (deployment : Option Json) (scope : Scope) : Prop :=
  ∃ resource expression, deployment = some resource ∧
    resource.get? "scope" = some (.text expression) ∧ NamesScope expression scope

/-- The module is deployed as the resource says. -/
structure DeployedAs (deployment : Option Json) (m : Module) : Prop where
  forEach : ∀ copy, m.condition = .forEach copy ↔ Sets deployment "copy" copy
  conditional : ∀ value, m.condition = .conditional value ↔
    (¬ ∃ copy, Sets deployment "copy" copy) ∧ Sets deployment "condition" value
  always : m.condition = .always ↔
    (¬ ∃ copy, Sets deployment "copy" copy) ∧ ¬ ∃ value, Sets deployment "condition" value
  scope : ∀ scope, m.scope = some scope ↔ ScopeNamed deployment scope ∨
    (¬ ∃ named, ScopeNamed deployment named) ∧
      ((∃ value, Sets deployment "subscriptionId" value) ∧ scope = .subscription ∨
        (¬ ∃ value, Sets deployment "subscriptionId" value) ∧
          (∃ value, Sets deployment "resourceGroup" value) ∧ scope = .resourceGroup)

/-- The modules, the names left out and the remark on them are those of the module nodes. -/
structure Resolves (template : Template) (graph : DeploymentGraph) (resolution : ModuleResolution) :
    Prop where
  /-- Every name of a module node is there, and no other one. -/
  names : ∀ name, name ∈ resolution.modules.map (·.name) ∨ name ∈ resolution.omitted ↔
    ∃ node ∈ graph.nodes, NamesModule name node
  /-- No name is there twice. -/
  once : (resolution.modules.map (·.name) ++ resolution.omitted).Nodup
  increasing : resolution.modules.Pairwise fun a b => Utf8.encode a.name < Utf8.encode b.name
  inOrder : resolution.omitted.Pairwise (Precedes graph.nodes)
  remark : ∀ text, resolution.omissionNote = some text ↔ resolution.omitted ≠ [] ∧
    text = "Omitted " ++ toString resolution.omitted.length ++ " module(s) without resolvable path."
  /-- A module is there exactly if there is a path to it, and is formed from that. -/
  resolved : ∀ name, (∃ node ∈ graph.nodes, NamesModule name node) → ∃ node deployment,
    IsFirst graph.nodes name node ∧ IsLastDeployment template.resources name deployment ∧
      (name ∈ resolution.modules.map (·.name) ↔ ∃ path, Leads node deployment path ∧ path ≠ "") ∧
      ∀ m ∈ resolution.modules, m.name = name →
        Leads node deployment m.path ∧ m.path ≠ "" ∧ DeployedAs deployment m

section Deployments

variable {resource : Json} {name : String} {deployment : Option Json}

/-- The name of a deployment is the one that it deploys a template under. -/
theorem deploymentName_eq_some : deploymentName resource = some name ↔ Deploys resource name := by
  -- The type decides whether it is a deployment at all, and then the name is the member of that name.
  have type : isDeployment resource = true ↔ ∃ type, resource.get? "type" = some (.text type) ∧
      Text.asciiLower type = "microsoft.resources/deployments" := by
    have typed (type : String) : (resource.get? "type").bind Json.asText? = some type ↔
        resource.get? "type" = some (.text type) := by
      simp [Option.bind_eq_some_iff, Json.asText?_eq_some]
    unfold isDeployment deploymentType
    simp only [← typed]
    cases (resource.get? "type").bind Json.asText? <;> simp
  unfold deploymentName Deploys
  rw [← type]
  cases isDeployment resource <;> simp [Option.bind_eq_some_iff, Json.asText?_eq_some]

/-- The deployment found under a name is the last one of that name. -/
theorem isDeployment_deploymentNamed (template : Template) (name : String) :
    IsLastDeployment template.resources name (deploymentNamed template.allResources name) := by
  have placed : Placed (resourceAt template.resources) template.allResources :=
    (placed_resources template.resources).1
  -- It is looked for from the end, so that nothing of the name stands behind it.
  rw [deploymentNamed_eq]
  cases found : template.allResources.reverse.find? fun resource =>
      deploymentName resource == some name with
  | none =>
    intro place other stands deploys
    have unlike := List.find?_eq_none.mp found other (List.mem_reverse.mpr (placed.mem stands))
    exact unlike (beq_iff_eq.mpr (deploymentName_eq_some.mpr deploys))
  | some resource =>
    obtain ⟨named, place, stands, later⟩ := placed.findLast found
    refine ⟨place, stands, deploymentName_eq_some.mp (beq_iff_eq.mp named), ?_⟩
    intro place' other less stands' deploys
    have unlike := later place' other less stands'
    rw [deploymentName_eq_some.mpr deploys] at unlike
    exact absurd (beq_self_eq_true _) (Bool.eq_false_iff.mp unlike)

/-- A value that does not count as set is one of a few. -/
theorem isTruthy_iff {value : Json} : isTruthy (some value) = true ↔ ¬ IsUnset value := by
  -- Only the zeros of a floating number need a look: each other kind is decided by its form.
  cases value with
  | float x =>
    cases x <;> simp [isTruthy, IsUnset, Binary64.isZero]
  | _ => simp [isTruthy, IsUnset]

/-- A member counts as set. -/
theorem sets_iff {member : String} {value : Json} : Sets deployment member value ↔
    (deployment.bind (·.get? member)) = some value ∧ isTruthy (some value) = true := by
  rw [Sets, isTruthy_iff, Option.bind_eq_some_iff]

/-- Some member counts as set. -/
theorem exists_sets {member : String} : (∃ value, Sets deployment member value) ↔
    isTruthy (deployment.bind (·.get? member)) = true := by
  -- A member that is missing sets nothing, and one that is there sets unless it is unset.
  simp only [sets_iff]
  cases deployment.bind (·.get? member) with
  | none => simp [isTruthy]
  | some value => simp

/-- The path of a module is one that is not empty. -/
theorem modulePath_eq_some {node : GraphNode} {path : String} :
    modulePath deployment node = some path ↔ Leads node deployment path ∧ path ≠ "" := by
  have link : deployment.bind templateLink? = some path ↔ ∃ resource properties link,
      deployment = some resource ∧ resource.get? "properties" = some properties ∧
        properties.get? "templateLink" = some link ∧ link.get? "uri" = some (.text path) := by
    simp only [templateLink?, Option.bind_eq_some_iff, Json.asText?_eq_some]
    -- Each step down to the link is one that must be there.
    constructor
    · rintro ⟨resource, isSome, _, ⟨link, ⟨properties, first, second⟩, third⟩, rfl⟩
      exact ⟨resource, properties, link, isSome, first, second, third⟩
    · rintro ⟨resource, properties, link, isSome, first, second, third⟩
      exact ⟨resource, isSome, _, ⟨link, ⟨properties, first, second⟩, third⟩, rfl⟩
  rw [modulePath, Option.filter_eq_some_iff, bne_iff_ne, Leads, ← link]
  cases node.relativePath <;> simp

/-- A text contains what occurs somewhere in it. -/
theorem Text.contains_iff {s piece : String} :
    Text.contains s piece = true ↔ piece.toList <:+: s.toList := by
  -- Either the piece begins here or it occurs in the rest.
  unfold Text.contains
  generalize piece.toList = part
  induction s.toList with
  | nil => rw [Text.occursIn, List.isEmpty_iff, List.infix_nil]
  | cons c cs ih =>
    rw [Text.occursIn, Bool.or_eq_true, List.isPrefixOf_iff_prefix, ih, List.infix_cons_iff]

/-- The scope that an expression names is that of the first call found in it. -/
theorem scopeOfExpression_eq_some {expression : String} {scope : Scope} :
    scopeOfExpression expression = some scope ↔ NamesScope expression scope := by
  -- The calls are tried one after the other, which is a search among them.
  have first : scopeOfExpression expression =
      (scopeCalls.find? fun call => Text.contains (Text.asciiLower expression) call.1).map Prod.snd := by
    simp only [scopeOfExpression, scopeCalls, List.find?_cons]
    split_ifs <;> simp [*]
  rw [first, Option.map_eq_some_iff]
  simp only [List.find?_eq_some_iff_append, Text.contains_iff, NamesScope, Bool.not_eq_true',
    ← Bool.not_eq_true]
  constructor
  · rintro ⟨⟨call, _⟩, ⟨occurs, before, after, split, others⟩, rfl⟩
    exact ⟨before, call, after, split, occurs, others⟩
  · rintro ⟨before, call, after, split, occurs, others⟩
    exact ⟨(call, scope), ⟨occurs, before, after, split, others⟩, rfl⟩

/-- Repetition comes before a condition, and what counts as not set is passed over. -/
theorem moduleCondition_cases (deployment : Option Json) :
    (∃ copy, Sets deployment "copy" copy ∧ moduleCondition deployment = .forEach copy) ∨
      (¬ ∃ copy, Sets deployment "copy" copy) ∧
        ((∃ value, Sets deployment "condition" value ∧ moduleCondition deployment = .conditional value) ∨
          (¬ ∃ value, Sets deployment "condition" value) ∧ moduleCondition deployment = .always) := by
  -- What is tried first decides, and what follows counts only where it is not set.
  simp only [sets_iff, moduleCondition]
  cases deployment.bind (·.get? "copy") with
  | none =>
    cases deployment.bind (·.get? "condition") with
    | none => simp
    | some value => cases set : isTruthy (some value) <;> simp [set]
  | some copy =>
    cases repeated : isTruthy (some copy) with
    | true => simp [repeated]
    | false =>
      cases deployment.bind (·.get? "condition") with
      | none => simp [repeated]
      | some value => cases set : isTruthy (some value) <;> simp [repeated, set]

/-- The value that a member sets is the only one. -/
theorem sets_unique {member : String} {value other : Json} (first : Sets deployment member value)
    (second : Sets deployment member other) : value = other :=
  Option.some.inj ((sets_iff.mp first).1.symm.trans (sets_iff.mp second).1)

/-- The scope of a deployment is the one it names, or else what it sets tells it. -/
theorem moduleScope_eq_some {scope : Scope} : moduleScope deployment = some scope ↔
    ScopeNamed deployment scope ∨ (¬ ∃ named, ScopeNamed deployment named) ∧
      ((∃ value, Sets deployment "subscriptionId" value) ∧ scope = .subscription ∨
        (¬ ∃ value, Sets deployment "subscriptionId" value) ∧
          (∃ value, Sets deployment "resourceGroup" value) ∧ scope = .resourceGroup) := by
  have named (scope : Scope) : ScopeNamed deployment scope ↔
      (deployment.bind fun resource =>
        ((resource.get? "scope").bind Json.asText?).bind scopeOfExpression) = some scope := by
    simp only [ScopeNamed, Option.bind_eq_some_iff, Json.asText?_eq_some, scopeOfExpression_eq_some]
    constructor
    · rintro ⟨resource, expression, isSome, given, names⟩
      exact ⟨resource, isSome, expression, ⟨_, given, rfl⟩, names⟩
    · rintro ⟨resource, isSome, expression, ⟨_, given, rfl⟩, names⟩
      exact ⟨resource, expression, isSome, given, names⟩
  simp only [named, exists_sets]
  -- The scope that is named comes first, and what is set counts without one only.
  cases deployment with
  | none => simp [moduleScope, isTruthy]
  | some resource =>
    simp only [moduleScope, Option.bind_some]
    cases ((resource.get? "scope").bind Json.asText?).bind scopeOfExpression with
    | some other => simp
    | none =>
      cases isTruthy (resource.get? "subscriptionId") <;>
        cases isTruthy (resource.get? "resourceGroup") <;> simp [eq_comm]

/-- A module is formed from the deployment of its name. -/
theorem deployedAs_moduleOf {resources : List Json} {node : GraphNode} {m : Module}
    (formed : moduleOf resources node = some m) :
    m.name = node.name ∧
      (Leads node (deploymentNamed resources node.name) m.path ∧ m.path ≠ "") ∧
      DeployedAs (deploymentNamed resources node.name) m := by
  obtain ⟨path, leads, rfl⟩ := Option.map_eq_some_iff.mp formed
  refine ⟨rfl, modulePath_eq_some.mp leads, ?_⟩
  generalize deploymentNamed resources node.name = deployment
  have scope (s : Scope) : moduleScope deployment = some s ↔ _ := moduleScope_eq_some
  -- Repetition, condition and neither exclude each other.
  rcases moduleCondition_cases deployment with ⟨copy, sets, same⟩ |
    ⟨none, ⟨value, sets, same⟩ | ⟨unset, same⟩⟩
  · have some : ∃ copy, Sets deployment "copy" copy := ⟨copy, sets⟩
    refine ⟨fun other => ?_, by simp [same, some], by simp [same, some], scope⟩
    simp only [same, ModuleCondition.forEach.injEq]
    exact ⟨fun equal => equal ▸ sets, sets_unique sets⟩
  · have some : ∃ value, Sets deployment "condition" value := ⟨value, sets⟩
    refine ⟨fun other => ?_, fun other => ?_, by simp [same, some], scope⟩
    · simpa [same] using not_exists.mp none other
    · simp only [same, ModuleCondition.conditional.injEq, none, not_false_eq_true, true_and]
      exact ⟨fun equal => equal ▸ sets, sets_unique sets⟩
  · refine ⟨fun other => ?_, fun other => ?_, by simp [same, none, unset], scope⟩
    · simpa [same] using not_exists.mp none other
    · simpa [same, none] using not_exists.mp unset other

end Deployments

section Nodes

variable {node : GraphNode} {nodes : List GraphNode} {seen : List String} {name other : String}

/-- A node is one of a module if its type is that of module nodes. -/
theorem namesModule_iff : NamesModule name node ↔ node.isModule = true ∧ node.name = name := by
  rw [NamesModule, GraphNode.isModule, beq_iff_eq]
  rfl

/-- A kept node is the first of its name. -/
theorem isFirst_of_mem (member : node ∈ firstModules seen nodes) : IsFirst nodes node.name node := by
  -- By induction on the nodes: those passed over are of other names, or of names that were seen.
  induction nodes generalizing seen with
  | nil => cases member
  | cons first nodes ih =>
    obtain ⟨-, isModule, unseen⟩ := mem_firstModules member
    have later {seen : List String} (member : node ∈ firstModules seen nodes)
        (unlike : ¬ NamesModule node.name first) : IsFirst (first :: nodes) node.name node := by
      obtain ⟨before, after, rfl, names, others⟩ := ih member
      exact ⟨first :: before, after, rfl, names, List.forall_mem_cons.mpr ⟨unlike, others⟩⟩
    rw [firstModules_cons] at member
    split at member
    · rcases List.mem_cons.mp member with rfl | behind
      · exact ⟨[], nodes, rfl, namesModule_iff.mpr ⟨isModule, rfl⟩, fun _ none => by cases none⟩
      · refine later behind fun same => (mem_firstModules behind).2.2 ?_
        exact same.2 ▸ List.mem_cons_self
    · rename_i old
      refine later member fun same => old ⟨(namesModule_iff.mp same).1, ?_⟩
      rwa [same.2]

/-- A node in front of all others changes no order among names that are not its own. -/
theorem Precedes.cons (precedes : Precedes nodes name other) (unlike : ¬ NamesModule other node) :
    Precedes (node :: nodes) name other := by
  -- The new node stands before the first one, and is not the other.
  obtain ⟨before, first, after, rfl, names, others⟩ := precedes
  exact ⟨node :: before, first, after, rfl, names, List.forall_mem_cons.mpr ⟨unlike, others⟩⟩

/-- The first nodes are kept in the order of the graph. -/
theorem firstModules_inOrder (seen : List String) (nodes : List GraphNode) :
    (firstModules seen nodes).Pairwise fun m n => Precedes nodes m.name n.name := by
  -- By induction on the nodes, of which the first one precedes all that are kept behind it.
  induction nodes generalizing seen with
  | nil => exact .nil
  | cons node nodes ih =>
    rw [firstModules_cons]
    split
    · rename_i new
      refine List.pairwise_cons.mpr ⟨fun other _ => ?_, (ih _).imp_of_mem fun _ member precedes => ?_⟩
      · exact ⟨[], node, nodes, rfl, namesModule_iff.mpr ⟨new.1, rfl⟩, fun _ none => by cases none⟩
      · refine precedes.cons fun same => (mem_firstModules member).2.2 ?_
        exact same.2 ▸ List.mem_cons_self
    · rename_i old
      refine (ih _).imp_of_mem fun _ member precedes => precedes.cons fun same => old ?_
      exact ⟨(namesModule_iff.mp same).1, same.2 ▸ (mem_firstModules member).2.2⟩

/-- Every name of a module node is that of a kept one, and no other name is. -/
theorem exists_firstModules_iff : (∃ node ∈ firstModules [] nodes, node.name = name) ↔
    ∃ node ∈ nodes, NamesModule name node := by
  -- A name is kept when it is first met, so every module's name is kept once.
  constructor
  · rintro ⟨node, member, rfl⟩
    obtain ⟨inside, isModule, -⟩ := mem_firstModules member
    exact ⟨node, inside, namesModule_iff.mpr ⟨isModule, rfl⟩⟩
  · rintro ⟨node, inside, names⟩
    obtain ⟨isModule, rfl⟩ := namesModule_iff.mp names
    exact exists_firstModules inside isModule List.not_mem_nil

end Nodes

section Resolutions

variable {resources : List Json} {nodes : List GraphNode} {name : String}

/-- The names of the modules are those of the nodes that one is formed from. -/
theorem mem_modules_iff : name ∈ (nodes.filterMap (moduleOf resources)).map (·.name) ↔
    ∃ node ∈ nodes, node.name = name ∧ (moduleOf resources node).isSome = true := by
  -- A module has its node's name, so the names of modules are those of the nodes that form one.
  simp only [List.mem_map, List.mem_filterMap]
  constructor
  · rintro ⟨m, ⟨node, member, formed⟩, rfl⟩
    exact ⟨node, member, (deployedAs_moduleOf formed).1.symm, by rw [formed]; rfl⟩
  · rintro ⟨node, member, rfl, isSome⟩
    obtain ⟨m, formed⟩ := Option.isSome_iff_exists.mp isSome
    exact ⟨m, ⟨node, member, formed⟩, (deployedAs_moduleOf formed).1⟩

/-- The names left out are those of the nodes that none is formed from. -/
theorem mem_omitted_iff :
    name ∈ (nodes.filter fun node => (moduleOf resources node).isNone).map (·.name) ↔
      ∃ node ∈ nodes, node.name = name ∧ ¬ (moduleOf resources node).isSome = true := by
  -- The omitted nodes are those that form none.
  simp only [List.mem_map, List.mem_filter, ← Option.not_isSome, Bool.not_eq_true', Bool.not_eq_true]
  constructor
  · rintro ⟨node, ⟨member, none⟩, rfl⟩
    exact ⟨node, member, rfl, none⟩
  · rintro ⟨node, member, rfl, none⟩
    exact ⟨node, ⟨member, none⟩, rfl⟩

/-- Of nodes with distinct names each one forms a module or is left out, and not both. -/
theorem nodup_resolution (distinct : (nodes.map (·.name)).Nodup) :
    ((nodes.filterMap (moduleOf resources)).map (·.name) ++
      (nodes.filter fun node => (moduleOf resources node).isNone).map (·.name)).Nodup := by
  -- No name is in both parts, as the node of a name forms a module or does not.
  refine List.nodup_append.mpr ⟨?_, distinct.sublist (List.filter_sublist.map _), ?_⟩
  · refine List.pairwise_map.mpr (List.pairwise_filterMap.mpr ((List.pairwise_map.mp distinct).imp ?_))
    intro m n unlike first formed second formed' same
    rw [(deployedAs_moduleOf formed).1, (deployedAs_moduleOf formed').1] at same
    exact unlike same
  · rintro name inModules _ inOmitted rfl
    obtain ⟨node, member, named, isSome⟩ := mem_modules_iff.mp inModules
    obtain ⟨other, member', named', none⟩ := mem_omitted_iff.mp inOmitted
    obtain rfl := List.inj_on_of_nodup_map distinct member member' (named.trans named'.symm)
    exact none isSome

/-- The remark is there when something is left out, and tells how much. -/
theorem omissionNote_eq_some {resolution : ModuleResolution} {text : String} :
    resolution.omissionNote = some text ↔ resolution.omitted ≠ [] ∧
      text = "Omitted " ++ toString resolution.omitted.length ++
        " module(s) without resolvable path." := by
  -- There is a note when something was omitted, and it tells the count.
  have itself (s : String) : toString s = s := rfl
  unfold ModuleResolution.omissionNote
  cases resolution.omitted with
  | nil => simp
  | cons first others => simp [itself, eq_comm]

/-- The modules of a template are those of the module nodes of the graph: each name is that of one module
or is left out, and each module is formed from the first node of its name and the last deployment of it. -/
theorem modules_are_resolved (template : Template) (graph : DeploymentGraph) :
    Resolves template graph (resolveModules template graph) := by
  have distinct := distinct_firstModules [] graph.nodes
  have perm := (List.mergeSort_perm ((firstModules [] graph.nodes).filterMap
    (moduleOf template.allResources)) fun a b => decide (a.name ≤ b.name)).map (·.name)
  have inModules (name : String) :
      name ∈ (resolveModules template graph).modules.map (·.name) ↔ ∃ node ∈ firstModules [] graph.nodes,
        node.name = name ∧ (moduleOf template.allResources node).isSome = true :=
    perm.mem_iff.trans mem_modules_iff
  have inOmitted (name : String) :
      name ∈ (resolveModules template graph).omitted ↔ ∃ node ∈ firstModules [] graph.nodes,
        node.name = name ∧ ¬ (moduleOf template.allResources node).isSome = true := mem_omitted_iff
  refine {
    names := fun name => ?_
    once := ?_
    increasing := ?_
    inOrder := ?_
    remark := fun text => omissionNote_eq_some
    resolved := fun name named => ?_ }
  · rw [inModules, inOmitted, ← exists_firstModules_iff]
    constructor
    · rintro (⟨node, member, named, -⟩ | ⟨node, member, named, -⟩)
      · exact ⟨node, member, named⟩
      · exact ⟨node, member, named⟩
    · rintro ⟨node, member, named⟩
      by_cases isSome : (moduleOf template.allResources node).isSome = true
      · exact .inl ⟨node, member, named, isSome⟩
      · exact .inr ⟨node, member, named, isSome⟩
  · exact (perm.append_right _).nodup_iff.mpr (nodup_resolution distinct)
  · exact increasing_mergeSort (List.nodup_append.mp (nodup_resolution distinct)).1
  · exact List.pairwise_map.mpr ((firstModules_inOrder [] graph.nodes).filter _)
  · obtain ⟨node, member, rfl⟩ := exists_firstModules_iff.mpr named
    have isSome : (∃ path, Leads node (deploymentNamed template.allResources node.name) path ∧
        path ≠ "") ↔ (moduleOf template.allResources node).isSome = true := by
      simp only [moduleOf, Option.isSome_map, Option.isSome_iff_exists, modulePath_eq_some]
    -- A node that is kept is the only one of its name.
    have only {other : GraphNode} (member' : other ∈ firstModules [] graph.nodes)
        (same : other.name = node.name) : other = node :=
      List.inj_on_of_nodup_map distinct member' member same
    refine ⟨node, deploymentNamed template.allResources node.name, isFirst_of_mem member,
      isDeployment_deploymentNamed template node.name, ?_, fun m inside same => ?_⟩
    · rw [inModules, isSome]
      constructor
      · rintro ⟨other, member', same, formed⟩
        exact only member' same ▸ formed
      · exact fun formed => ⟨node, member, rfl, formed⟩
    · obtain ⟨other, member', formed⟩ := List.mem_filterMap.mp (List.mem_mergeSort.mp inside)
      obtain ⟨named', leads, deployed⟩ := deployedAs_moduleOf formed
      obtain rfl := only member' (named'.symm.trans same)
      exact ⟨leads.1, leads.2, deployed⟩

end Resolutions

end TemplateFacts
