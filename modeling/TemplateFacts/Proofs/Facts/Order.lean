import Mathlib.Data.List.Pairwise
import TemplateFacts.Proofs.Facts.Conformance
import TemplateFacts.Proofs.Facts.ReorderedTemplate

/-!
The order in which the compiler lists things does not show in the facts: what is gathered from a list
is sorted, or found under a name that means one thing only.
-/

namespace TemplateFacts

section Sorting

/-- Entries are sorted by their names. -/
theorem sorted_mergeSort {α : Type} (name : α → String) (xs : List α) :
    (xs.mergeSort fun a b => decide (name a ≤ name b)).Pairwise fun a b => name a ≤ name b := by
  -- The order of names is total and transitive, which is all that sorting needs.
  refine (List.pairwise_mergeSort (fun a b c first later => ?_) (fun a b => ?_) xs).imp of_decide_eq_true
  · exact decide_eq_true (le_trans (of_decide_eq_true first) (of_decide_eq_true later))
  · rw [Bool.or_eq_true, decide_eq_true_iff, decide_eq_true_iff]
    exact le_total _ _

/-- Entries of distinct names are sorted so that the names increase, byte by byte. -/
theorem increasing_mergeSort {α : Type} {name : α → String} {xs : List α}
    (distinct : (xs.map name).Nodup) :
    (xs.mergeSort fun a b => decide (name a ≤ name b)).Pairwise fun a b =>
      Utf8.encode (name a) < Utf8.encode (name b) := by
  -- Sorted by name and with no name twice, each name is below the next.
  have apart : (xs.mergeSort fun a b => decide (name a ≤ name b)).Pairwise fun a b => name a ≠ name b :=
    List.pairwise_map.mp (((List.mergeSort_perm xs _).map name).nodup_iff.mpr distinct)
  exact (sorted_mergeSort name xs).imp₂
    (fun a b least differ => Utf8.encode_lt (lt_of_le_of_ne least differ)) apart

/-- Two lists of the same entries are sorted alike by their names if the names are distinct. -/
theorem mergeSort_perm_eq {α : Type} {name : α → String} {xs ys : List α} (perm : xs.Perm ys)
    (distinct : (xs.map name).Nodup) :
    xs.mergeSort (fun a b => decide (name a ≤ name b)) =
      ys.mergeSort fun a b => decide (name a ≤ name b) := by
  refine List.Perm.eq_of_pairwise (fun a b inXs inYs less greater => ?_) (sorted_mergeSort name xs)
    (sorted_mergeSort name ys) ((List.mergeSort_perm xs _).trans (perm.trans (List.mergeSort_perm ys _).symm))
  -- Entries of one name are one entry.
  have member : a ∈ xs := List.mem_mergeSort.mp inXs
  have member' : b ∈ xs := perm.mem_iff.mpr (List.mem_mergeSort.mp inYs)
  exact List.inj_on_of_nodup_map distinct member member' (le_antisymm less greater)

/-- A text that is set is there, and so is what was there before. -/
theorem mem_putText_iff {s t : String} {texts : List String} :
    t ∈ putText s texts ↔ t = s ∨ t ∈ texts := by
  refine ⟨mem_putText, fun either => ?_⟩
  -- By induction on the texts, where the new one stops at the first that is not before it.
  induction texts with
  | nil => exact List.mem_singleton.mpr (either.resolve_right fun none => by cases none)
  | cons other rest ih =>
    rw [putText]
    split
    · exact List.mem_cons.mpr either
    · split
      · -- The text is among them already, and stands there once.
        rename_i same
        rcases either with rfl | member
        · exact same ▸ List.mem_cons_self
        · exact member
      · -- It comes behind this one.
        rcases either with rfl | member
        · exact List.mem_cons_of_mem _ (ih (.inl rfl))
        · rcases List.mem_cons.mp member with rfl | later
          · exact List.mem_cons_self
          · exact List.mem_cons_of_mem _ (ih (.inr later))

/-- A text is set without breaking the order of the others. -/
theorem sorted_putText {s : String} {texts : List String} (sorted : texts.Pairwise (· < ·)) :
    (putText s texts).Pairwise (· < ·) := by
  -- By induction on the texts: the new one comes before the first that is greater.
  induction texts with
  | nil => exact List.pairwise_singleton _ _
  | cons other rest ih =>
    obtain ⟨before, later⟩ := List.pairwise_cons.mp sorted
    rw [putText]
    split
    · -- The new text comes before all the others.
      rename_i less
      refine List.pairwise_cons.mpr ⟨fun t member => ?_, sorted⟩
      rcases List.mem_cons.mp member with rfl | inside
      · exact less
      · exact lt_trans less (before t inside)
    · split
      · exact sorted
      · -- It comes behind this one.
        rename_i notLess differs
        have greater : other < s := lt_of_le_of_ne (not_lt.mp notLess) (Ne.symm differs)
        refine List.pairwise_cons.mpr ⟨fun t member => ?_, ih later⟩
        rcases mem_putText member with rfl | inside
        · exact greater
        · exact before t inside

/-- The resource types of a graph do not depend on the order of its nodes. -/
theorem resourceTypes_perm {g h : DeploymentGraph} (perm : g.nodes.Perm h.nodes) :
    resourceTypes g = resourceTypes h := by
  have members (types : List String) (t : String) : t ∈ types.foldr putText [] ↔ t ∈ types := by
    induction types with
    | nil => exact Iff.rfl
    | cons s types ih => rw [List.foldr_cons, mem_putText_iff, ih, List.mem_cons]
  have sorted (types : List String) : (types.foldr putText []).Pairwise (· < ·) := by
    induction types with
    | nil => exact .nil
    | cons s types ih => exact sorted_putText ih
  have nodup {types : List String} (increasing : types.Pairwise (· < ·)) : types.Nodup :=
    increasing.imp ne_of_lt
  -- A sorted list without repetitions is settled by what is in it.
  unfold resourceTypes
  have listed := (perm.filter fun node => node.nodeType != "" && !node.isModule).map (·.nodeType)
  refine List.Perm.eq_of_pairwise (fun s t _ _ less greater => absurd greater (lt_asymm less))
    (sorted _) (sorted _) ?_
  refine (List.perm_ext_iff_of_nodup (nodup (sorted _)) (nodup (sorted _))).mpr fun t => ?_
  rw [members, members, listed.mem_iff]

end Sorting

section Finding

/-- What is found first from the end has nothing like it behind it. -/
theorem find?_reverse_eq_some {α : Type} {p : α → Bool} {xs : List α} {x : α} :
    xs.reverse.find? p = some x ↔
      p x = true ∧ ∃ before after, xs = before ++ x :: after ∧ ∀ y ∈ after, p y = false := by
  -- From behind, what comes first is what has nothing like it after it.
  rw [List.find?_eq_some_iff_append]
  refine and_congr_right fun _ => ⟨?_, ?_⟩
  · rintro ⟨behind, before, split, others⟩
    refine ⟨before.reverse, behind.reverse, ?_, fun y member => ?_⟩
    · rw [← List.reverse_inj, split]
      simp
    · simpa using others y (List.mem_reverse.mp member)
  · rintro ⟨before, after, rfl, others⟩
    refine ⟨after.reverse, before.reverse, by simp, fun y member => ?_⟩
    simpa using others y (List.mem_reverse.mp member)

/-- Among the same entries up to a key, both searches for the same keys find one or none does. -/
theorem rel_find? {α κ : Type} {key : α → κ} {p : α → Bool} {xs ys : List α}
    (perm : (xs.map key).Perm (ys.map key)) (respects : ∀ x y, key x = key y → p x = p y) :
    Option.Rel (fun x y => ∃ z, (x ∈ xs ∧ p x = true) ∧ (z ∈ xs ∧ p z = true) ∧ key z = key y)
      (xs.find? p) (ys.find? p) := by
  -- Whatever is found on one side has its counterpart on the other.
  have across {xs ys : List α} (perm : (xs.map key).Perm (ys.map key)) {y : α} (member : y ∈ ys)
      (found : p y = true) : ∃ x ∈ xs, p x = true ∧ key x = key y := by
    obtain ⟨x, inside, same⟩ := List.mem_map.mp (perm.mem_iff.mpr (List.mem_map_of_mem member))
    exact ⟨x, inside, (respects x y same).trans found, same⟩
  cases first : xs.find? p with
  | none =>
    cases second : ys.find? p with
    | none => exact .none
    | some y =>
      -- What is found on the right would be found on the left.
      obtain ⟨x, inside, found, _⟩ := across perm (List.mem_of_find?_eq_some second)
        (List.find?_some second)
      exact absurd found (List.find?_eq_none.mp first x inside)
  | some x =>
    cases second : ys.find? p with
    | none =>
      obtain ⟨y, inside, found, _⟩ := across perm.symm (List.mem_of_find?_eq_some first)
        (List.find?_some first)
      exact absurd found (List.find?_eq_none.mp second y inside)
    | some y =>
      -- Both find something, and for the right one there is one on the left that is found as well.
      obtain ⟨z, inside, found, same⟩ := across perm (List.mem_of_find?_eq_some second)
        (List.find?_some second)
      exact .some ⟨z, ⟨List.mem_of_find?_eq_some first, List.find?_some first⟩, ⟨inside, found⟩, same⟩

/-- Entries of one name have one description. -/
def DescriptionsAgree (entries : List SymbolMetadata) : Prop :=
  ∀ p ∈ entries, ∀ q ∈ entries, p.name = q.name → p.description = q.description

/-- What the compiler says about a name does not depend on the order of its entries. -/
theorem reportedDescription_perm {entries others : List SymbolMetadata} (perm : entries.Perm others)
    (agree : DescriptionsAgree entries) :
    reportedDescription entries = reportedDescription others := by
  funext name
  -- From either end the first entry under the name is one of the entries under it, and they agree.
  have reversed : (entries.reverse.map id).Perm (others.reverse.map id) :=
    (((List.reverse_perm entries).trans perm).trans (List.reverse_perm others).symm).map id
  have related := rel_find? (p := fun entry => entry.name == name) reversed
    fun x y same => by rw [show x = y from same]
  unfold reportedDescription
  generalize entries.reverse.find? _ = first at related ⊢
  generalize others.reverse.find? _ = second at related ⊢
  cases related with
  | none => rfl
  | @some p q related =>
    obtain ⟨_, ⟨inside, named⟩, ⟨member, named'⟩, rfl⟩ := related
    exact agree p (List.mem_reverse.mp inside) _ (List.mem_reverse.mp member)
      ((beq_iff_eq.mp named).trans (beq_iff_eq.mp named').symm)

/-- The name of a resource that deploys a template, if it has one. -/
def deploymentName (resource : Json) : Option String :=
  if isDeployment resource then (resource.get? "name").bind Json.asText? else none

/-- What deploys a template, and under which name, is said by a resource itself. -/
theorem deploymentName_of_ownOf {r s : Json} (same : ownOf r = ownOf s) :
    deploymentName r = deploymentName s := by
  -- The name is read from two members, which the view keeps.
  unfold deploymentName isDeployment
  rw [get?_of_ownOf same "type" (by decide), get?_of_ownOf same "name" (by decide)]

/-- The last deployment of a name is found by that name. -/
theorem deploymentNamed_eq (resources : List Json) (name : String) :
    deploymentNamed resources name =
      resources.reverse.find? fun resource => deploymentName resource == some name := by
  -- The last deployment of a name is the first one from behind.
  rw [deploymentNamed, ← List.filter_reverse, List.find?_filter]
  congr 1
  funext resource
  unfold deploymentName
  rw [Bool.eq_iff_iff]
  cases isDeployment resource <;> simp

/-- No two deployments have one name. -/
def DistinctDeployments (resources : List Json) : Prop := (resources.filterMap deploymentName).Nodup

/-- Of distinct deployments there is one of a name at most. -/
theorem DistinctDeployments.eq {resources : List Json} (distinct : DistinctDeployments resources)
    {r s : Json} (inside : r ∈ resources) (member : s ∈ resources) {name : String}
    (named : deploymentName r = some name) (named' : deploymentName s = some name) : r = s := by
  -- Two resources of one name would repeat it in the list of names.
  have apart : resources.Pairwise fun r s =>
      ∀ m, deploymentName r = some m → deploymentName s ≠ some m :=
    (List.pairwise_filterMap.mp distinct).imp fun unlike m first second =>
      unlike m first m second rfl
  have symm : Std.Symm fun r s : Json => ∀ m, deploymentName r = some m → deploymentName s ≠ some m :=
    ⟨fun _ _ unlike m first second => unlike m second first⟩
  by_contra differ
  exact apart.forall inside member differ name named named'

/-- Matching resources give matching deployments of each name, if the deployments are distinct. -/
theorem rel_deploymentNamed {resources others : List Json}
    (perm : (resources.map ownOf).Perm (others.map ownOf)) (distinct : DistinctDeployments resources)
    (name : String) :
    Option.Rel (fun r s => ownOf r = ownOf s) (deploymentNamed resources name)
      (deploymentNamed others name) := by
  -- Distinct deployments of one name are the same, from whichever end they are found.
  have reversed : (resources.reverse.map ownOf).Perm (others.reverse.map ownOf) := by
    rw [List.map_reverse, List.map_reverse]
    exact ((List.reverse_perm _).trans perm).trans (List.reverse_perm _).symm
  have related := rel_find? (p := fun resource => deploymentName resource == some name) reversed
    fun r s same => by rw [deploymentName_of_ownOf same]
  rw [deploymentNamed_eq, deploymentNamed_eq]
  generalize resources.reverse.find? _ = first at related ⊢
  generalize others.reverse.find? _ = second at related ⊢
  cases related with
  | none => exact .none
  | some related =>
    obtain ⟨z, ⟨inside, named⟩, ⟨member, named'⟩, same⟩ := related
    rw [distinct.eq (List.mem_reverse.mp inside) (List.mem_reverse.mp member) (beq_iff_eq.mp named)
      (beq_iff_eq.mp named')]
    exact .some same

end Finding

section Modules

/-- Two resources say the same of themselves, or there is none. -/
abbrev SameOwn (r s : Option Json) : Prop := Option.Rel (fun r s => ownOf r = ownOf s) r s

variable {r s : Option Json}

/-- What a resource says of itself settles whatever is drawn from it. -/
theorem SameOwn.get? (same : SameOwn r s) (name : String) (other : name ∉ ["resources", "properties"]) :
    (r.bind fun j => j.get? name) = s.bind fun j => j.get? name := by
  -- Only the two names that the view leaves out could differ.
  cases same with
  | none => rfl
  | some same => exact get?_of_ownOf same name other

theorem SameOwn.scope (same : SameOwn r s) : moduleScope r = moduleScope s := by
  -- The scope is read from three members, and the view keeps each of them.
  cases same with
  | none => rfl
  | some same =>
    simp only [moduleScope, get?_of_ownOf same "scope" (by decide),
      get?_of_ownOf same "subscriptionId" (by decide),
      get?_of_ownOf same "resourceGroup" (by decide)]

theorem SameOwn.condition (same : SameOwn r s) : moduleCondition r = moduleCondition s := by
  -- The condition is read from two members, which the view keeps.
  simp only [moduleCondition, same.get? "copy" (by decide),
    same.get? "condition" (by decide)]

theorem SameOwn.path (same : SameOwn r s) (node : GraphNode) : modulePath r node = modulePath s node := by
  -- The path is read from the node and from the link, which stands in the kept part of the properties.
  have link : r.bind templateLink? = s.bind templateLink? := by
    cases same with
    | none => rfl
    | some same =>
      simp only [Option.bind_some, templateLink?, property_of_ownOf same "templateLink" (by decide)]
  rw [modulePath, modulePath, link]

/-- The module of a name and a path. -/
def moduleAt (resources : List Json) (key : String × Option String) : Option Module :=
  moduleOf resources { name := key.1, nodeType := moduleNodeType, relativePath := key.2 }

/-- The same deployments give the same modules. -/
theorem moduleAt_congr {resources others : List Json}
    (same : ∀ name, SameOwn (deploymentNamed resources name) (deploymentNamed others name)) :
    moduleAt resources = moduleAt others := by
  -- A module is made of the scope, the condition and the path, all three read from the view.
  funext key
  unfold moduleAt moduleOf
  simp only [(same key.1).scope, (same key.1).condition, (same key.1).path]

/-- What settles the module of a node: its name and its path. -/
def keyOf (node : GraphNode) : String × Option String := (node.name, node.relativePath)

section First

variable {seen : List String} {nodes : List GraphNode} {node : GraphNode}

/-- A node is passed over when it is no module or its name was seen. -/
theorem firstModules_cons (seen : List String) (node : GraphNode) (nodes : List GraphNode) :
    firstModules seen (node :: nodes) =
      if node.isModule = true ∧ node.name ∉ seen then node :: firstModules (node.name :: seen) nodes
      else firstModules seen nodes := by
  -- A node counts when it is a module whose name has not been seen.
  rw [firstModules]
  cases node.isModule <;> by_cases member : node.name ∈ seen <;> simp [member]

/-- The first nodes of modules are nodes of modules whose names were not seen. -/
theorem mem_firstModules (member : node ∈ firstModules seen nodes) :
    node ∈ nodes ∧ node.isModule = true ∧ node.name ∉ seen := by
  -- By induction on the nodes, each of which is first under its name or passed over.
  induction nodes generalizing seen with
  | nil => cases member
  | cons first nodes ih =>
    rw [firstModules_cons] at member
    split at member
    · rename_i new
      rcases List.mem_cons.mp member with rfl | later
      · exact ⟨List.mem_cons_self, new⟩
      · obtain ⟨inside, isModule, unseen⟩ := ih later
        exact ⟨List.mem_cons_of_mem _ inside, isModule, fun old => unseen (List.mem_cons_of_mem _ old)⟩
    · obtain ⟨inside, rest⟩ := ih member
      exact ⟨List.mem_cons_of_mem _ inside, rest⟩

/-- Among the first nodes no two have one name. -/
theorem distinct_firstModules (seen : List String) (nodes : List GraphNode) :
    ((firstModules seen nodes).map (·.name)).Nodup := by
  -- A node is kept only when its name was not seen, and its name is seen from then on.
  induction nodes generalizing seen with
  | nil => exact .nil
  | cons node nodes ih =>
    rw [firstModules_cons]
    split
    · refine List.nodup_cons.mpr ⟨fun again => ?_, ih _⟩
      obtain ⟨other, member, named⟩ := List.mem_map.mp again
      exact (mem_firstModules member).2.2 (named ▸ List.mem_cons_self)
    · exact ih seen

/-- A module whose name was not seen is among the first nodes under its name. -/
theorem exists_firstModules (member : node ∈ nodes) (isModule : node.isModule = true)
    (unseen : node.name ∉ seen) : ∃ first ∈ firstModules seen nodes, first.name = node.name := by
  -- By induction on the nodes: the first one under the name is taken, whichever it is.
  induction nodes generalizing seen with
  | nil => cases member
  | cons other nodes ih =>
    rw [firstModules_cons]
    split
    · by_cases same : other.name = node.name
      · exact ⟨other, List.mem_cons_self, same⟩
      · have later := (List.mem_cons.mp member).resolve_left fun equal => same (equal ▸ rfl)
        have unseen : node.name ∉ other.name :: seen := fun old =>
          (List.mem_cons.mp old).elim (fun equal => same equal.symm) unseen
        obtain ⟨first, inside, named⟩ := ih later unseen
        exact ⟨first, List.mem_cons_of_mem _ inside, named⟩
    · rename_i old
      exact ih ((List.mem_cons.mp member).resolve_left fun equal =>
        old (equal ▸ ⟨isModule, unseen⟩)) unseen

end First

/-- Module nodes of one name have one path. -/
def PathsAgree (nodes : List GraphNode) : Prop :=
  ∀ m ∈ nodes, ∀ n ∈ nodes, m.isModule = true → n.isModule = true → m.name = n.name →
    m.relativePath = n.relativePath

/-- The first nodes of modules have the same names and paths in whatever order the nodes are listed. -/
theorem firstModules_perm {nodes others : List GraphNode} (perm : nodes.Perm others)
    (agree : PathsAgree nodes) :
    ((firstModules [] nodes).map keyOf).Perm ((firstModules [] others).map keyOf) := by
  -- Names and paths are not repeated, so that it is enough to have the same ones.
  have nodup (nodes : List GraphNode) : ((firstModules [] nodes).map keyOf).Nodup := by
    refine List.Nodup.of_map Prod.fst ?_
    rw [List.map_map]
    exact distinct_firstModules [] nodes
  -- Modules agree on the path of a name, so that the first one of a name tells it.
  have across {nodes others : List GraphNode} (perm : nodes.Perm others) (agree : PathsAgree nodes)
      {key : String × Option String} (member : key ∈ (firstModules [] nodes).map keyOf) :
      key ∈ (firstModules [] others).map keyOf := by
    obtain ⟨node, first, rfl⟩ := List.mem_map.mp member
    obtain ⟨inside, isModule, _⟩ := mem_firstModules first
    obtain ⟨other, first', named⟩ := exists_firstModules (perm.mem_iff.mp inside) isModule
      (List.not_mem_nil (a := node.name))
    obtain ⟨inside', isModule', _⟩ := mem_firstModules first'
    have path := agree other (perm.mem_iff.mpr inside') node inside isModule' isModule named
    exact List.mem_map.mpr ⟨other, first', by rw [keyOf, keyOf, named, path]⟩
  have agree' : PathsAgree others := fun m inside n inside' =>
    agree m (perm.mem_iff.mpr inside) n (perm.mem_iff.mpr inside')
  exact (List.perm_ext_iff_of_nodup (nodup nodes) (nodup others)).mpr fun key =>
    ⟨across perm agree, across perm.symm agree'⟩

/-- A module has the name of its node. -/
theorem name_of_moduleAt {resources : List Json} {key : String × Option String} {m : Module}
    (resolved : moduleAt resources key = some m) : m.name = key.1 := by
  obtain ⟨path, _, rfl⟩ := Option.map_eq_some_iff.mp resolved
  rfl

/-- The modules of the first nodes have distinct names. -/
theorem distinct_modules (resources : List Json) (nodes : List GraphNode) :
    ((((firstModules [] nodes).map keyOf).filterMap (moduleAt resources)).map (·.name)).Nodup := by
  -- The first nodes have distinct names, and a module has the name of its node.
  have distinct : (firstModules [] nodes).Pairwise fun m n => m.name ≠ n.name :=
    List.pairwise_map.mp (distinct_firstModules [] nodes)
  refine List.pairwise_map.mpr (List.pairwise_filterMap.mpr (List.pairwise_map.mpr ?_))
  refine distinct.imp fun unlike m first n second same => unlike ?_
  rw [name_of_moduleAt first, name_of_moduleAt second] at same
  exact same

/-- The modules, and how many are left out, do not depend on the order of nodes and resources. -/
theorem resolveModules_perm {t u : Template} {g h : DeploymentGraph} (perm : g.nodes.Perm h.nodes)
    (agree : PathsAgree g.nodes)
    (same : ∀ name, SameOwn (deploymentNamed t.allResources name) (deploymentNamed u.allResources name)) :
    (resolveModules t g).modules = (resolveModules u h).modules ∧
      (resolveModules t g).omitted.length = (resolveModules u h).omitted.length := by
  have keys := firstModules_perm perm agree
  -- Modules depend on the names and paths alone.
  have modules (resources : List Json) (nodes : List GraphNode) :
      (firstModules [] nodes).filterMap (moduleOf resources) =
        ((firstModules [] nodes).map keyOf).filterMap (moduleAt resources) := by
    rw [List.filterMap_map]
    rfl
  have omitted (resources : List Json) (nodes : List GraphNode) :
      (((firstModules [] nodes).filter fun node => (moduleOf resources node).isNone).map
        (·.name)).length =
        (((firstModules [] nodes).map keyOf).filter fun key => (moduleAt resources key).isNone).length := by
    rw [List.length_map, List.filter_map, List.length_map]
    rfl
  constructor
  -- The modules are sorted by their names in the end, and what is left out is only counted.
  · simp only [resolveModules, modules, moduleAt_congr same]
    exact mergeSort_perm_eq (keys.filterMap _) (distinct_modules u.allResources g.nodes)
  · simp only [resolveModules, omitted, moduleAt_congr same]
    exact (keys.filter _).length_eq

end Modules

/-- The remark on what is left out tells only how much that is. -/
theorem omissionNote_congr {x y : ModuleResolution} (same : x.omitted.length = y.omitted.length) :
    x.omissionNote = y.omissionNote := by
  -- The note tells how many were omitted and nothing of which.
  have empty : x.omitted.isEmpty = y.omitted.isEmpty := by
    rw [Bool.eq_iff_iff, List.isEmpty_iff_length_eq_zero, List.isEmpty_iff_length_eq_zero, same]
  rw [ModuleResolution.omissionNote, ModuleResolution.omissionNote, same, empty]

/-- The compiled template of one source is that of another: the same text, or a reordered one. -/
def TextReordered (x y : Option String) : Prop :=
  x = y ∨ ∃ s t v w, x = some s ∧ y = some t ∧ WrittenAs s v ∧ WrittenAs t w ∧
    Reordered .template v w

/-- What is gathered about a source twice, with everything that the compiler lists in another order. -/
structure Relisted (a b : FactsInputs) : Prop where
  file : a.file = b.file
  hash : a.hash = b.hash
  generatedAt : a.generatedAt = b.generatedAt
  success : a.compile.success = b.compile.success
  contents : TextReordered a.compile.contents b.compile.contents
  parameters : a.metadata.parameters.Perm b.metadata.parameters
  outputs : a.metadata.outputs.Perm b.metadata.outputs
  nodes : a.graph.nodes.Perm b.graph.nodes

/-- Each name means one thing: a module one path, a declaration one description and a deployment one
resource. -/
structure Unambiguous (inputs : FactsInputs) : Prop where
  modules : PathsAgree inputs.graph.nodes
  parameters : DescriptionsAgree inputs.metadata.parameters
  outputs : DescriptionsAgree inputs.metadata.outputs
  deployments : ∀ contents template, inputs.compile.contents = some contents →
    Template.parse inputs.file contents = .ok template → DistinctDeployments template.allResources

section Facts

variable {a b : FactsInputs} {context : FactsContext}

/-- Matching templates give the same facts. -/
theorem factsOf_relisted (relisted : Relisted a b) (unambiguous : Unambiguous a) {t u : Template}
    (matching : TemplateMatches t u) (distinct : DistinctDeployments t.allResources) :
    factsOf a context t = factsOf b context u := by
  -- Each part of the facts depends on what is listed, and not on the order.
  have types := resourceTypes_perm relisted.nodes
  have resolved := resolveModules_perm relisted.nodes unambiguous.modules
    (rel_deploymentNamed matching.resources distinct)
  have schema : t.schemaUrl? = u.schemaUrl? := by
    rw [Template.schemaUrl?, Template.schemaUrl?, matching.schema]
  have parameters : buildParameters t a.metadata = buildParameters u b.metadata := by
    simp only [buildParameters, parameterOf, describe, matching.parameters,
      reportedDescription_perm relisted.parameters unambiguous.parameters]
  have outputs : buildOutputs t a.metadata = buildOutputs u b.metadata := by
    simp only [buildOutputs, outputOf, describe, matching.outputs,
      reportedDescription_perm relisted.outputs unambiguous.outputs]
  simp only [factsOf, types, schema, parameters, outputs, resolved.1, omissionNote_congr resolved.2,
    relisted.file, relisted.hash, relisted.generatedAt]

/-- A text that is written as a tree is not empty. -/
theorem ne_of_writtenAs {s : String} {w : Json.Written} (text : WrittenAs s w) : s ≠ "" := by
  -- A written value has at least its first byte.
  rintro rfl
  obtain ⟨before, bytes, behind, _, renders, _, encoded⟩ := text
  obtain ⟨first, more, rfl, _⟩ := renders.opens
  have empty : before ++ (first :: more ++ behind) = [] := encoded.symm
  simp at empty

/-- A text that is not empty counts as a template. -/
theorem filter_filled {s : String} (filled : s ≠ "") : (some s).filter (· != "") = some s :=
  Option.filter_some_pos (bne_iff_ne.mpr filled)

/-- Facts are built from the text of a template, if there is one and it can be read. -/
theorem toOption_buildFacts (inputs : FactsInputs) (context : FactsContext) :
    (buildFacts inputs context).toOption =
      (if inputs.compile.success then inputs.compile.contents.filter (· != "") else none).bind
        fun contents => (Template.parse inputs.file contents).toOption.map (factsOf inputs context) := by
  -- Facts need a compiler that succeeds, a text, and a text that is not empty.
  rw [buildFacts_eq, ensureCompiled]
  -- A compiler that fails leaves no facts.
  cases inputs.compile.success with
  | false => rfl
  | true =>
    cases inputs.compile.contents with
    | none => rfl
    | some contents =>
      by_cases empty : contents = ""
      · subst empty
        rfl
      · have filled : (contents == "") = false := beq_eq_false_iff_ne.mpr empty
        simp only [filled, Bool.false_eq_true, if_false, if_true, filter_filled empty,
          Option.bind_some]
        show ((Template.parse inputs.file contents).map _).toOption = _
        cases Template.parse inputs.file contents <;> rfl

/-- A template matches itself. -/
theorem TemplateMatches.refl (t : Template) : TemplateMatches t t := ⟨rfl, rfl, rfl, .refl _⟩

/-- Texts that are read as matching templates give the same facts, and so do texts that are not read. -/
theorem facts_of_parse (relisted : Relisted a b) (unambiguous : Unambiguous a) {s t : String}
    (given : a.compile.contents = some s)
    (related : Option.Rel TemplateMatches (Template.parse a.file s).toOption
      (Template.parse b.file t).toOption) :
    (Template.parse a.file s).toOption.map (factsOf a context) =
      (Template.parse b.file t).toOption.map (factsOf b context) := by
  -- Both texts are read, or none.
  have distinct := unambiguous.deployments s
  generalize Template.parse a.file s = first at related distinct ⊢
  generalize Template.parse b.file t = second at related ⊢
  -- Without a text to read on either side there are no facts.
  cases first with
  | error e =>
    cases second with
    | error e' => rfl
    | ok u => cases related
  | ok t =>
    cases second with
    | error e => cases related
    | ok u =>
      have matching := Option.rel_some_some.mp related
      exact congrArg some (factsOf_relisted relisted unambiguous matching (distinct t given rfl))

/-- Whatever order the compiler lists things in, the same facts are built, or none are. -/
theorem buildFacts_relisted (relisted : Relisted a b) (unambiguous : Unambiguous a) :
    (buildFacts a context).toOption = (buildFacts b context).toOption := by
  rw [toOption_buildFacts, toOption_buildFacts, ← relisted.success]
  cases a.compile.success with
  | false => rfl
  | true =>
    simp only [if_true]
    -- Either the text is the same, or both texts are written as trees.
    rcases relisted.contents with same | ⟨s, t, v, w, given, given', first, second, reordered⟩
    · rw [← same]
      cases given : a.compile.contents.filter (· != "") with
      | none => rfl
      | some s =>
        have held : a.compile.contents = some s := (Option.filter_eq_some_iff.mp given).1
        refine facts_of_parse relisted unambiguous held ?_
        rw [← relisted.file]
        cases (Template.parse a.file s).toOption with
        | none => exact .none
        | some t => exact .some (.refl t)
    · -- Both texts are trees, so that they are read up to the same exchanges.
      rw [given, given', filter_filled (ne_of_writtenAs first), filter_filled (ne_of_writtenAs second)]
      refine facts_of_parse relisted unambiguous given ?_
      rw [← relisted.file]
      exact rel_parse a.file first second reordered

/-- The order in which the compiler lists things does not show: facts are built from one listing exactly
when they are built from the other, and then their canonical texts are the same byte for byte. -/
theorem listing_order_hidden (relisted : Relisted a b) (unambiguous : Unambiguous a) :
    ((∃ facts, buildFacts a context = .ok facts) ↔ ∃ facts, buildFacts b context = .ok facts) ∧
    ∀ facts facts', buildFacts a context = .ok facts → buildFacts b context = .ok facts' →
      Utf8.encode (Json.canonicalText facts.toJson) = Utf8.encode (Json.canonicalText facts'.toJson) := by
  -- Both records are the same, and so are their texts, or neither is built.
  have same : (buildFacts a context).toOption = (buildFacts b context).toOption :=
    buildFacts_relisted relisted unambiguous
  cases first : buildFacts a context with
  | error e =>
    cases second : buildFacts b context with
    | error e' => exact ⟨by simp, fun facts facts' built => by cases built⟩
    | ok facts' => rw [first, second] at same; cases same
  | ok facts =>
    cases second : buildFacts b context with
    | error e => rw [first, second] at same; cases same
    | ok facts' =>
      rw [first, second] at same
      obtain rfl : facts = facts' := Option.some.inj same
      refine ⟨by simp, fun f g built built' => ?_⟩
      obtain rfl := Except.ok.inj built
      obtain rfl := Except.ok.inj built'
      rfl

end Facts

/-- A resource that deploys a template under a name. -/
def deploymentOf (name : String) : Json :=
  .object [("name", .text name), ("type", .text "Microsoft.Resources/deployments")]

/-- A template of two deployments, and what is said about two modules and two parameters. -/
def listedInputs : FactsInputs := { plainInputs with
  compile := { success := true, diagnostics := [], contents := some (Json.compact (.object [
    ("resources", .list [deploymentOf "net", deploymentOf "app"]), ("outputs", .object [])])) }
  metadata := { parameters := [⟨"size", none⟩, ⟨"place", some "Where it runs"⟩], outputs := [] }
  graph := { nodes := [⟨"net", moduleNodeType, some "net.bicep"⟩, ⟨"app", moduleNodeType, none⟩] } }

/-- The same, with everything in another order. -/
def relistedInputs : FactsInputs := { plainInputs with
  compile := { success := true, diagnostics := [], contents := some (Json.compact (.object [
    ("outputs", .object []), ("resources", .list [deploymentOf "app", deploymentOf "net"])])) }
  metadata := { parameters := [⟨"place", some "Where it runs"⟩, ⟨"size", none⟩], outputs := [] }
  graph := { nodes := [⟨"app", moduleNodeType, none⟩, ⟨"net", moduleNodeType, some "net.bicep"⟩] } }

/-- Facts are built from either order, and their canonical texts are the same. -/
theorem listing_order_hidden_exchanged :
    Relisted listedInputs relistedInputs ∧ Unambiguous listedInputs ∧
    ∃ facts facts', buildFacts listedInputs plainContext = .ok facts ∧
      buildFacts relistedInputs plainContext = .ok facts' ∧
      Utf8.encode (Json.canonicalText facts.toJson) = Utf8.encode (Json.canonicalText facts'.toJson) := by
  -- Two resources exchanged in the text, two nodes and two parameters in the answers.
  have isResources : Role.template.member (Json.encodeChars (Json.textChars "resources")).tail =
      .resources := by decide +kernel
  have said : Json.answerOf Json.readText (Json.encodeChars (Json.textChars "resources")).tail =
      some "resources" := by decide +kernel
  have saidToo : Json.answerOf Json.readText (Json.encodeChars (Json.textChars "outputs")).tail =
      some "outputs" := by decide +kernel
  have differ : ¬ SameName (Json.encodeChars (Json.textChars "resources")).tail
      (Json.encodeChars (Json.textChars "outputs")).tail := by
    rintro ⟨name, isFirst, isSecond⟩
    exact absurd ((said.symm.trans isFirst).trans (isSecond.symm.trans saidToo)) (by decide)
  have exact (name : String) : (deploymentOf name).IsExact := ⟨trivial, trivial, trivial⟩
  have text := writtenAs_compact
    (show Json.IsExact (.object [("resources", .list [deploymentOf "net", deploymentOf "app"]),
      ("outputs", .object [])]) from ⟨⟨exact "net", exact "app", trivial⟩, trivial, trivial⟩)
  have exchanged : TextReordered listedInputs.compile.contents relistedInputs.compile.contents :=
    .inr ⟨_, _, _, _, rfl, rfl, text,
      writtenAs_compact ⟨trivial, ⟨exact "app", exact "net", trivial⟩, trivial⟩,
      .trans (.member [] _ _ (isResources ▸ .resources [] [] _ _)) (.members [] [] _ _ differ)⟩
  have relisted : Relisted listedInputs relistedInputs :=
    ⟨rfl, rfl, rfl, rfl, exchanged, .swap _ _ _, .nil, .swap _ _ _⟩
  have deployed : listedInputs.compile.contents.bind (fun contents =>
      (Template.parse listedInputs.file contents).toOption.map fun template =>
        template.allResources.filterMap deploymentName) = some ["net", "app"] := by decide +kernel
  have unambiguous : Unambiguous listedInputs := {
    modules := by unfold PathsAgree; decide
    parameters := by unfold DescriptionsAgree; decide
    outputs := by unfold DescriptionsAgree; decide
    deployments := fun contents template given read => by
      rw [given, Option.bind_some, read] at deployed
      have names : template.allResources.filterMap deploymentName = ["net", "app"] :=
        Option.some.inj deployed
      rw [DistinctDeployments, names]
      decide }
  obtain ⟨facts, built⟩ : ∃ facts, buildFacts listedInputs plainContext = .ok facts := by
    obtain ⟨contents, given, read⟩ := Option.bind_eq_some_iff.mp deployed
    obtain ⟨template, parsed, _⟩ := Option.map_eq_some_iff.mp read
    have filled : contents ≠ "" := by
      rw [← Option.some.inj given]
      exact ne_of_writtenAs text
    have success : listedInputs.compile.success = true := rfl
    have found := toOption_buildFacts listedInputs plainContext
    rw [given, filter_filled filled, if_pos success, Option.bind_some, parsed] at found
    cases same : buildFacts listedInputs plainContext with
    | ok facts => exact ⟨facts, rfl⟩
    | error e => rw [same] at found; cases found
  obtain ⟨facts', built'⟩ := (listing_order_hidden relisted unambiguous).1.mp ⟨facts, built⟩
  exact ⟨relisted, unambiguous, facts, facts', built, built',
    (listing_order_hidden relisted unambiguous).2 facts facts' built built'⟩

end TemplateFacts
