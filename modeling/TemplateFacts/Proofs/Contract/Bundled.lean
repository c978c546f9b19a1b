import Mathlib.Data.List.Nodup
import TemplateFacts.Facts.Record
import TemplateFacts.Proofs.Contract.Demands
import TemplateFacts.Proofs.Contract.Pattern

/-!
What the bundled contract demands of facts, told of the facts themselves: the written form of facts
violates nothing exactly when some texts are not empty, and a few more things hold.
-/

namespace TemplateFacts

namespace Contract

section Parts

variable {follow : String → Checker} {place : List Step}

/-- A member that may be left out demands something only when it is there. -/
theorem forall_optionalMember {α : Type} {name : String} {value : Option α} {toJson : α → Json}
    {holds : String × Json → Prop} :
    (∀ m ∈ optionalMember name (value.map toJson), holds m) ↔
      ∀ x, value = some x → holds (name, toJson x) := by
  -- A member that is left out asks nothing of its value.
  cases value with
  | none => simp [optionalMember]
  | some x => simp [optionalMember]

/-- A member that may be left out and is a document as it stands. -/
theorem forall_optionalDocument {name : String} {value : Option Json}
    {holds : String × Json → Prop} :
    (∀ m ∈ optionalMember name value, holds m) ↔ ∀ x, value = some x → holds (name, x) := by
  -- A document is written as it is, which is the case of the identity.
  rw [← forall_optionalMember, Option.map_id']

/-- Every scope is written as one that the contract knows. -/
@[simp] theorem violations_scope (scope : Scope) :
    violations follow scopeContract place (.text scope.text) = [] := by
  -- Each scope is written as one of the listed texts.
  rw [scopeContract, violations_oneOf]
  cases scope <;> simp [Scope.text]

/-- Every type is written as one that the contract knows. -/
@[simp] theorem violations_valueType (type : ValueType) :
    violations follow valueTypeContract place (.text type.text) = [] := by
  -- Each type is written as one of the listed texts.
  rw [valueTypeContract, violations_oneOf]
  cases type <;> simp [ValueType.text]

/-- Every kind of default is written as one that the contract knows. -/
@[simp] theorem violations_defaultKind (kind : DefaultKind) :
    violations follow (oneOf ["none", "literal", "expression"]) place (.text kind.text) = [] := by
  -- Each kind is written as one of the listed texts.
  rw [violations_oneOf]
  cases kind <;> simp [DefaultKind.text]

/-- Every category is written as one that the contract knows. -/
@[simp] theorem violations_category (category : Category) :
    violations follow (oneOf ["networking", "compute", "data", "security", "messaging",
      "integration", "ai", "unknown"]) place (.text category.text) = [] := by
  -- Each category is written as one of the listed texts.
  rw [violations_oneOf]
  cases category <;> simp [Category.text]

/-- Every kind of condition is written as one that the contract knows. -/
@[simp] theorem violations_conditionKind (condition : ModuleCondition) :
    violations follow (oneOf ["always", "conditional", "foreach"]) place
      (.text condition.text) = [] := by
  -- Each kind is written as one of the listed texts.
  rw [violations_oneOf]
  cases condition <;> simp [ModuleCondition.text]

/-- A truth value is accepted where truth values are. -/
@[simp] theorem violations_flag (b : Bool) : violations follow (.kinds [.boolean]) place (.bool b) = [] :=
  rfl

/-- A truth value that is expected to be true is. -/
@[simp] theorem violations_true (b : Bool) :
    violations follow (.const (.bool true)) place (.bool b) = [] ↔ b = true := by
  rw [violations_const]
  cases b <;> decide

/-- Constraints satisfy their contract, whatever they are. -/
@[simp] theorem violations_constraints (c : Constraints) :
    violations follow constraintsContract place (Json.canonicalize c.toJson) = [] := by
  -- Every bound is a number or a list as written; what is left to check is one name after the other.
  have isList (xs : List Json) (place : List Step) :
      violations follow (.kinds [.array]) place (Json.canonicalize (.list xs)) = [] := rfl
  rw [constraintsContract, violations_all, List.forall_mem_cons, Constraints.toJson, violations_closed]
  simp only [List.forall_mem_append, forall_optionalMember, forall_optionalDocument]
  simp [List.lookup_cons, isList]

/-- A parameter has a name, and is sensitive or says nothing about it. -/
theorem violations_parameter (p : Parameter) :
    violations follow parameterContract place (Json.canonicalize p.toJson) = [] ↔
      p.name ≠ "" ∧ p.sensitive ≠ some false := by
  -- A name and a type are always there; only an empty name, or a `false` for sensitive, is refused.
  rw [Parameter.toJson, parameterContract, violations_record]
  simp only [List.forall_mem_append, List.forall_mem_cons, forall_optionalMember,
    forall_optionalDocument]
  simp [List.lookup_cons]

/-- An output has a name. -/
theorem violations_output (o : Output) :
    violations follow outputContract place (Json.canonicalize o.toJson) = [] ↔ o.name ≠ "" := by
  -- Only the name can be refused: the rest is of its kind as it is written.
  rw [Output.toJson, outputContract, violations_record]
  simp only [List.forall_mem_append, List.forall_mem_cons, forall_optionalMember]
  simp [List.lookup_cons]

/-- Every condition satisfies its contract. -/
@[simp] theorem violations_condition (condition : ModuleCondition) :
    violations follow (record ["kind"] [("kind", oneOf ["always", "conditional", "foreach"])]) place
      (Json.canonicalize condition.toJson) = [] := by
  -- The only member is the kind, which is always there.
  rw [ModuleCondition.toJson, violations_record]
  simp [List.lookup_cons]

/-- A module has a name and a path. -/
theorem violations_module (m : Module) :
    violations follow moduleContract place (Json.canonicalize m.toJson) = [] ↔
      m.name ≠ "" ∧ m.path ≠ "" := by
  -- The name and the path can be empty as far as their types go, and nothing else can be refused.
  rw [Module.toJson, moduleContract, violations_record]
  simp only [List.forall_mem_append, List.forall_mem_cons, forall_optionalMember]
  simp [List.lookup_cons]

/-- A list of texts that are not empty. -/
@[simp] theorem violations_nonEmptyTexts (texts : List String) :
    violations follow (listOf nonEmptyText) place (Json.canonicalize (.list (texts.map .text))) = [] ↔
      ∀ s ∈ texts, s ≠ "" := by
  -- Sorting leaves the items in their places, and each item is asked for itself.
  rw [Json.canonicalize_list]
  exact violations_listOf fun _ _ _ => violations_nonEmptyText

/-- A list of any texts. -/
@[simp] theorem violations_anyTexts (texts : List String) :
    violations follow (listOf anyText) place (Json.canonicalize (.list (texts.map .text))) = [] := by
  -- Sorting leaves the items in their places, and any text will do.
  rw [Json.canonicalize_list]
  exact (violations_listOf fun _ _ _ => iff_true_intro violations_anyText).mpr fun _ _ => trivial

/-- Capabilities have no empty feature. -/
@[simp] theorem violations_capabilities (c : Capabilities) :
    violations follow capabilitiesContract place (Json.canonicalize c.toJson) = [] ↔
      ∀ fs, c.features = some fs → ∀ f ∈ fs, f ≠ "" := by
  -- The category is one of the listed ones; the features are texts that might be empty.
  rw [Capabilities.toJson, capabilitiesContract, violations_record]
  simp only [List.forall_mem_append, List.forall_mem_cons, forall_optionalMember]
  simp [List.lookup_cons]

/-- A provenance has a date-time and a generator. -/
@[simp] theorem violations_provenance (p : Provenance) :
    violations follow provenanceContract place (Json.canonicalize p.toJson) = [] ↔
      Format.dateTime.holds p.generatedAt = true ∧ p.generator ≠ "" := by
  -- A stamp is a text in any case, so only its format is asked.
  have stamp (s : String) (place : List Step) :
      violations follow (.all [.ofFormat .dateTime, .kinds [.string]]) place (.text s) = [] ↔
        Format.dateTime.holds s = true := by
    rw [violations_all, List.forall_mem_cons, violations_ofFormat]
    exact and_iff_left (by simp [violations_kinds, Kind.holds])
  rw [Provenance.toJson, provenanceContract, violations_record]
  simp only [List.forall_mem_append, List.forall_mem_cons, forall_optionalMember]
  simp [List.lookup_cons, stamp]

/-- A source has a path, a version and a digest. -/
@[simp] theorem violations_source (s : SourceInfo) :
    violations follow sourceContract place (Json.canonicalize s.toJson) = [] ↔
      s.path ≠ "" ∧ IsDigest s.hash ∧ s.compilerVersion ≠ "" := by
  -- A digest is a text that the pattern is found in.
  have hash (s : String) (place : List Step) :
      violations follow (.all [.pattern (.plain hashPattern) hashSource, .kinds [.string]]) place
        (.text s) = [] ↔ IsDigest s := by
    have matched : violations follow (.pattern (.plain hashPattern) hashSource) place (.text s) = [] ↔
        IsDigest s := by
      show checkPattern (.plain hashPattern) hashSource place (.text s) = [] ↔ _
      simp only [checkPattern, Matcher.matchesIn, demand_eq_nil, Pattern.matchesIn_hashPattern]
    rw [violations_all, List.forall_mem_cons, matched]
    exact and_iff_left (by simp [violations_kinds, Kind.holds])
  rw [SourceInfo.toJson, sourceContract, violations_record]
  simp [List.lookup_cons, hash]

/-- Scopes are written in different ways. -/
theorem Scope.text_injective {a b : Scope} (same : a.text = b.text) : a = b := by
  cases a <;> cases b <;> first | rfl | exact absurd same (by decide)

/-- Scopes list at least one, and none twice. -/
@[simp] theorem violations_scopes (s : Scopes) :
    violations follow scopesContract place (Json.canonicalize s.toJson) = [] ↔
      s.allowed ≠ [] ∧ s.allowed.Nodup := by
  -- The scopes are known ones, and so only their number and their difference count.
  have allowed (scopes : List Scope) (place : List Step) :
      violations follow (.all [.items scopeContract, .minItems 1, .kinds [.array], .uniqueItems]) place
        (Json.canonicalize (.list (scopes.map fun scope => .text scope.text))) = [] ↔
          scopes ≠ [] ∧ scopes.Nodup := by
    have known : violations follow (.items scopeContract) place
        (.list (scopes.map fun scope => .text scope.text)) = [] :=
      (violations_items fun scope _ _ => iff_true_intro (violations_scope scope)).mpr fun _ _ => trivial
    have some : violations follow (.minItems 1) place
        (.list (scopes.map fun scope => .text scope.text)) = [] ↔ scopes ≠ [] := by
      rw [violations_minItems, List.length_map, Nat.succ_le_iff, List.length_pos_iff]
    have unique : violations follow .uniqueItems place
        (.list (scopes.map fun scope => .text scope.text)) = [] ↔ scopes.Nodup := by
      rw [← List.nodup_map_iff fun _ _ => Scope.text_injective, ← violations_uniqueItems, List.map_map]
      rfl
    rw [Json.canonicalize_list, violations_all]
    simp [known, some, unique]
  rw [Scopes.toJson, scopesContract, violations_record]
  simp [List.lookup_cons, allowed]

/-- A list of modules that is written has a module, and all have names and paths. -/
@[simp] theorem violations_modules (ms : List Module) :
    violations follow (.all [.items moduleContract, .minItems 1, .kinds [.array]]) place
        (Json.canonicalize (.list (ms.map Module.toJson))) = [] ↔
      ms ≠ [] ∧ ∀ m ∈ ms, m.name ≠ "" ∧ m.path ≠ "" := by
  -- The list is violated where a module is, or where there is none.
  have each : violations follow (.items moduleContract) place
      (.list (ms.map fun m => Json.canonicalize m.toJson)) = [] ↔ ∀ m ∈ ms, m.name ≠ "" ∧ m.path ≠ "" :=
    violations_items fun m _ _ => violations_module m
  have some : violations follow (.minItems 1) place
      (.list (ms.map fun m => Json.canonicalize m.toJson)) = [] ↔ ms ≠ [] := by
    rw [violations_minItems, List.length_map, Nat.succ_le_iff, List.length_pos_iff]
  rw [Json.canonicalize_list, violations_all]
  simp only [List.forall_mem_cons, each, some, violations_list, List.not_mem_nil, false_imp_iff,
    implies_true, and_true]
  exact and_comm

/-- A list of parameters has names, and none denies that it is sensitive. -/
@[simp] theorem violations_parameters (ps : List Parameter) :
    violations follow (listOf parameterContract) place
        (Json.canonicalize (.list (ps.map Parameter.toJson))) = [] ↔
      ∀ p ∈ ps, p.name ≠ "" ∧ p.sensitive ≠ some false := by
  -- Sorting leaves the items in their places, and each item is asked for itself.
  rw [Json.canonicalize_list]
  exact violations_listOf fun p _ _ => violations_parameter p

/-- A list of outputs has names. -/
@[simp] theorem violations_outputs (os : List Output) :
    violations follow (listOf outputContract) place
        (Json.canonicalize (.list (os.map Output.toJson))) = [] ↔ ∀ o ∈ os, o.name ≠ "" := by
  -- Sorting leaves the items in their places, and each item is asked for itself.
  rw [Json.canonicalize_list]
  exact violations_listOf fun o _ _ => violations_output o

/-- The version of the written form is the expected one. -/
@[simp] theorem violations_version :
    violations follow (.const (.text "facts.v1")) place (.text schemaVersion) = [] := by
  rw [violations_const]
  decide

end Parts

end Contract

/-- What the bundled contract demands of facts, told of the facts themselves. -/
structure Facts.Conforms (f : Facts) : Prop where
  componentId : f.componentId ≠ ""
  path : f.source.path ≠ ""
  hash : Contract.IsDigest f.source.hash
  compilerVersion : f.source.compilerVersion ≠ ""
  someScope : f.scopes.allowed ≠ []
  scopesOnce : f.scopes.allowed.Nodup
  parameters : ∀ p ∈ f.parameters, p.name ≠ "" ∧ p.sensitive ≠ some false
  outputs : ∀ o ∈ f.outputs, o.name ≠ ""
  modules : ∀ ms, f.modules = some ms → ms ≠ [] ∧ ∀ m ∈ ms, m.name ≠ "" ∧ m.path ≠ ""
  features : ∀ fs, f.capabilities.features = some fs → ∀ s ∈ fs, s ≠ ""
  generatedAt : Contract.Format.dateTime.holds f.provenance.generatedAt = true
  generator : f.provenance.generator ≠ ""

/-- The written form of facts violates nothing in the bundled contract exactly when the facts conform. -/
theorem Contract.bundled_violations_eq_nil (f : Facts) :
    Contract.bundled.violations (Json.canonicalize f.toJson) = [] ↔ f.Conforms := by
  -- The members are listed by the record, each with what its own contract asks; the two shapes are then
  -- rearranged.
  rw [Schema.violations, bundled, factsContract, Facts.toJson, violations_record]
  simp only [List.forall_mem_append, List.forall_mem_cons, forall_optionalMember]
  simp [List.lookup_cons]
  constructor
  · rintro ⟨⟨⟨id, ⟨path, hash, version⟩, ⟨some, once⟩, parameters, outputs⟩, modules⟩, features, stamp,
      generator⟩
    exact ⟨id, path, hash, version, some, once, parameters, outputs, modules, features, stamp, generator⟩
  · intro c
    exact ⟨⟨⟨c.componentId, ⟨c.path, c.hash, c.compilerVersion⟩, ⟨c.someScope, c.scopesOnce⟩, c.parameters,
      c.outputs⟩, c.modules⟩, c.features, c.generatedAt, c.generator⟩

end TemplateFacts
