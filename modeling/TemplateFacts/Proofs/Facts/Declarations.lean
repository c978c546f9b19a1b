import TemplateFacts.Proofs.Facts.Order
import TemplateFacts.Proofs.Json.Grammar
import TemplateFacts.Proofs.Json.Yield

/-!
What the facts record of the declarations of a template: each declared name once, in order of the names,
and of each what its declaration says, and what the compiler says about its name.
-/

namespace TemplateFacts

/-- The text stands in brackets, blanks around them set aside. -/
def IsBracketed (s : String) : Prop := ∃ inside, (Text.trim s).toList = '[' :: inside ++ [']']

/-- The compiler's last entry for the name has the description. -/
def Reported (symbols : List SymbolMetadata) (name description : String) : Prop :=
  ∃ before after, symbols = before ++ ⟨name, some description⟩ :: after ∧
    ∀ entry ∈ after, entry.name ≠ name

/-- The declaration has the description among its metadata. -/
def Describes (definition : Json) (description : String) : Prop :=
  ∃ metadata, definition.get? "metadata" = some metadata ∧
    metadata.get? "description" = some (.text description)

/-- The description of a declaration: the one reported for its name, or else its own, if there is any. -/
def Described (symbols : List SymbolMetadata) (name : String) (definition : Json)
    (described : Option String) : Prop :=
  ∀ description, described = some description ↔ Reported symbols name description ∨
    (¬ ∃ other, Reported symbols name other) ∧ Describes definition description

/-- The limits that are kept whatever they are, each with the member that sets it. -/
def Constraints.plain (c : Constraints) : List (String × Option Json) :=
  [("minValue", c.minValue), ("maxValue", c.maxValue), ("minLength", c.minLength),
    ("maxLength", c.maxLength), ("pattern", c.pattern)]

/-- The limits are those of the declaration, allowed values being one only as a list. -/
structure LimitsOf (definition : Json) (c : Constraints) : Prop where
  allowed : ∀ items, c.allowed = some items ↔ definition.get? "allowedValues" = some (.list items)
  plain : ∀ limit ∈ c.plain, limit.2 = definition.get? limit.1

/-- The declaration sets no limit. -/
structure SetsNone (definition : Json) : Prop where
  allowed : ∀ items, definition.get? "allowedValues" ≠ some (.list items)
  plain : ∀ key ∈ ["minValue", "maxValue", "minLength", "maxLength", "pattern"],
    definition.get? key = none

/-- The parameter is what its declaration says. -/
structure ParameterSays (symbols : List SymbolMetadata) (name : String) (definition : Json)
    (p : Parameter) : Prop where
  named : p.name = name
  required : p.required = true ↔ definition.get? "defaultValue" = none
  /-- A null default is a default. -/
  noDefault : p.defaultKind = .none ↔ definition.get? "defaultValue" = none
  expression : p.defaultKind = .expression ↔
    ∃ s, definition.get? "defaultValue" = some (.text s) ∧ IsBracketed s
  /-- A default that is no expression is kept as declared. -/
  value : (p.defaultValue.isSome ↔ p.defaultKind = .literal) ∧
    ∀ value, p.defaultValue = some value → definition.get? "defaultValue" = some value
  /-- An expression is kept with the blanks around it. -/
  text : (p.defaultExpression.isSome ↔ p.defaultKind = .expression) ∧
    ∀ s, p.defaultExpression = some s → definition.get? "defaultValue" = some (.text s)
  notBoth : p.defaultValue = none ∨ p.defaultExpression = none
  sensitive : p.sensitive = none ∨ p.sensitive = some true
  unlimited : p.constraints = none ↔ SetsNone definition
  limits : ∀ c, p.constraints = some c → LimitsOf definition c
  described : Described symbols name definition p.description

/-- The output is what its declaration says. -/
structure OutputSays (symbols : List SymbolMetadata) (name : String) (definition : Json)
    (o : Output) : Prop where
  named : o.name = name
  described : Described symbols name definition o.description

/-- The records of some declarations: one for each declared name and none for another, in the order that
the names have byte by byte, and each as its declaration says. -/
structure Lists {α : Type} (declared : List (String × Json)) (name : α → String)
    (Says : String → Json → α → Prop) (records : List α) : Prop where
  /-- No name is declared twice. -/
  once : (declared.map Prod.fst).Nodup
  increasing : records.Pairwise fun a b => Utf8.encode (name a) < Utf8.encode (name b)
  listed : ∀ member ∈ declared, ∃ record ∈ records, Says member.1 member.2 record ∧
    ∀ other ∈ records, name other = member.1 → other = record
  others : ∀ record ∈ records, name record ∈ declared.map Prod.fst

section Descriptions

variable {symbols : List SymbolMetadata} {name description : String} {definition : Json}

/-- What is reported for a name is what its last entry says. -/
theorem reportedDescription_eq_some :
    reportedDescription symbols name = some description ↔ Reported symbols name description := by
  -- The last entry of the name is the first one from behind.
  unfold reportedDescription Reported
  constructor
  · intro reported
    split at reported
    · rename_i entry found
      obtain ⟨named, before, after, split, others⟩ := find?_reverse_eq_some.mp found
      obtain rfl : entry = ⟨name, some description⟩ := by
        rw [← beq_iff_eq.mp named, ← reported]
      exact ⟨before, after, split, fun other member => beq_eq_false_iff_ne.mp (others other member)⟩
    · cases reported
  · rintro ⟨before, after, split, others⟩
    have found : symbols.reverse.find? (·.name == name) = some ⟨name, some description⟩ :=
      find?_reverse_eq_some.mpr ⟨beq_self_eq_true _, before, after, split,
        fun other member => beq_eq_false_iff_ne.mpr (others other member)⟩
    rw [found]

/-- The declaration's own description is the text in its metadata. -/
theorem metadataDescription_eq_some :
    metadataDescription definition = some description ↔ Describes definition description := by
  -- The member `metadata` first, then its `description`, which has to be a text.
  simp only [metadataDescription, Describes, Option.bind_eq_some_iff, Json.asText?_eq_some]
  constructor
  · rintro ⟨_, ⟨metadata, declared, given⟩, rfl⟩
    exact ⟨metadata, declared, given⟩
  · rintro ⟨metadata, declared, given⟩
    exact ⟨_, ⟨metadata, declared, given⟩, rfl⟩

/-- A declaration is described by the compiler before its own text. -/
theorem described_describe (symbols : List SymbolMetadata) (name : String) (definition : Json) :
    Described symbols name definition (describe symbols name definition) := by
  -- The compiler's own description comes first, the template's own metadata after it.
  intro description
  simp only [← reportedDescription_eq_some, ← metadataDescription_eq_some, describe]
  cases reportedDescription symbols name <;> simp

end Descriptions

section Declarations

variable {definition : Json}

/-- A default is an expression if it is a text in brackets. -/
theorem isExpression_iff {value : Json} :
    isExpression value = true ↔ ∃ s, value = .text s ∧ IsBracketed s := by
  -- A text of one bracket neither opens and closes, as the two brackets differ.
  have ends (cs : List Char) : cs.head? = some '[' ∧ cs.getLast? = some ']' ↔
      ∃ inside, cs = '[' :: inside ++ [']'] := by
    constructor
    · rintro ⟨opens, closes⟩
      obtain ⟨front, rfl⟩ := List.getLast?_eq_some_iff.mp closes
      cases front with
      | nil => exact absurd opens (by decide)
      | cons first inside =>
        obtain rfl := Option.some.inj opens
        exact ⟨inside, rfl⟩
    · rintro ⟨inside, rfl⟩
      exact ⟨rfl, List.getLast?_concat⟩
  cases value with
  | text s => simp [isExpression, IsBracketed, ends]
  | _ => simp [isExpression]

/-- The limits of a declaration are kept if it sets any. -/
theorem limitsOf_constraintsOf (definition : Json) :
    (constraintsOf definition = none ↔ SetsNone definition) ∧
      ∀ c, constraintsOf definition = some c → LimitsOf definition c := by
  -- Only a list of allowed values counts, and everything else sets none.
  have allowed (items : List Json) : (definition.get? "allowedValues").bind Json.asList? = some items ↔
      definition.get? "allowedValues" = some (.list items) := by
    simp [Option.bind_eq_some_iff, Json.asList?_eq_some]
  have noneAllowed : (definition.get? "allowedValues").bind Json.asList? = none ↔
      ∀ items, definition.get? "allowedValues" ≠ some (.list items) := by
    rw [Option.eq_none_iff_forall_ne_some]
    exact forall_congr' fun items => not_congr (allowed items)
  unfold constraintsOf
  dsimp only
  constructor
  · constructor
    · intro unlimited
      split at unlimited
      · rename_i same
        simp only [Constraints.mk.injEq] at same
        exact ⟨noneAllowed.mp same.1, by simpa using same.2⟩
      · cases unlimited
    · intro none
      have plain := none.plain
      rw [if_pos]
      simp only [List.mem_cons, List.not_mem_nil, or_false, forall_eq_or_imp, forall_eq] at plain
      simpa only [Constraints.mk.injEq, noneAllowed] using ⟨none.allowed, plain⟩
  · intro c limited
    split at limited
    · cases limited
    · obtain rfl := Option.some.inj limited
      exact ⟨allowed, by simp [Constraints.plain]⟩

/-- A parameter is formed from its declaration. -/
theorem parameterSays_parameterOf (symbols : List SymbolMetadata) (name : String) (definition : Json) :
    ParameterSays symbols name definition (parameterOf symbols name definition) := by
  have sensitive : (if isSecureType (definition.get? "type") then some true else none) = none ∨
      (if isSecureType (definition.get? "type") then some true else none) = some true := by
    cases isSecureType (definition.get? "type") <;> simp
  obtain ⟨unlimited, limits⟩ := limitsOf_constraintsOf definition
  have described := described_describe symbols name definition
  unfold parameterOf
  -- By how the default is given, which settles all that is kept of it.
  cases default : definition.get? "defaultValue" with
  | none =>
    exact {
      named := rfl
      required := by simp [default]
      noDefault := by simp [defaultKindOf, default]
      expression := by simp [defaultKindOf, default]
      value := by simp [defaultKindOf]
      text := by simp [defaultKindOf]
      notBoth := .inl rfl
      sensitive, unlimited, limits, described }
  | some value =>
    cases isExpr : isExpression value with
    | false =>
      have kind : defaultKindOf (some value) = .literal := by simp [defaultKindOf, isExpr]
      have noText (s : String) : ¬ (value = .text s ∧ IsBracketed s) := fun isText => by
        rw [isExpression_iff.mpr ⟨s, isText⟩] at isExpr
        cases isExpr
      exact {
        named := rfl
        required := by simp [default]
        noDefault := by simp [kind, default]
        expression := by simpa [kind, default] using noText
        value := by simp [kind, default]
        text := by simp [kind]
        notBoth := .inr (by simp [kind])
        sensitive, unlimited, limits, described }
    | true =>
      have kind : defaultKindOf (some value) = .expression := by simp [defaultKindOf, isExpr]
      obtain ⟨s, rfl, brackets⟩ := isExpression_iff.mp isExpr
      exact {
        named := rfl
        required := by simp [default]
        noDefault := by simp [kind, default]
        expression := by simpa [kind, default] using brackets
        value := by simp [kind]
        text := by simp [kind, default, Json.asText?]
        notBoth := .inl (by simp [kind])
        sensitive, unlimited, limits, described }

/-- An output is formed from its declaration. -/
theorem outputSays_outputOf (symbols : List SymbolMetadata) (name : String) (definition : Json) :
    OutputSays symbols name definition (outputOf symbols name definition) :=
  ⟨rfl, described_describe symbols name definition⟩

/-- What is formed from each declaration and sorted is one record for each declared name. -/
theorem lists_mergeSort {α : Type} {declared : List (String × Json)} {name : α → String}
    {Says : String → Json → α → Prop} {form : String → Json → α}
    (once : (declared.map Prod.fst).Nodup) (named : ∀ n definition, name (form n definition) = n)
    (formed : ∀ n definition, Says n definition (form n definition)) :
    Lists declared name Says ((declared.map fun member => form member.1 member.2).mergeSort
      fun a b => decide (name a ≤ name b)) := by
  -- The records have the declared names, so that sorting them by name leaves none equal.
  have names : (declared.map fun member => form member.1 member.2).map name = declared.map Prod.fst := by
    rw [List.map_map]
    exact List.map_congr_left fun member _ => named member.1 member.2
  refine ⟨once, increasing_mergeSort (names ▸ once), fun member declared => ?_, fun record inside => ?_⟩
  · refine ⟨form member.1 member.2, List.mem_mergeSort.mpr (List.mem_map_of_mem declared),
      formed _ _, fun other inside same => ?_⟩
    obtain ⟨other, declared', rfl⟩ := List.mem_map.mp (List.mem_mergeSort.mp inside)
    rw [named] at same
    rw [List.inj_on_of_nodup_map once declared' declared same]
  · obtain ⟨member, declared, rfl⟩ := List.mem_map.mp (List.mem_mergeSort.mp inside)
    rw [named]
    exact List.mem_map_of_mem declared

end Declarations

section Parsed

variable {file : Path} {contents : String} {template : Template}

/-- What is found in a field of a template, which is a table if the field is a section. -/
def SectionIsTable (name : String) (j : Json) : Prop := name ∈ ["parameters", "outputs"] → Json.IsTable j

/-- The sections of a template that was read are tables. -/
theorem sectionIsTable_of_parse {j : Json}
    (read : Template.shape.ofBytes (Utf8.encode contents) = .ok j) :
    ∃ ms, j = .object ms ∧ ∀ m ∈ ms, SectionIsTable m.1 m.2 := by
  obtain ⟨budget, depth, c, d, reads⟩ := Json.exists_reader_of_ofBytes read
  rw [Template.shape, Json.Shape.reader] at reads
  refine Json.readRecord_yields (?_ : ∀ reader ∈ _, Json.Yields SectionIsTable reader) reads
  simp only [Json.Shape.fieldReaders, Json.Shape.fieldReader, Json.Shape.presenceReader,
    List.forall_mem_cons, List.not_mem_nil, false_implies, implies_true, and_true]
  have table {name : String} {budget : Nat} : Json.Yields SectionIsTable
      (name, .replaced .null, (Json.Shape.optional .table).reader budget) :=
    ⟨fun given _ => Json.isTable_of_reads given, fun null _ => .inl (Option.some.inj null).symm⟩
  -- The other two fields are no sections.
  have other {name : String} {read : Json.Reader} (noSection : name ∉ ["parameters", "outputs"]) :
      Json.Yields SectionIsTable (name, .replaced .null, read) :=
    ⟨fun _ isSection => absurd isSection noSection, fun _ isSection => absurd isSection noSection⟩
  exact ⟨other (by decide), table, table, other (by decide)⟩

/-- No name is declared twice in a template that was read. -/
theorem increasing_of_parse (parsed : Template.parse file contents = .ok template) :
    Json.Increasing template.parameters ∧ Json.Increasing template.outputs := by
  -- A section is absent, or null, or a table, whose names increase.
  unfold Template.parse at parsed
  split at parsed
  · rename_i j read
    obtain rfl := Except.ok.inj parsed
    obtain ⟨ms, rfl, isTable⟩ := sectionIsTable_of_parse read
    have increasing {name : String} (isSection : name ∈ ["parameters", "outputs"]) :
        Json.Increasing (Template.sectionOf name (.object ms)) := by
      unfold Template.sectionOf
      cases found : (Json.object ms).get? name with
      | none => exact .nil
      | some j =>
        rcases isTable (name, j) (Json.mem_of_lookup found) isSection with rfl | ⟨ns, rfl, increasing⟩
        · exact .nil
        · exact increasing
    exact ⟨increasing (by decide), increasing (by decide)⟩
  · cases parsed

/-- The parameters and the outputs of a template are recorded as it declares them: each declared name
once, in the order that the names have byte by byte, and nothing that only the compiler mentions. -/
theorem declarations_are_recorded (parsed : Template.parse file contents = .ok template)
    (metadata : Metadata) :
    Lists template.parameters (·.name) (ParameterSays metadata.parameters)
        (buildParameters template metadata) ∧
      Lists template.outputs (·.name) (OutputSays metadata.outputs)
        (buildOutputs template metadata) := by
  -- The template's names are apart and sorted, so sorting by name lists each of them once.
  obtain ⟨parameters, outputs⟩ := increasing_of_parse parsed
  constructor
  · exact lists_mergeSort parameters.distinct (fun _ _ => rfl)
      (parameterSays_parameterOf metadata.parameters)
  · exact lists_mergeSort outputs.distinct (fun _ _ => rfl) (outputSays_outputOf metadata.outputs)

end Parsed

/-- A template of parameters with a null default, an expression and limits, and of one output. -/
def declaringText : String := Json.compact (.object [
  ("parameters", .object [("size", .object [("type", .text "int"), ("defaultValue", .null)]),
    ("place", .object [("type", .text "string"), ("defaultValue", .text " [x()] ")]),
    ("Key", .object [("type", .text "SecureString"), ("minLength", .int 8)]), ("any", .null)]),
  ("outputs", .object [("id", .object [("type", .text "string")])])])

/-- Descriptions of one parameter, the last one being none, and of a name that is not declared. -/
def describingMetadata : Metadata where
  parameters := [⟨"size", some "How many"⟩, ⟨"size", none⟩, ⟨"other", some "Nothing"⟩]
  outputs := [⟨"id", some "Its id"⟩]

/-- The parameters and the output of the template are recorded. -/
theorem declaring_text_recorded : ∃ template,
    Template.parse ⟨"main.bicep"⟩ declaringText = .ok template ∧
      template.parameters.map Prod.fst = ["Key", "any", "place", "size"] ∧
      Lists template.parameters (·.name) (ParameterSays describingMetadata.parameters)
        (buildParameters template describingMetadata) ∧
      Lists template.outputs (·.name) (OutputSays describingMetadata.outputs)
        (buildOutputs template describingMetadata) := by
  -- The text is evaluated once, and the template is the one that was read there.
  have read : (Template.parse ⟨"main.bicep"⟩ declaringText).toOption.map
      (fun template => template.parameters.map Prod.fst) = some ["Key", "any", "place", "size"] := by
    decide +kernel
  obtain ⟨template, parsed, names⟩ := Option.map_eq_some_iff.mp read
  have given : Template.parse ⟨"main.bicep"⟩ declaringText = .ok template := by
    cases same : Template.parse ⟨"main.bicep"⟩ declaringText with
    | ok other =>
      rw [same] at parsed
      rw [Option.some.inj parsed]
    | error e =>
      rw [same] at parsed
      cases parsed
  exact ⟨template, given, names, declarations_are_recorded given describingMetadata⟩

end TemplateFacts
