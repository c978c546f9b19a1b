import TemplateFacts.Proofs.Outcome
import TemplateFacts.Proofs.Settings.Environment

/-!
Settings are layered one by one: each has the value of the highest layer that sets it, and what lower
layers set does not matter, be it good for the setting or not.
-/

namespace TemplateFacts.Settings

/-- The value that is built in for a setting. -/
def Field.builtIn? : Field → Option Value
  | .compilerPath => some (.scalar (.text "bicep") none)
  | .compilerArgs => some (.list [] none)
  | .connectTimeout => some (.scalar (.int 10) none)
  | .componentIdFrom => some (.scalar (.text "resource") none)
  | .schemaPath => none
  | .continueOnError => some (.scalar (.bool false) none)

/-- The table of what is built in has both sections. -/
theorem putOver_builtIn : PutOver Field.builtIn? .bare (putLayer .bare builtIn) := by
  -- The built-in layer is a literal; only two of its keys are read from text.
  have table : putLayer .bare builtIn = .table builtIn none := by
    simp only [putLayer, builtIn, List.foldl_cons, List.foldl_nil]
    rw [show Key.ofText "compiler" = ⟨"compiler", []⟩ from Field.compilerPath.ofText_home,
      show Key.ofText "generate" = ⟨"generate", []⟩ from Field.schemaPath.ofText_home]
    rfl
  rw [table]
  exact ⟨fun field => by cases field <;> exact ⟨_, rfl, _, _, rfl⟩, fun field => by cases field <;> rfl⟩

/-- The layer that a file makes, which is empty when no file is named. -/
def Sources.fileLayer (cwd : Path) (tree : FileTree) (sources : Sources) : Except Fault Entries :=
  match sources.file with
  | some name => File.layer sources.foreign cwd tree name
  | none => .ok []

/-- The value that the highest layer below the overrides gives a setting, if any does. -/
def Sources.value? (sources : Sources) (fileLayer : Entries) (field : Field) : Option Value :=
  (Environment.given? sources.environment field).or ((field.given? fileLayer).or field.builtIn?)

/-- The value of a setting that is there is converted. -/
def Takes {α : Type} (convert : Value → Except Fault α) (value : Option Value) (x : α) : Prop :=
  ∃ v, value = some v ∧ convert v = .ok x

/-- The values of all settings, each converted to its kind. -/
structure Converted (value : Field → Option Value) (settings : Settings) : Prop where
  compilerPath : Takes (Value.toText Field.compilerPath.key) (value .compilerPath)
    settings.compiler.path.text
  compilerArgs : Takes (Value.toTexts Field.compilerArgs.key) (value .compilerArgs)
    settings.compiler.args
  connectTimeout : Takes (Value.toNat Field.connectTimeout.key) (value .connectTimeout)
    settings.compiler.connectTimeout
  componentIdFrom : Takes Value.toSource (value .componentIdFrom) settings.generate.componentIdFrom
  schemaPath : Takes (optional Value.toText Field.schemaPath.key) (value .schemaPath)
      (settings.generate.schemaPath.map Path.text) ∨
    value .schemaPath = none ∧ settings.generate.schemaPath = none
  continueOnError : Takes (Value.toBool Field.continueOnError.key) (value .continueOnError)
    settings.generate.continueOnError

section Reading

variable {α : Type} {key name : String} {entries : Entries} {origin : Option String} {table : Value}
  {convert : (key : String) → Value → Except Fault α}

/-- A setting of a section is converted if it is there, and passed over if not. -/
theorem read?_eq_ok {place : Nat} {read : Option α} :
    (Section.table key entries).read? name place convert = .ok read ↔
      (∃ x, read = some x ∧ Takes (convert (key ++ "." ++ name)) (entries.lookup name) x) ∨
        entries.lookup name = none ∧ read = none := by
  -- An entry that is not there is read as nothing, and one that is there must convert.
  rw [Section.read?]
  cases entries.lookup name with
  | none => simp [Takes, eq_comm]
  | some v =>
    show (convert (key ++ "." ++ name) v).map some = .ok read ↔ _
    cases converted : convert (key ++ "." ++ name) v with
    | error e => simp [Takes, converted, Except.map]
    | ok x => simp [Takes, converted, Except.map, eq_comm]

/-- A setting that must be there has been read. -/
theorem required_eq_ok {place : Nat} {read : Option α} {x : α} :
    (Section.table key entries).required name place read = .ok x ↔ read = some x := by
  cases read <;> simp [Section.required]

/-- The settings of the compiler are converted one by one. -/
theorem readCompiler_eq_ok {settings : CompilerSettings} (argsThere : entries.lookup "args" ≠ none) :
    readCompiler (.table entries origin) = .ok settings ↔
      Takes (Value.toText Field.compilerPath.key) (entries.lookup "path") settings.path.text ∧
      Takes (Value.toTexts Field.compilerArgs.key) (entries.lookup "args") settings.args ∧
      Takes (Value.toNat Field.connectTimeout.key) (entries.lookup "connect_timeout_secs")
        settings.connectTimeout := by
  obtain ⟨⟨path⟩, args, timeout⟩ := settings
  -- Each setting is taken from the entry of its name, and the arguments have no built-in value.
  simp only [readCompiler, Section.ofValue, bind_eq_ok, read?_eq_ok, required_eq_ok, Except.ok.injEq,
    exists_eq_left', argsThere, false_and, or_false]
  constructor
  · rintro ⟨_, path, _, ⟨_, rfl, args⟩, _, timeout, _, rfl, _, rfl, same⟩
    cases same
    simp only [Option.some.injEq, exists_eq_left', reduceCtorEq, and_false, or_false] at path timeout
    exact ⟨path, args, timeout⟩
  · rintro ⟨path, args, timeout⟩
    exact ⟨_, .inl ⟨_, rfl, path⟩, _, ⟨_, rfl, args⟩, _, .inl ⟨_, rfl, timeout⟩, _, rfl, _, rfl, rfl⟩

/-- The settings of the generation are converted one by one. -/
theorem readGenerate_eq_ok {settings : GenerateSettings}
    (sourceThere : entries.lookup "component_id_from" ≠ none)
    (flagThere : entries.lookup "continue_on_error" ≠ none) :
    readGenerate (.table entries origin) = .ok settings ↔
      Takes Value.toSource (entries.lookup "component_id_from") settings.componentIdFrom ∧
      (Takes (optional Value.toText Field.schemaPath.key) (entries.lookup "schema_path")
          (settings.schemaPath.map Path.text) ∨
        entries.lookup "schema_path" = none ∧ settings.schemaPath = none) ∧
      Takes (Value.toBool Field.continueOnError.key) (entries.lookup "continue_on_error")
        settings.continueOnError := by
  -- Each setting is taken from the entry of its name, and only the contract may be missing.
  obtain ⟨source, schemaPath, flag⟩ := settings
  simp only [readGenerate, Section.ofValue, bind_eq_ok, read?_eq_ok, Except.ok.injEq, exists_eq_left',
    sourceThere, flagThere, false_and, or_false]
  constructor
  · rintro ⟨_, ⟨_, rfl, source⟩, _, schema, _, ⟨_, rfl, flag⟩, same⟩
    cases same
    refine ⟨source, ?_, flag⟩
    rcases schema with ⟨path, rfl, schema⟩ | ⟨missing, rfl⟩
    · cases path <;> exact .inl schema
    · exact .inr ⟨missing, rfl⟩
  · rintro ⟨source, schema, flag⟩
    rcases schema with schema | ⟨missing, rfl⟩
    · refine ⟨_, ⟨_, rfl, source⟩, _, .inl ⟨_, rfl, schema⟩, _, ⟨_, rfl, flag⟩, ?_⟩
      cases schemaPath <;> rfl
    · exact ⟨_, ⟨_, rfl, source⟩, _, .inr ⟨missing, rfl⟩, _, ⟨_, rfl, flag⟩, rfl⟩

/-- The settings of a table with both sections are what its settings are converted to. -/
theorem ofValue_eq_ok {settings : Settings} (sections : HasSections table)
    (there : ∀ field, field ≠ .schemaPath → Field.at? field table ≠ none) :
    ofValue table = .ok settings ↔ Converted (fun field => field.at? table) settings := by
  obtain ⟨_, compiler, entries, origin, rfl⟩ := sections .compilerPath
  obtain ⟨_, generate, entries', origin', rfl⟩ := sections .schemaPath
  -- A setting stands in the section that is its home.
  have inCompiler (field : Field) (home : field.home = "compiler") :
      field.at? table = entries.lookup field.name := by
    rw [Field.at?, home, show table.get? "compiler" = _ from compiler]
    rfl
  have inGenerate (field : Field) (home : field.home = "generate") :
      field.at? table = entries'.lookup field.name := by
    rw [Field.at?, home, show table.get? "generate" = _ from generate]
    rfl
  have reads : ofValue table = .ok settings ↔
      readCompiler (.table entries origin) = .ok settings.compiler ∧
        readGenerate (.table entries' origin') = .ok settings.generate := by
    rw [ofValue, show table.get? "compiler" = _ from compiler, show table.get? "generate" = _ from generate]
    obtain ⟨compilerSettings, generateSettings⟩ := settings
    rw [Option.mapM_some, Option.mapM_some]
    cases readCompiler (.table entries origin) with
    | error e => simp [Bind.bind, Except.bind, Functor.map, Except.map]
    | ok c =>
      cases readGenerate (.table entries' origin') with
      | error e => simp [Bind.bind, Except.bind, Functor.map, Except.map]
      | ok g => simp [Bind.bind, Except.bind, Functor.map, Except.map, pure, Except.pure]
  rw [reads, readCompiler_eq_ok, readGenerate_eq_ok, ← show _ = entries.lookup "path" from inCompiler .compilerPath rfl,
    ← show _ = entries.lookup "args" from inCompiler .compilerArgs rfl,
    ← show _ = entries.lookup "connect_timeout_secs" from inCompiler .connectTimeout rfl,
    ← show _ = entries'.lookup "component_id_from" from inGenerate .componentIdFrom rfl,
    ← show _ = entries'.lookup "schema_path" from inGenerate .schemaPath rfl,
    ← show _ = entries'.lookup "continue_on_error" from inGenerate .continueOnError rfl]
  · constructor
    · rintro ⟨⟨path, args, timeout⟩, source, schema, flag⟩
      exact ⟨path, args, timeout, source, schema, flag⟩
    · rintro ⟨path, args, timeout, source, schema, flag⟩
      exact ⟨⟨path, args, timeout⟩, source, schema, flag⟩
  · exact inGenerate .componentIdFrom rfl ▸ there .componentIdFrom (by decide)
  · exact inGenerate .continueOnError rfl ▸ there .continueOnError (by decide)
  · exact inCompiler .compilerArgs rfl ▸ there .compilerArgs (by decide)

end Reading

section Loading

variable {cwd : Path} {tree : FileTree} {sources : Sources} {settings : Settings}

/-- What the layers hold for each setting when they are put over one another. -/
theorem putOver_stack {fileLayer : Entries} (file : ∀ entry ∈ fileLayer, SetsFields entry)
    (environment : Environment.SetsFields sources.environment)
    (apart : (sources.environment.map fun v => Text.lower v.1).Nodup) :
    PutOver (sources.value? fileLayer) .bare
      (stack [builtIn, fileLayer, Environment.layer sources.environment]) := by
  -- The layers are put one over the other, and what is put later is looked at first.
  have built := putOver_builtIn
  have filed := putOver_putLayer built.sections file
  have set := putOver_putLayer filed.sections fun _ => Environment.setsFields_layer environment
  refine ⟨set.sections, fun field => ?_⟩
  show field.at? (putLayer (putLayer (putLayer .bare builtIn) fileLayer) _) = _
  rw [set.at?_eq, filed.at?_eq, built.at?_eq, Environment.given?_layer environment apart,
    Sources.value?, Option.or_assoc, Option.or_assoc]

/-- Settings that are loaded pass the check, and nothing is changed by it. -/
theorem checked_eq_ok {below : Settings} :
    below.checked = .ok settings ↔
      settings = below ∧ below.compiler.path.text ≠ "" ∧ 1 ≤ below.compiler.connectTimeout := by
  -- A path that is not empty and a timeout that is not zero pass, and nothing else does.
  rw [checked]
  split
  · rename_i unnamed
    exact iff_of_false (fun fails => by cases fails) fun good => good.2.1 (beq_iff_eq.mp unnamed)
  · rename_i named
    split
    · rename_i hasty
      exact iff_of_false (fun fails => by cases fails) fun good =>
        Nat.one_le_iff_ne_zero.mp good.2.2 (beq_iff_eq.mp hasty)
    · rename_i patient
      have good : below.compiler.path.text ≠ "" ∧ 1 ≤ below.compiler.connectTimeout :=
        ⟨fun unnamed => named (beq_iff_eq.mpr unnamed),
          Nat.one_le_iff_ne_zero.mpr fun hasty => patient (beq_iff_eq.mpr hasty)⟩
      rw [Except.ok.injEq, eq_comm]
      exact (and_iff_left good).symm

/-- Loading succeeds step by step. -/
theorem load_eq_ok : load cwd tree sources = .ok settings ↔
    ∃ fileLayer, sources.fileLayer cwd tree = .ok fileLayer ∧ ∃ below,
      ofValue (stack [builtIn, fileLayer, Environment.layer sources.environment]) = .ok below ∧
      (below.overriddenBy sources.overrides).checked = .ok settings := by
  -- A fault in any part is the fault of the whole.
  have raised {α : Type} {first : Except Fault α} {a : α} :
      first.mapError Error.config = .ok a ↔ first = .ok a := by
    cases first <;> simp [Except.mapError]
  rw [load, Sources.fileLayer]
  cases sources.file with
  | none => simp only [bind_eq_ok, raised, Except.ok.injEq, exists_eq_left']
  | some name => simp only [bind_eq_ok, raised]

/-- Loading succeeds exactly if the settings are layered one by one: each has the value that the highest
layer gives it, override, environment, file and what is built in, converted to its kind, and a compiler
is named and has time to connect. What lower layers give does not matter. A file that is neither TOML nor JSON
gives what the reader of its format makes of it, whichever reader that is. -/
theorem layered_one_by_one
    (file : ∀ fileLayer, sources.fileLayer cwd tree = .ok fileLayer → ∀ entry ∈ fileLayer, SetsFields entry)
    (environment : Environment.SetsFields sources.environment)
    (apart : (sources.environment.map fun v => Text.lower v.1).Nodup) :
    load cwd tree sources = .ok settings ↔
      ∃ fileLayer below, sources.fileLayer cwd tree = .ok fileLayer ∧
        Converted (sources.value? fileLayer) below ∧
        settings.compiler.path = sources.overrides.compilerPath.getD below.compiler.path ∧
        settings.compiler.args = below.compiler.args ∧
        settings.compiler.connectTimeout = below.compiler.connectTimeout ∧
        settings.generate.componentIdFrom =
          sources.overrides.componentIdFrom.getD below.generate.componentIdFrom ∧
        settings.generate.schemaPath = (sources.overrides.schemaPath <|> below.generate.schemaPath) ∧
        settings.generate.continueOnError =
          sources.overrides.continueOnError.getD below.generate.continueOnError ∧
        settings.compiler.path.text ≠ "" ∧ 1 ≤ settings.compiler.connectTimeout := by
  -- Each layer sets single fields, so the stack gives each field the topmost value; then the conversion
  -- and the checks.
  have converts (fileLayer : Entries) (read : sources.fileLayer cwd tree = .ok fileLayer) (below : Settings) :
      ofValue (stack [builtIn, fileLayer, Environment.layer sources.environment]) = .ok below ↔
        Converted (sources.value? fileLayer) below := by
    have stacked := putOver_stack (file fileLayer read) environment apart
    have value (field : Field) : field.at? (stack [builtIn, fileLayer, Environment.layer sources.environment]) =
        sources.value? fileLayer field := by
      rw [stacked.at?_eq]
      exact Option.or_none
    rw [ofValue_eq_ok stacked.sections, funext value]
    intro field known
    rw [value, Sources.value?]
    cases field <;> simp_all [Field.builtIn?]
  rw [load_eq_ok]
  refine exists_congr fun fileLayer => ?_
  constructor
  · rintro ⟨read, below, converted, checks⟩
    obtain ⟨rfl, named, patient⟩ := checked_eq_ok.mp checks
    exact ⟨below, read, (converts fileLayer read below).mp converted, rfl, rfl, rfl, rfl, rfl, rfl, named,
      patient⟩
  · rintro ⟨below, read, converted, path, args, timeout, source, schema, flag, named, patient⟩
    refine ⟨read, below, (converts fileLayer read below).mpr converted, checked_eq_ok.mpr ?_⟩
    have same : settings = below.overriddenBy sources.overrides := by
      obtain ⟨⟨_, _, _⟩, _, _, _⟩ := settings
      simp only at path args timeout source schema flag
      rw [path, args, timeout, source, schema, flag]
      rfl
    exact ⟨same, same ▸ named, same ▸ patient⟩

end Loading

/-- A file of settings that names no compiler and gives it no time to connect. -/
def unusableFile : String :=
  "[compiler]\npath = \"\"\nargs = [\"a.dll\", \"b\"]\nconnect_timeout_secs = 0\n\n" ++
    "[generate]\ncomponent_id_from = \"file\"\n"

/-- A tree that holds nothing but this file. -/
def unusableTree : FileTree :=
  .directory [("work", .directory [("facts.toml", .file (Utf8.encode unusableFile) ⟨0, 0⟩)])]

/-- The layer that the file makes. -/
def unusableLayer : Entries :=
  let origin := some "facts.toml"
  let text (s : String) : Value := .scalar (.text s) origin
  [("compiler", .table [("path", text ""), ("args", .list [text "a.dll", text "b"] origin),
      ("connect_timeout_secs", .scalar (.int 0) origin)] origin),
    ("generate", .table [("component_id_from", text "file")] origin)]

/-- The file, and what makes up for it: a variable that gives time to connect, and a compiler that is
put over all others. -/
def sufficientSources : Sources where
  file := some ⟨"facts.toml"⟩
  environment := [("BICEP_FACTS_COMPILER__CONNECT_TIMEOUT_SECS", "5"), ("PATH", "/usr/bin"),
    ("bicep_facts_generate__CONTINUE_ON_ERROR", "yes")]
  overrides := ⟨some ⟨"./bicep"⟩, none, none, none⟩

/-- The settings of a TOML text are those of its document, whatever reads other formats. -/
theorem File.readText?_toml {foreign : File.ForeignReader} {origin : Option String} {text : String}
    {document : Json} (read : Toml.ofText? text = some document) :
    File.readText? foreign origin text .toml = some (Value.ofJson origin document).entries := by
  show (Toml.ofText? text).map _ = _
  rw [read, Option.map_some]

/-- The layer of a file that is found, is text, and writes settings. -/
theorem File.layer_of_read (foreign : File.ForeignReader) {cwd name file : Path} {tree : FileTree}
    {format : File.Format} {text : String} {entries : Entries}
    (located : File.locate cwd tree name = .ok (file, format)) (holds : tree.textAt cwd file = .ok text)
    (read : File.readText? foreign (some (Path.relativeTo cwd file).text) text format = some entries) :
    File.layer foreign cwd tree name = .ok entries := by
  -- The layer is opened in place, since its equation takes Lean very long to state.
  delta File.layer
  rewrite [located]
  dsimp only
  rewrite [holds]
  dsimp only
  rewrite [read]
  rfl

/-- The file makes its layer. -/
theorem fileLayer_unusableTree :
    sufficientSources.fileLayer ⟨"/work"⟩ unusableTree = .ok unusableLayer := by
  -- Each step of reading the file is evaluated on its own.
  have located : File.locate ⟨"/work"⟩ unusableTree ⟨"facts.toml"⟩ = .ok (⟨"/work/facts.toml"⟩, .toml) := by
    decide +kernel
  have holds : unusableTree.textAt ⟨"/work"⟩ ⟨"/work/facts.toml"⟩ = .ok unusableFile := by decide +kernel
  have read : Toml.ofText? unusableFile = some (.object [
      ("compiler", .object [("path", .text ""), ("args", .list [.text "a.dll", .text "b"]),
        ("connect_timeout_secs", .int 0)]),
      ("generate", .object [("component_id_from", .text "file")])]) := by decide +kernel
  have origin : (Path.relativeTo ⟨"/work"⟩ ⟨"/work/facts.toml"⟩).text = "facts.toml" := by decide +kernel
  have layered := File.layer_of_read sufficientSources.foreign located holds (File.readText?_toml read)
  rw [origin] at layered
  exact layered

/-- The file alone cannot be used, but higher layers replace what is unusable in it. -/
theorem layered_one_by_one_unusable : load ⟨"/work"⟩ unusableTree sufficientSources =
    .ok ⟨⟨⟨"./bicep"⟩, ["a.dll", "b"], 5⟩, ⟨.file, none, true⟩⟩ := by
  -- The file's empty path is unusable and is overridden; the variables set one more field each.
  refine (layered_one_by_one ?_ ?_ ?_).mpr ⟨unusableLayer, ⟨⟨⟨""⟩, ["a.dll", "b"], 5⟩, ⟨.file, none, true⟩⟩,
    fileLayer_unusableTree, ?_, rfl, rfl, rfl, rfl, rfl, rfl, by decide, by decide⟩
  · intro fileLayer read entry member
    obtain rfl : unusableLayer = fileLayer := Except.ok.inj (fileLayer_unusableTree.symm.trans read)
    rcases List.mem_pair.mp member with rfl | rfl
    · refine .inSection .compilerPath Field.compilerPath.ofText_home fun _ _ v inside => ?_
      rintro ⟨_, _, rfl⟩
      simp at inside
    · refine .inSection .schemaPath Field.schemaPath.ofText_home fun _ _ v inside => ?_
      rintro ⟨_, _, rfl⟩
      simp at inside
  · intro v member key found
    simp only [sufficientSources, List.mem_cons, List.not_mem_nil, or_false] at member
    rcases member with rfl | rfl | rfl
    · exact .inr ⟨.connectTimeout, by decide +kernel⟩
    · have passed : Environment.keyOf? "PATH" = none := by decide +kernel
      cases passed.symm.trans found
    · exact .inr ⟨.continueOnError, by decide +kernel⟩
  · decide +kernel
  · exact ⟨⟨_, rfl, rfl⟩, ⟨_, rfl, rfl⟩, ⟨_, rfl, rfl⟩, ⟨_, rfl, rfl⟩, .inr ⟨rfl, rfl⟩, ⟨_, rfl, rfl⟩⟩

end TemplateFacts.Settings
