import TemplateFacts.Proofs.Json.Record
import TemplateFacts.Settings.Layers

/-!
What stands under the keys of settings when layers are put over one another: the value of the last
layer that sets it, whatever else the layers set beside it.
-/

namespace TemplateFacts.Settings

/-- The settings that are documented. -/
inductive Field where
  | compilerPath
  | compilerArgs
  | connectTimeout
  | componentIdFrom
  | schemaPath
  | continueOnError
deriving DecidableEq, Repr

namespace Field

/-- The section that a setting stands in. -/
def home : Field → String
  | .compilerPath | .compilerArgs | .connectTimeout => "compiler"
  | .componentIdFrom | .schemaPath | .continueOnError => "generate"

/-- The name of a setting in its section. -/
def name : Field → String
  | .compilerPath => "path"
  | .compilerArgs => "args"
  | .connectTimeout => "connect_timeout_secs"
  | .componentIdFrom => "component_id_from"
  | .schemaPath => "schema_path"
  | .continueOnError => "continue_on_error"

/-- The key of a setting. -/
def key (field : Field) : String := field.home ++ "." ++ field.name

/-- The key of a setting leads into its section, and there to its name. -/
theorem ofText_key (field : Field) : Key.ofText field.key = ⟨field.home, [.name field.name]⟩ := by
  -- Each field's key is read by evaluation.
  cases field <;> decide +kernel

/-- The name of a section leads to that section. -/
theorem ofText_home (field : Field) : Key.ofText field.home = ⟨field.home, []⟩ := by
  -- Each section's key is read by evaluation.
  cases field <;> decide +kernel

/-- Settings are told apart by their names. -/
theorem eq_of_name {field other : Field} (name : field.name = other.name) : field = other := by
  cases field <;> cases other <;> first | rfl | exact absurd name (by decide)

end Field

section Entries

variable {name key : String} {v : Value} {entries : Entries}

/-- An entry that is set is found, and all others are found as before. -/
theorem lookup_putEntry (key name : String) (v : Value) (entries : Entries) :
    (putEntry key v entries).lookup name = if name = key then some v else entries.lookup name := by
  -- By induction on the entries, up to the one under the key.
  induction entries with
  | nil => rw [putEntry, Json.lookup_cons]
  | cons entry rest ih =>
    obtain ⟨other, kept⟩ := entry
    rw [putEntry]
    by_cases same : other = key
    · subst same
      rw [if_pos (beq_self_eq_true other), Json.lookup_cons, Json.lookup_cons]
      split <;> rfl
    · rw [if_neg (fun equal => same (beq_iff_eq.mp equal)), Json.lookup_cons, Json.lookup_cons, ih]
      split
      · rename_i found
        rw [if_neg (found ▸ same)]
      · rfl

/-- An entry that is set is the new one, or was there before. -/
theorem mem_putEntry {entry : String × Value} (member : entry ∈ putEntry key v entries) :
    entry = (key, v) ∨ entry ∈ entries := by
  -- The entry of that key is replaced, or the new one comes last.
  induction entries with
  | nil => exact .inl (List.mem_singleton.mp member)
  | cons first rest ih =>
    rw [putEntry] at member
    split at member
    · exact (List.mem_cons.mp member).imp_right (List.mem_cons_of_mem first)
    · rcases List.mem_cons.mp member with rfl | later
      · exact .inr List.mem_cons_self
      · exact (ih later).imp_right (List.mem_cons_of_mem first)

/-- The value that is set last under a name. -/
def lastUnder (name : String) (entries : Entries) : Option Value := entries.reverse.lookup name

/-- An entry gives way to those behind it. -/
theorem lastUnder_cons (name : String) (entry : String × Value) (entries : Entries) :
    lastUnder name (entry :: entries) =
      (lastUnder name entries).or (if name = entry.1 then some entry.2 else none) := by
  -- The last entry of a name is looked for behind the first one before the first one is.
  rw [lastUnder, List.reverse_cons, List.lookup_append, ← lastUnder]
  obtain ⟨held, kept⟩ := entry
  rw [Json.lookup_cons]
  rfl

end Entries

/-- A table. -/
def Value.IsTable (v : Value) : Prop := ∃ entries origin, v = .table entries origin

section Tables

variable {name key other : String} {v target : Value} {entries : Entries} {origin : Option String}

/-- What is no table holds nothing, and neither does the empty table in its place. -/
theorem Value.get?_asTable (name : String) (v : Value) : v.asTable.get? name = v.get? name := by
  cases v <;> rfl

/-- Setting a key puts something under it, and what stands beside it stays. -/
theorem get?_setKey (key name : String) (target v : Value) :
    (setKey key target v).get? name =
      if name = key then
        some (match v with
          | .table entries _ => setKeys ((target.get? key).getD .bare) entries
          | v => v)
      else target.get? name := by
  -- A table is put over what stands under its key, and everything else replaces it.
  rw [← target.get?_asTable name]
  cases v with
  | scalar s origin => exact lookup_putEntry key name (.scalar s origin) target.asTable.entries
  | list items origin => exact lookup_putEntry key name (.list items origin) target.asTable.entries
  | table entries origin =>
    exact lookup_putEntry key name (setKeys ((target.get? key).getD .bare) entries) target.asTable.entries

/-- A value that is no table is set as it is. -/
theorem get?_setKey_plain (plain : ¬ v.IsTable) (key name : String) (target : Value) :
    (setKey key target v).get? name = if name = key then some v else target.get? name := by
  -- A plain value replaces what stood there instead of being merged with it.
  rw [get?_setKey]
  cases v with
  | table entries origin => exact absurd ⟨entries, origin, rfl⟩ plain
  | scalar => rfl
  | list => rfl

/-- Setting a key gives a table. -/
theorem isTable_setKey (key : String) (target v : Value) : (setKey key target v).IsTable := by
  cases v <;> exact ⟨_, _, rfl⟩

/-- Setting keys of a table gives a table. -/
theorem isTable_setKeys (table : target.IsTable) (entries : Entries) :
    (setKeys target entries).IsTable := by
  -- Each key is put into a table, and a table is left.
  induction entries generalizing target with
  | nil => exact table
  | cons entry rest ih =>
    obtain ⟨key, v⟩ := entry
    exact ih (isTable_setKey key target v)

/-- Some keys are set one by one: under a name stands the value that is set last, if none is a table,
and else what stood there before. -/
theorem get?_setKeys (plain : ∀ v, (name, v) ∈ entries → ¬ v.IsTable) (target : Value) :
    (setKeys target entries).get? name = (lastUnder name entries).or (target.get? name) := by
  -- By induction on the entries, the later of which win.
  induction entries generalizing target with
  | nil => rfl
  | cons entry rest ih =>
    obtain ⟨key, v⟩ := entry
    rw [setKeys, ih (fun v member => plain v (List.mem_cons_of_mem _ member)), lastUnder_cons,
      Option.or_assoc, setEntry]
    congr 1
    by_cases same : name = key
    · subst same
      rw [get?_setKey_plain (plain v List.mem_cons_self)]
      simp
    · rw [get?_setKey, if_neg same, if_neg same, Option.none_or]

/-- Changing what stands under a key leaves alone what stands beside it. -/
theorem get?_changeKey (key name : String) (change : Value → Value) (target : Value) :
    (changeKey key change target).get? name =
      if name = key then some (change ((target.get? key).getD .nothing)) else target.get? name := by
  -- Something that is no table is taken for an empty one.
  rw [← target.get?_asTable name, ← target.get?_asTable key]
  exact lookup_putEntry key name _ _

/-- A key leaves alone what stands beside its first name. -/
theorem get?_setAt_other {key : Key} (other : name ≠ key.first) (v target : Value) :
    (setAt key v target).get? name = target.get? name := by
  -- A key of one step is put there, one of more steps changes the table below it.
  obtain ⟨first, rest⟩ := key
  cases rest with
  | nil =>
    rw [setAt, setSteps, get?_setKey, if_neg other, Value.get?_asTable]
  | cons step rest =>
    have further : setAt ⟨first, step :: rest⟩ v target =
        changeKey first (setSteps v (step :: rest)) target := rfl
    rw [further, get?_changeKey, if_neg other]

end Tables

section Layers

/-- What a table holds for a setting. -/
def Field.at? (field : Field) (table : Value) : Option Value :=
  (table.get? field.home).bind (·.get? field.name)

/-- The value that an entry of a layer sets for a setting: it stands under the setting's own key, or
in a table under the key of its section. -/
def Field.within? (field : Field) (entry : String × Value) : Option Value :=
  let key := Key.ofText entry.1
  if key.first = field.home then
    match key.rest with
    | [] => lastUnder field.name entry.2.entries
    | [.name name] => if name = field.name then some entry.2 else none
    | _ => none
  else none

/-- The value that a layer sets for a setting, the last one if there are several. -/
def Field.given? (field : Field) (layer : Entries) : Option Value :=
  layer.reverse.findSome? field.within?

/-- A key leads beside all settings: into no section, or to another name in one. -/
def Key.Beside (key : Key) : Prop :=
  ∀ field : Field, field.home = key.first → ∃ name, key.rest = [.name name] ∧ name ≠ field.name

/-- What an entry of a layer sets, as far as it concerns sections, are settings: no value stands in
the place of a section, and no table in that of a setting. -/
inductive SetsFields : String × Value → Prop
  | inSection {key : String} {entries : Entries} {origin : Option String} (field : Field)
    (leads : Key.ofText key = ⟨field.home, []⟩)
    (plain : ∀ other : Field, other.home = field.home → ∀ v, (other.name, v) ∈ entries → ¬ v.IsTable) :
    SetsFields (key, .table entries origin)
  | single {key : String} {v : Value} (field : Field)
    (leads : Key.ofText key = ⟨field.home, [.name field.name]⟩) (plain : ¬ v.IsTable) : SetsFields (key, v)
  | beside {key : String} {v : Value} (beside : (Key.ofText key).Beside) : SetsFields (key, v)

/-- Every section of a table is a table. -/
def HasSections (table : Value) : Prop :=
  ∀ field : Field, ∃ section', table.get? field.home = some section' ∧ section'.IsTable

/-- A table comes about from another one by setting some settings. -/
structure PutOver (set : Field → Option Value) (table changed : Value) : Prop where
  sections : HasSections changed
  at?_eq : ∀ field : Field, field.at? changed = (set field).or (field.at? table)

variable {key : String} {v table : Value} {entry : String × Value} {entries layer : Entries}
  {origin : Option String} {field : Field}

/-- A section is put over the section that is there, setting by setting. -/
theorem putOver_section (sections : HasSections table) (leads : Key.ofText key = ⟨field.home, []⟩)
    (plain : ∀ other : Field, other.home = field.home → ∀ v, (other.name, v) ∈ entries → ¬ v.IsTable) :
    PutOver (·.within? (key, .table entries origin)) table
      (setAt (Key.ofText key) (.table entries origin) table) := by
  obtain ⟨held, found, isTable⟩ := sections field
  have set (name : String) : (setAt ⟨field.home, []⟩ (.table entries origin) table).get? name =
      if name = field.home then some (setKeys held entries) else table.get? name := by
    rw [setAt, setSteps, get?_setKey, Value.get?_asTable, Value.get?_asTable, found]
    rfl
  rw [leads]
  -- The section stays a table, and its settings are found in what is put over it.
  refine ⟨fun other => ?_, fun other => ?_⟩
  · rw [set]
    split
    · exact ⟨_, rfl, isTable_setKeys isTable entries⟩
    · exact sections other
  · rw [Field.at?, Field.at?, set, Field.within?, leads]
    by_cases home : other.home = field.home
    · rw [if_pos home, if_pos home.symm, home, found]
      exact get?_setKeys (plain other home) held
    · rw [if_neg home, if_neg (Ne.symm home), Option.none_or]

/-- A key with a name in a section sets what stands under this name there, and nothing else. -/
theorem get?_setAt_single (first name other : String) (v table : Value) :
    (setAt ⟨first, [.name name]⟩ v table).get? other =
      if other = first then
        some (setKey name ((table.get? first).getD .nothing).asTable v) else table.get? other :=
  get?_changeKey first other _ table

/-- A setting is put into its section. -/
theorem putOver_single (sections : HasSections table)
    (leads : Key.ofText key = ⟨field.home, [.name field.name]⟩) (plain : ¬ v.IsTable) :
    PutOver (·.within? (key, v)) table (setAt (Key.ofText key) v table) := by
  obtain ⟨held, found, -⟩ := sections field
  rw [leads]
  -- Only one setting of the section changes.
  refine ⟨fun other => ?_, fun other => ?_⟩
  · rw [get?_setAt_single]
    split
    · exact ⟨_, rfl, isTable_setKey _ _ _⟩
    · exact sections other
  · rw [Field.at?, Field.at?, get?_setAt_single, Field.within?, leads]
    by_cases home : other.home = field.home
    · rw [if_pos home, if_pos home.symm, home, found, Option.bind_some, get?_setKey_plain plain,
        Value.get?_asTable]
      by_cases name : field.name = other.name
      · simp [name]
      · rw [if_neg (Ne.symm name)]
        simp [name]
    · rw [if_neg home, if_neg (Ne.symm home), Option.none_or]

/-- What leads beside all settings changes none of them. -/
theorem putOver_beside (sections : HasSections table) (beside : (Key.ofText key).Beside) :
    PutOver (·.within? (key, v)) table (setAt (Key.ofText key) v table) := by
  have single {name : String} (rest : (Key.ofText key).rest = [.name name]) :
      Key.ofText key = ⟨(Key.ofText key).first, [.name name]⟩ := by rw [← rest]
  -- The other key shares a section with settings, or nothing at all.
  refine ⟨fun field => ?_, fun field => ?_⟩
  · by_cases home : field.home = (Key.ofText key).first
    · obtain ⟨name, rest, -⟩ := beside field home
      rw [single rest, get?_setAt_single, if_pos home]
      exact ⟨_, rfl, isTable_setKey _ _ _⟩
    · rw [get?_setAt_other home]
      exact sections field
  · by_cases home : field.home = (Key.ofText key).first
    · obtain ⟨held, found, -⟩ := sections field
      obtain ⟨name, rest, other⟩ := beside field home
      rw [Field.at?, Field.at?, single rest, get?_setAt_single, if_pos home, Field.within?, single rest,
        ← home, found, Option.bind_some, get?_setKey, if_neg (Ne.symm other), Value.get?_asTable]
      simp [other]
    · rw [Field.at?, get?_setAt_other home, Field.within?, if_neg (Ne.symm home), Option.none_or,
        Field.at?]

/-- An entry of a layer sets what it sets, and leaves the other settings alone. -/
theorem putOver_setAt (sections : HasSections table) (sets : SetsFields entry) :
    PutOver (·.within? entry) table (setAt (Key.ofText entry.1) entry.2 table) := by
  -- The three ways to set fields, each by its own lemma.
  cases sets with
  | inSection field leads plain => exact putOver_section sections leads plain
  | single field leads plain => exact putOver_single sections leads plain
  | beside beside => exact putOver_beside sections beside

/-- A layer that is put over a table sets what it sets, and leaves the other settings alone. -/
theorem putOver_putLayer (sections : HasSections table) (sets : ∀ entry ∈ layer, SetsFields entry) :
    PutOver (·.given? layer) table (putLayer table layer) := by
  -- Entry by entry, and of two that set one field the later is found first.
  induction layer generalizing table with
  | nil => exact ⟨sections, fun _ => rfl⟩
  | cons entry layer ih =>
    obtain ⟨first, later⟩ := List.forall_mem_cons.mp sets
    have set := putOver_setAt sections first
    have behind := ih set.sections later
    refine ⟨behind.sections, fun field => ?_⟩
    have given : field.given? (entry :: layer) = (field.given? layer).or (field.within? entry) := by
      rw [Field.given?, List.reverse_cons, List.findSome?_append, ← Field.given?, List.findSome?_singleton]
    rw [putLayer, List.foldl_cons, ← putLayer, behind.at?_eq, set.at?_eq, given, Option.or_assoc]

end Layers

end TemplateFacts.Settings
