import TemplateFacts.Proofs.Binary64.Numeral
import TemplateFacts.Proofs.Settings.Layered
import TemplateFacts.Proofs.Text.Split

/-!
Text settings that are given through the environment. The text of a variable is taken for a flag, else
for an integer of 64 bits, else for a float, else for the text that it is, and where a text is asked
for, flags and numbers are written out again. So a text is taken verbatim exactly if it is what would
be written for it.
-/

namespace TemplateFacts.Settings

open Binary64 (Sign withSign)

/-- The text writes an integer of 64 bits with a sign. -/
def WritesInt (t : String) (n : Int) : Prop :=
  ∃ negative sign digits, t.toList = sign ++ digits ∧ Sign negative sign ∧ digits ≠ [] ∧
    (∀ c ∈ digits, Text.isDigit c = true) ∧ n = withSign negative (Text.digitsValue digits) ∧
    Json.leastInt ≤ n ∧ n ≤ Json.greatestSigned

/-- The word for a flag. -/
def flagWord (b : Bool) : String := if b then "true" else "false"

/-- What a text is taken for, each kind of values being tried before the next one. -/
inductive TakenFor (t : String) : Scalar → Prop
  /-- The case of the word does not matter. -/
  | flag {b : Bool} (word : Text.lower t = flagWord b) : TakenFor t (.bool b)
  | int {n : Int} (noFlag : ∀ b, Text.lower t ≠ flagWord b) (writes : WritesInt t n) : TakenFor t (.int n)
  | float {x : Binary64} (noFlag : ∀ b, Text.lower t ≠ flagWord b) (noInt : ∀ n, ¬ WritesInt t n)
    (writes : Binary64.Writes t.toList x) : TakenFor t (.float x)
  | text (noFlag : ∀ b, Text.lower t ≠ flagWord b) (noInt : ∀ n, ¬ WritesInt t n)
    (noFloat : ∀ x, ¬ Binary64.Writes t.toList x) : TakenFor t (.text t)

/-- The scalar written out where a text is asked for. -/
def Scalar.written : Scalar → String
  | .unit => ""
  | .bool b => flagWord b
  | .int n => toString n
  | .float x => x.plainText
  | .text s => s

section Guess

variable {t : String} {s s' : Scalar} {n : Int} {key : String}

/-- Nothing but an integer of 64 bits is read as one. -/
theorem readInt?_eq_some : Environment.readInt? t = some n ↔ WritesInt t n := by
  constructor
  · -- The sign is split off first, and what is behind it must be digits within the bounds.
    intro reads
    obtain ⟨sign, signed, split⟩ := Binary64.sign_of_readSign t.toList
    unfold Environment.readInt? at reads
    generalize Binary64.readSign t.toList = read at reads signed split
    obtain ⟨negative, digits⟩ := read
    dsimp only at reads signed split
    cases number : Text.readNat? digits with
    | none =>
      rw [number] at reads
      cases reads
    | some m =>
      obtain ⟨nonempty, isDigits, rfl⟩ := Text.readNat?_eq_some.mp number
      rw [number] at reads
      change (if Json.leastInt ≤ withSign negative (Text.digitsValue digits) &&
        withSign negative (Text.digitsValue digits) ≤ Json.greatestSigned then
          some (withSign negative (Text.digitsValue digits)) else none) = some n at reads
      split at reads
      · rename_i within
        obtain rfl := Option.some.inj reads
        rw [Bool.and_eq_true, decide_eq_true_eq, decide_eq_true_eq] at within
        exact ⟨negative, sign, digits, split, signed, nonempty, isDigits, rfl, within⟩
      · cases reads
  · rintro ⟨negative, sign, digits, split, signed, nonempty, isDigits, rfl, within⟩
    have number := Text.readNat?_eq_some.mpr ⟨nonempty, isDigits, rfl⟩
    rw [Environment.readInt?, split, Binary64.readSign_of_sign signed (Binary64.last_of_isDigit isDigits)]
    rw [withSign] at within ⊢
    simp only [number, within, decide_true, Bool.and_self, if_true]

/-- Each text is taken for something. -/
theorem exists_takenFor (t : String) : ∃ s, TakenFor t s := by
  -- The kinds are tried in their order.
  by_cases flag : ∃ b, Text.lower t = flagWord b
  · obtain ⟨b, word⟩ := flag
    exact ⟨_, .flag word⟩
  · have noFlag := not_exists.mp flag
    by_cases int : ∃ n, WritesInt t n
    · obtain ⟨n, writes⟩ := int
      exact ⟨_, .int noFlag writes⟩
    · have noInt := not_exists.mp int
      by_cases float : ∃ x, Binary64.Writes t.toList x
      · obtain ⟨x, writes⟩ := float
        exact ⟨_, .float noFlag noInt writes⟩
      · exact ⟨_, .text noFlag noInt (not_exists.mp float)⟩

/-- The value of a text is what it is taken for, but that a text is cut into a list for one of the
settings. -/
theorem valueOf_of_takenFor (taken : TakenFor t s) (key : String) : Environment.valueOf key t =
    if key = Environment.listKey ∧ s = .text t then
      .list ((Text.split ' ' t).map fun piece => .scalar (.text piece) (some Environment.originName))
        (some Environment.originName)
    else .scalar s (some Environment.originName) := by
  -- A form that does not write the text is not read from it, and the next one is tried.
  have isNone {α : Type} {read : Option α} {writes : α → Prop} (reads : ∀ x, read = some x ↔ writes x)
      (no : ∀ x, ¬ writes x) : read = none :=
    Option.eq_none_iff_forall_ne_some.mpr fun x found => no x ((reads x).mp found)
  have noWord (noFlag : ∀ b, Text.lower t ≠ flagWord b) :
      Text.lower t ≠ "true" ∧ Text.lower t ≠ "false" := ⟨noFlag true, noFlag false⟩
  cases taken with
  | @flag b word => cases b <;> simp [Environment.valueOf, word, flagWord]
  | int noFlag writes => simp [Environment.valueOf, noWord noFlag, readInt?_eq_some.mpr writes]
  | float noFlag noInt writes =>
    simp [Environment.valueOf, noWord noFlag, isNone (fun _ => readInt?_eq_some) noInt,
      Binary64.ofText?_eq_some.mpr writes]
  | text noFlag noInt noFloat =>
    simp [Environment.valueOf, noWord noFlag, isNone (fun _ => readInt?_eq_some) noInt,
      isNone (fun _ => Binary64.ofText?_eq_some) noFloat]

/-- No text is taken for two things. -/
theorem TakenFor.unique (taken : TakenFor t s) (taken' : TakenFor t s') : s' = s := by
  -- The value made of a text is one, and it is read back from its scalar.
  have other : "" ≠ Environment.listKey := by decide
  have same := (valueOf_of_takenFor taken' "").symm.trans (valueOf_of_takenFor taken "")
  rw [if_neg (fun both => other both.1), if_neg (fun both => other both.1)] at same
  exact (Value.scalar.inj same).1

/-- Something stands before the point of a number that is written out. -/
theorem positional_ne_nil {digits : List Char} (nonempty : digits ≠ []) (point : Int) :
    (Binary64.positional digits point).1 ≠ [] := by
  -- The point goes inside the digits, before them or behind them, and none is taken away.
  unfold Binary64.positional
  split
  · simp
  · rename_i behind
    have some : point.toNat ≠ 0 := by omega
    simp [List.take_eq_nil_iff, some, nonempty]

/-- What ends with something is not nothing. -/
theorem append_ne_empty {front behind : String} (some : behind ≠ "") : front ++ behind ≠ "" :=
  fun none => some (String.append_eq_empty_iff.mp none).2

/-- A number is never written as nothing. -/
theorem plainText_ne_empty (x : Binary64) : x.plainText ≠ "" := by
  -- A sign, a word or digits.
  unfold Binary64.plainText
  split
  · decide
  · exact append_ne_empty (by decide)
  · exact append_ne_empty (by decide)
  · rename_i negative significand exponent _
    generalize Binary64.shortest significand exponent = d
    have written := positional_ne_nil (Nat.toDigits_ne_nil (b := 10) (n := d.digits))
      ((Nat.toDigits 10 d.digits).length + d.power)
    refine append_ne_empty fun none => written ?_
    exact (List.append_eq_nil_iff.mp (String.ofList_eq_empty_iff.mp none)).1

/-- An integer is never written as nothing. -/
theorem intText_ne_empty (n : Int) : toString n ≠ "" := by
  -- Digits, with a sign before them when the number is negative.
  cases n with
  | ofNat n => exact Nat.repr_ne_empty
  | negSucc n =>
    show "-" ++ (n + 1).repr ≠ ""
    exact append_ne_empty Nat.repr_ne_empty

/-- What is taken for something else than the empty text is not written as nothing. -/
theorem written_ne_empty (taken : TakenFor t s) (nonempty : t ≠ "") : s.written ≠ "" := by
  -- Each kind of scalar is written with at least one character.
  cases taken with
  | @flag b => cases b <;> decide
  | @int n => exact intText_ne_empty n
  | @float x => exact plainText_ne_empty x
  | text => exact nonempty

/-- Where a text is asked for, what a text is taken for is written out. -/
theorem toText_valueOf (taken : TakenFor t s) (other : key ≠ Environment.listKey) (place : String) :
    (Environment.valueOf key t).toText place = .ok s.written := by
  -- Outside the list every scalar is written as a text again.
  rw [valueOf_of_takenFor taken, if_neg fun both => other both.1]
  cases taken <;> rfl

/-- Where a text may be missing, it is not. -/
theorem optional_valueOf (taken : TakenFor t s) (other : key ≠ Environment.listKey) (place : String) :
    optional Value.toText place (Environment.valueOf key t) = .ok (some s.written) := by
  rw [valueOf_of_takenFor taken, if_neg fun both => other both.1]
  cases taken <;> rfl

/-- Texts are converted to texts one by one. -/
theorem textsFrom_texts (pieces : List String) (origin : Option String) (key : String) (place : Nat) :
    Value.textsFrom key place (pieces.map fun piece => .scalar (.text piece) origin) = .ok pieces := by
  -- Each piece is a text, and the places are only named in errors.
  induction pieces generalizing place with
  | nil => rfl
  | cons piece pieces ih =>
    rw [List.map_cons, Value.textsFrom, ih]
    rfl

/-- Where a list is asked for, a text is cut at each blank, and what is taken for something else is
refused. -/
theorem toTexts_valueOf (taken : TakenFor t s) (place : String) {pieces : List String} :
    (Environment.valueOf Environment.listKey t).toTexts place = .ok pieces ↔
      s = .text t ∧ pieces = Text.split ' ' t := by
  -- Only the text that stays a text is cut into a list; anything else is a scalar there.
  rw [valueOf_of_takenFor taken]
  by_cases text : s = .text t
  · rw [if_pos ⟨rfl, text⟩, Value.toTexts, textsFrom_texts, Except.ok.injEq, and_iff_right text, eq_comm]
  · rw [if_neg fun both => text both.2]
    exact iff_of_false (fun converts => by cases converts) fun both => text both.1

end Guess

namespace Environment

/-- The environment with another text for a variable. -/
def reassign (environment : List (String × String)) (name text : String) : List (String × String) :=
  environment.map fun v => (v.1, if v.1 = name then text else v.2)

variable {environment : List (String × String)} {name t : String} {field other : Field}

/-- The variables are the same. -/
theorem names_reassign (text : String) :
    ((reassign environment name text).map fun v => Text.lower v.1) =
      environment.map fun v => Text.lower v.1 := by
  -- Only the values of variables are changed.
  rw [reassign, List.map_map]
  rfl

/-- What is set does not depend on the texts of the variables. -/
theorem setsFields_reassign (sets : SetsFields environment) (name text : String) :
    SetsFields (reassign environment name text) := by
  -- Only values change, and the condition is about names.
  intro v member
  obtain ⟨v, inside, rfl⟩ := List.mem_map.mp member
  exact sets v inside

section Given

variable (apart : (environment.map fun v => Text.lower v.1).Nodup) (member : (name, t) ∈ environment)
  (lowered : Text.lower name = variableOf field)

include apart member lowered

/-- A setting is given what its variable stands for. -/
theorem given?_of_mem : given? environment field = some (valueOf field.key t) := by
  -- No two variables have one spelling in small letters, so the one found is the one meant.
  have here : (environment.find? fun v => Text.lower v.1 == variableOf field).isSome = true :=
    List.find?_isSome.mpr ⟨_, member, beq_iff_eq.mpr lowered⟩
  obtain ⟨v, found⟩ := Option.isSome_iff_exists.mp here
  have lowered' : Text.lower v.1 = variableOf field := by simpa using List.find?_some found
  have one : v = (name, t) :=
    List.inj_on_of_nodup_map apart (List.mem_of_find?_eq_some found) member (lowered'.trans lowered.symm)
  rw [given?, found, one]
  rfl

/-- Another text for a variable gives another value to its setting, and leaves all others alone. -/
theorem given?_reassign (text : String) (other : Field) :
    given? (reassign environment name text) other =
      if other = field then some (valueOf field.key text) else given? environment other := by
  split
  · rename_i same
    subst same
    refine given?_of_mem (by rw [names_reassign]; exact apart) ?_ lowered
    exact List.mem_map.mpr ⟨_, member, by simp⟩
  · rename_i apart'
    -- No two settings have one variable.
    have unlike (v : String × String) (named : Text.lower v.1 = variableOf other) : v.1 ≠ name := by
      rintro rfl
      have keys := (keyOf?_of_lower named).symm.trans (keyOf?_of_lower lowered)
      exact apart' (key_injective (Option.some.inj keys))
    simp only [given?, reassign, List.find?_map, Option.map_map]
    show Option.map _ (environment.find? fun v => Text.lower v.1 == variableOf other) = _
    cases found : environment.find? fun v => Text.lower v.1 == variableOf other with
    | none => simp only [Option.map_none]
    | some v =>
      have named : Text.lower v.1 = variableOf other := by simpa using List.find?_some found
      simp [unlike v named]

end Given

end Environment

/-- The sources with another text for a variable. -/
def Sources.reassigned (sources : Sources) (name text : String) : Sources :=
  { sources with environment := Environment.reassign sources.environment name text }

/-- The settings with another compiler. -/
def withPath (settings : Settings) (path : String) : Settings :=
  { settings with compiler := { settings.compiler with path := ⟨path⟩ } }

/-- The settings with other arguments for the compiler. -/
def withArgs (settings : Settings) (args : List String) : Settings :=
  { settings with compiler := { settings.compiler with args := args } }

/-- The settings with another contract. -/
def withSchemaPath (settings : Settings) (path : String) : Settings :=
  { settings with generate := { settings.generate with schemaPath := some ⟨path⟩ } }

/-- The value that a setting has is converted to what stands among the settings. -/
def Field.Reads (value : Option Value) (settings : Settings) : Field → Prop
  | .compilerPath => Takes (Value.toText Field.compilerPath.key) value settings.compiler.path.text
  | .compilerArgs => Takes (Value.toTexts Field.compilerArgs.key) value settings.compiler.args
  | .connectTimeout => Takes (Value.toNat Field.connectTimeout.key) value settings.compiler.connectTimeout
  | .componentIdFrom => Takes Value.toSource value settings.generate.componentIdFrom
  | .schemaPath => Takes (optional Value.toText Field.schemaPath.key) value
        (settings.generate.schemaPath.map Path.text) ∨ value = none ∧ settings.generate.schemaPath = none
  | .continueOnError => Takes (Value.toBool Field.continueOnError.key) value settings.generate.continueOnError

section Overrides

variable {overrides : Overrides} {settings : Settings}

/-- Overrides that name no compiler leave the compiler alone. -/
theorem overriddenBy_withPath (free : overrides.compilerPath = none) (path : String) :
    (settings.withPath path).overriddenBy overrides = (settings.overriddenBy overrides).withPath path := by
  -- Without an override the path goes through.
  simp only [overriddenBy, withPath, free, Option.getD_none]

/-- No override gives arguments. -/
theorem overriddenBy_withArgs (args : List String) :
    (settings.withArgs args).overriddenBy overrides = (settings.overriddenBy overrides).withArgs args := rfl

/-- Overrides that name no contract leave the contract alone. -/
theorem overriddenBy_withSchemaPath (free : overrides.schemaPath = none) (path : String) :
    (settings.withSchemaPath path).overriddenBy overrides =
      (settings.overriddenBy overrides).withSchemaPath path := by
  -- Without an override the path goes through.
  simp only [overriddenBy, withSchemaPath, free]
  rfl

end Overrides

section Reads

variable {value : Option Value} {settings : Settings} {field : Field}

/-- All settings are converted exactly if each is. -/
theorem converted_iff {value : Field → Option Value} :
    Converted value settings ↔ ∀ field : Field, field.Reads (value field) settings := by
  -- One clause for each field, in the same order.
  constructor
  · rintro ⟨path, args, timeout, source, schema, flag⟩ field
    cases field <;> assumption
  · intro reads
    exact ⟨reads .compilerPath, reads .compilerArgs, reads .connectTimeout, reads .componentIdFrom,
      reads .schemaPath, reads .continueOnError⟩

theorem reads_withPath {path : String} (other : field ≠ .compilerPath) (reads : field.Reads value settings) :
    field.Reads value (settings.withPath path) := by
  -- Every other field looks at another part of the settings.
  cases field <;> first | exact absurd rfl other | exact reads

theorem reads_withArgs {args : List String} (other : field ≠ .compilerArgs)
    (reads : field.Reads value settings) : field.Reads value (settings.withArgs args) := by
  -- Every other field looks at another part of the settings.
  cases field <;> first | exact absurd rfl other | exact reads

theorem reads_withSchemaPath {path : String} (other : field ≠ .schemaPath)
    (reads : field.Reads value settings) : field.Reads value (settings.withSchemaPath path) := by
  -- Every other field looks at another part of the settings.
  cases field <;> first | exact absurd rfl other | exact reads

end Reads

section Loading

variable {cwd : Path} {tree : FileTree} {sources : Sources} {settings loaded below below' : Settings}
  {fileLayer : Entries} {name t u : String} {field : Field}
  (file : ∀ fileLayer, sources.fileLayer cwd tree = .ok fileLayer → ∀ entry ∈ fileLayer, SetsFields entry)
  (environment : Environment.SetsFields sources.environment)
  (apart : (sources.environment.map fun v => Text.lower v.1).Nodup)

include file environment apart

/-- Loading succeeds exactly if each setting is converted from the value of the highest layer that gives
it one, and the settings pass the check with the overrides applied. -/
theorem load_eq_ok_iff_reads : load cwd tree sources = .ok settings ↔
    ∃ fileLayer below, sources.fileLayer cwd tree = .ok fileLayer ∧
      (∀ field : Field, field.Reads (sources.value? fileLayer field) below) ∧
      (below.overriddenBy sources.overrides).checked = .ok settings := by
  rw [load_eq_ok]
  refine exists_congr fun fileLayer => ?_
  rw [exists_and_left]
  refine and_congr_right fun read => exists_congr fun below => and_congr_left fun _ => ?_
  -- The environment is the layer above the file, and the built-in layer is below both.
  have stacked := putOver_stack (file fileLayer read) environment apart
  have value (field : Field) : field.at? (stack [builtIn, fileLayer, Environment.layer sources.environment]) =
      sources.value? fileLayer field := by
    rw [stacked.at?_eq]
    exact Option.or_none
  rw [ofValue_eq_ok stacked.sections, funext value, converted_iff]
  intro field known
  rw [value, Sources.value?]
  cases field <;> simp_all [Field.builtIn?]

variable (member : (name, t) ∈ sources.environment) (lowered : Text.lower name = Environment.variableOf field)

include member lowered

/-- Where settings load with another text for a variable, all settings but that of the variable can be
read. -/
theorem others_read (loads : load cwd tree (sources.reassigned name u) = .ok loaded) :
    ∃ fileLayer below, sources.fileLayer cwd tree = .ok fileLayer ∧
      (∀ other, other ≠ field → other.Reads (sources.value? fileLayer other) below) ∧
      (below.overriddenBy sources.overrides).checked = .ok loaded := by
  -- Both sources have the same variables and the same file.
  have file' : ∀ fileLayer, (sources.reassigned name u).fileLayer cwd tree = .ok fileLayer →
      ∀ entry ∈ fileLayer, SetsFields entry := file
  have environment' := Environment.setsFields_reassign environment name u
  have apart' : ((Environment.reassign sources.environment name u).map fun v => Text.lower v.1).Nodup := by
    rw [Environment.names_reassign]
    exact apart
  obtain ⟨fileLayer, below, read, reads, checks⟩ :=
    (load_eq_ok_iff_reads file' environment' apart').mp loads
  refine ⟨fileLayer, below, read, fun other differ => ?_, checks⟩
  have same : (sources.reassigned name u).value? fileLayer other = sources.value? fileLayer other := by
    rw [Sources.value?, Sources.value?, Sources.reassigned]
    simp only [Environment.given?_reassign apart member lowered, if_neg differ]
  rw [← same]
  exact reads other

/-- Settings load if the text of a variable is converted and all other settings are. -/
theorem load_of_others (read : sources.fileLayer cwd tree = .ok fileLayer)
    (others : ∀ other, other ≠ field → other.Reads (sources.value? fileLayer other) below')
    (here : field.Reads (some (Environment.valueOf field.key t)) below')
    (checks : (below'.overriddenBy sources.overrides).checked = .ok settings) :
    load cwd tree sources = .ok settings := by
  -- The changed field reads the variable, and every other one reads what it read before.
  refine (load_eq_ok_iff_reads file environment apart).mpr ⟨fileLayer, below', read, fun other => ?_, checks⟩
  by_cases same : other = field
  · subst same
    rw [Sources.value?, Environment.given?_of_mem apart member lowered]
    exact here
  · exact others other same

omit lowered

/-- A compiler that the environment gives is what its text is taken for, written out again. -/
theorem load_withPath {s : Scalar} (taken : TakenFor t s) (nonempty : t ≠ "")
    (lowered : Text.lower name = Environment.variableOf .compilerPath)
    (free : sources.overrides.compilerPath = none)
    (loads : load cwd tree (sources.reassigned name u) = .ok loaded) :
    load cwd tree sources = .ok (loaded.withPath s.written) := by
  -- The compiler is named by the text, as that is not empty.
  obtain ⟨fileLayer, below, read, others, checks⟩ := others_read file environment apart member lowered loads
  obtain ⟨rfl, _, patient⟩ := checked_eq_ok.mp checks
  have checks' : ((below.withPath s.written).overriddenBy sources.overrides).checked =
      .ok ((below.overriddenBy sources.overrides).withPath s.written) := by
    rw [overriddenBy_withPath free]
    exact checked_eq_ok.mpr ⟨rfl, written_ne_empty taken nonempty, patient⟩
  exact load_of_others file environment apart member lowered read
    (fun other differ => reads_withPath differ (others other differ))
    ⟨_, rfl, toText_valueOf taken (by decide) _⟩ checks'

/-- A contract that the environment gives is what its text is taken for, written out again. -/
theorem load_withSchemaPath {s : Scalar} (taken : TakenFor t s)
    (lowered : Text.lower name = Environment.variableOf .schemaPath)
    (free : sources.overrides.schemaPath = none)
    (loads : load cwd tree (sources.reassigned name u) = .ok loaded) :
    load cwd tree sources = .ok (loaded.withSchemaPath s.written) := by
  -- The check does not look at the contract.
  obtain ⟨fileLayer, below, read, others, checks⟩ := others_read file environment apart member lowered loads
  obtain ⟨rfl, named, patient⟩ := checked_eq_ok.mp checks
  have checks' : ((below.withSchemaPath s.written).overriddenBy sources.overrides).checked =
      .ok ((below.overriddenBy sources.overrides).withSchemaPath s.written) := by
    rw [overriddenBy_withSchemaPath free]
    exact checked_eq_ok.mpr ⟨rfl, named, patient⟩
  exact load_of_others file environment apart member lowered read
    (fun other differ => reads_withSchemaPath differ (others other differ))
    (.inl ⟨_, rfl, optional_valueOf taken (by decide) _⟩) checks'

/-- Arguments that the environment gives are the pieces of its text, if it is taken for a text. -/
theorem load_withArgs (taken : TakenFor t (.text t))
    (lowered : Text.lower name = Environment.variableOf .compilerArgs)
    (loads : load cwd tree (sources.reassigned name u) = .ok loaded) :
    load cwd tree sources = .ok (loaded.withArgs (Text.split ' ' t)) := by
  -- The check does not look at the arguments.
  obtain ⟨fileLayer, below, read, others, checks⟩ := others_read file environment apart member lowered loads
  obtain ⟨rfl, named, patient⟩ := checked_eq_ok.mp checks
  have checks' : ((below.withArgs (Text.split ' ' t)).overriddenBy sources.overrides).checked =
      .ok ((below.overriddenBy sources.overrides).withArgs (Text.split ' ' t)) := by
    rw [overriddenBy_withArgs]
    exact checked_eq_ok.mpr ⟨rfl, named, patient⟩
  exact load_of_others file environment apart member lowered read
    (fun other differ => reads_withArgs differ (others other differ))
    ⟨_, rfl, (toTexts_valueOf taken _).mpr ⟨rfl, rfl⟩⟩ checks'

/-- Arguments that the environment gives are taken for a text if they can be used at all. -/
theorem text_of_load {s : Scalar} (taken : TakenFor t s)
    (lowered : Text.lower name = Environment.variableOf .compilerArgs)
    (loads : load cwd tree sources = .ok settings) : s = .text t := by
  -- The list is read from this variable, and it converts only when it stayed a text.
  obtain ⟨fileLayer, below, read, reads, checks⟩ := (load_eq_ok_iff_reads file environment apart).mp loads
  obtain ⟨v, given, converts⟩ : Takes _ _ below.compiler.args := reads .compilerArgs
  rw [Sources.value?, Environment.given?_of_mem apart member lowered, Option.some_or] at given
  obtain rfl := Option.some.inj given
  exact ((toTexts_valueOf taken _).mp converts).1

/--
What the environment gives for a text setting is what its text is taken for, written out again. Each
text is taken for one thing. Where settings load with some other text for the variable, they load with
a compiler or a contract that is written so, and hence with the text itself exactly if it is written in
this way. As arguments a text is cut at each blank, if it is taken for a text; settings with any other
text do not load.
-/
theorem verbatim_iff_written (nonempty : t ≠ "")
    (loads : load cwd tree (sources.reassigned name u) = .ok loaded) :
    ∃ s, (∀ s', TakenFor t s' ↔ s' = s) ∧
      (Text.lower name = Environment.variableOf .compilerPath → sources.overrides.compilerPath = none →
        load cwd tree sources = .ok (loaded.withPath s.written) ∧
          (load cwd tree sources = .ok (loaded.withPath t) ↔ s.written = t)) ∧
      (Text.lower name = Environment.variableOf .schemaPath → sources.overrides.schemaPath = none →
        load cwd tree sources = .ok (loaded.withSchemaPath s.written) ∧
          (load cwd tree sources = .ok (loaded.withSchemaPath t) ↔ s.written = t)) ∧
      (Text.lower name = Environment.variableOf .compilerArgs →
        ((∃ settings, load cwd tree sources = .ok settings) ↔ s = .text t) ∧
          (s = .text t → ∃ args, load cwd tree sources = .ok (loaded.withArgs args) ∧ args ≠ [] ∧
            (∀ arg ∈ args, ' ' ∉ arg.toList) ∧ Text.join " " args = t)) := by
  -- The scalar is what the text is taken for; each setting then reads that scalar in its own way.
  obtain ⟨s, taken⟩ := exists_takenFor t
  refine ⟨s, fun s' => ⟨taken.unique, fun same => same ▸ taken⟩, fun lowered free => ?_, fun lowered free => ?_,
    fun lowered => ?_⟩
  · have gives := load_withPath file environment apart member taken nonempty lowered free loads
    refine ⟨gives, ?_⟩
    rw [gives]
    simp [Settings.withPath]
  · have gives := load_withSchemaPath file environment apart member taken lowered free loads
    refine ⟨gives, ?_⟩
    rw [gives]
    simp [Settings.withSchemaPath]
  · have gives (text : s = .text t) := load_withArgs file environment apart member (text ▸ taken) lowered loads
    refine ⟨⟨fun ⟨settings, loads⟩ => ?_, fun text => ⟨_, gives text⟩⟩, fun text => ?_⟩
    · exact text_of_load file environment apart member taken lowered loads
    · exact ⟨_, gives text, Text.split_ne_nil ' ' t, fun arg inside => Text.separator_notMem inside,
        Text.join_singleton_split ' ' t⟩

end Loading

/-- The sources that consist of one variable. -/
def Sources.ofVariable (name text : String) : Sources where
  file := none
  environment := [(name, text)]
  overrides := ⟨none, none, none, none⟩

/-- The settings that are built in. -/
def plainSettings : Settings := ⟨⟨⟨"bicep"⟩, [], 10⟩, ⟨.resource, none, false⟩⟩

/-- Texts are not taken verbatim: a compiler loses the zeros before its name, a contract its exponent,
and a single argument that is a number cannot be given at all. -/
theorem texts_rewritten :
    load ⟨"/work"⟩ (.directory []) (.ofVariable "BICEP_FACTS_COMPILER__PATH" "007") =
      .ok (plainSettings.withPath "7") ∧
    load ⟨"/work"⟩ (.directory []) (.ofVariable "BICEP_FACTS_GENERATE__SCHEMA_PATH" "1e3") =
      .ok (plainSettings.withSchemaPath "1000") ∧
    load ⟨"/work"⟩ (.directory []) (.ofVariable "BICEP_FACTS_COMPILER__ARGS" "5") =
      .error (.config (.misplaced (.scalar (.int 5)) "a sequence")) := by
  -- A number with zeros in front, one in scientific form, and one where a list is wanted.
  decide +kernel

/-- Sources with a compiler that looks like a number, beside other variables. -/
def numberSources : Sources where
  file := none
  environment := [("PATH", "/usr/bin"), ("BICEP_FACTS_COMPILER__PATH", "1e3"),
    ("bicep_facts_generate__CONTINUE_ON_ERROR", "yes")]
  overrides := ⟨none, none, none, none⟩

/-- The number is written out without its exponent. -/
theorem verbatim_iff_written_number :
    ("BICEP_FACTS_COMPILER__PATH", "1e3") ∈ numberSources.environment ∧
    load ⟨"/work"⟩ (.directory []) (numberSources.reassigned "BICEP_FACTS_COMPILER__PATH" "bicep") =
      .ok ⟨⟨⟨"bicep"⟩, [], 10⟩, ⟨.resource, none, true⟩⟩ ∧
    load ⟨"/work"⟩ (.directory []) numberSources = .ok ⟨⟨⟨"1000"⟩, [], 10⟩, ⟨.resource, none, true⟩⟩ ∧
    load ⟨"/work"⟩ (.directory []) numberSources ≠ .ok ⟨⟨⟨"1e3"⟩, [], 10⟩, ⟨.resource, none, true⟩⟩ := by
  -- The text is a number in scientific form, which is written back as four digits.
  have member : ("BICEP_FACTS_COMPILER__PATH", "1e3") ∈ numberSources.environment := by
    simp [numberSources]
  have loads : load ⟨"/work"⟩ (.directory []) (numberSources.reassigned "BICEP_FACTS_COMPILER__PATH" "bicep") =
      .ok ⟨⟨⟨"bicep"⟩, [], 10⟩, ⟨.resource, none, true⟩⟩ := by decide +kernel
  have file : ∀ fileLayer, numberSources.fileLayer ⟨"/work"⟩ (.directory []) = .ok fileLayer →
      ∀ entry ∈ fileLayer, SetsFields entry := by
    intro fileLayer read entry inside
    obtain rfl : [] = fileLayer := Except.ok.inj read
    cases inside
  have environment : Environment.SetsFields numberSources.environment := by
    intro v inside key found
    simp only [numberSources, List.mem_cons, List.not_mem_nil, or_false] at inside
    rcases inside with rfl | rfl | rfl
    · have passed : Environment.keyOf? "PATH" = none := by decide +kernel
      cases passed.symm.trans found
    · exact .inr ⟨.compilerPath, by decide +kernel⟩
    · exact .inr ⟨.continueOnError, by decide +kernel⟩
  have digit {c : Char} (isDigit : Text.isDigit c = true) : ∀ d ∈ [c], Text.isDigit d = true :=
    List.forall_mem_singleton.mpr isDigit
  have power : Binary64.Exponent ['e', '3'] 3 :=
    .power (.inl rfl) .none (List.cons_ne_nil '3' []) (digit rfl)
  have writes : Binary64.Writes "1e3".toList (.ofDigits false ['1'] 3) :=
    .number .none (.whole (List.cons_ne_nil '1' []) (digit rfl) power)
  have noInt : ∀ n, ¬ WritesInt "1e3" n := fun n int => by
    have none : Environment.readInt? "1e3" = none := by decide
    cases none.symm.trans (readInt?_eq_some.mpr int)
  have noFlag : ∀ b, Text.lower "1e3" ≠ flagWord b := by decide +kernel
  obtain ⟨s, only, path, _⟩ := verbatim_iff_written file environment (by decide +kernel) member (by decide) loads
  obtain rfl := (only _).mp (.float noFlag noInt writes)
  obtain ⟨gives, verbatim⟩ := path (by decide +kernel) rfl
  have written : (Binary64.ofDigits false ['1'] 3).plainText = "1000" := by decide +kernel
  rw [Scalar.written, written] at gives verbatim
  exact ⟨member, loads, gives, fun same => absurd (verbatim.mp same) (by decide)⟩

end TemplateFacts.Settings
