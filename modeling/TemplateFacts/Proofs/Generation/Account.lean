import TemplateFacts.Proofs.Generation.Turns
import TemplateFacts.Proofs.Outcome

/-!
The account of a run: every source up to the failure that ends the run is written or passed over, in
order, and the result says which. Sources behind that failure play no part.
-/

namespace TemplateFacts

/-- A failure does not speak of a number of files. -/
def Error.IsSingle (e : Error) : Prop := ∀ failed total, e ≠ .filesFailed failed total

/-- A failure that concerns one file only does not speak of a number of files. -/
theorem Error.isSingle_of_isFileScoped {e : Error} (oneFile : e.isFileScoped = true) : e.IsSingle := by
  -- Only the summary of a run counts files, and it belongs to none of them.
  rintro failed total rfl
  cases oneFile

/-- A failure of input or output does not speak of a number of files. -/
theorem Error.isSingle_io (fault : IoFault) : (Error.io fault).IsSingle := by
  intro failed total same
  cases same

/-- The answers of a compiler do not speak of a number of files. -/
structure Compiler.Client.IsSingle {σ : Type} (client : Client σ) : Prop where
  version {e : Error} {compiler asked : σ} (fails : client.version compiler = (.error e, asked)) : e.IsSingle
  describe {file : Path} {e : Error} {compiler asked : σ}
    (fails : client.describe file compiler = (.error e, asked)) : e.IsSingle

namespace Generation

open Compiler (Client)

/-- What the turns of a run say about its result. -/
structure Accounted {σ : Type} (options : Options) (files : List Path) (turns : List (Turn σ))
    (result : Except Error Unit) (progress : Progress σ) : Prop where
  /-- No source is left out before another one has its turn. -/
  inOrder : turns.map Turn.file <+: files
  /-- Only the last turn may end the run. -/
  going : ∀ turn ∈ turns.dropLast, endsRun options turn.outcome = false
  /-- All sources have their turn unless one ends the run. -/
  whole : turns.map Turn.file = files ∨
    ∃ last, turns.getLast? = some last ∧ endsRun options last.outcome = true
  written : progress.written = turns.filterMap Turn.target?
  failed : progress.failed = turns.filterMap (Turn.passedOver? options)
  /-- The run succeeds exactly if every source did. -/
  succeeds : result = .ok () ↔
    turns.map Turn.file = files ∧ ∀ turn ∈ turns, ∃ target, turn.outcome = .ok target
  /-- After success the paths of all sources were written, in their order. -/
  targets (success : result = .ok ()) :
    progress.written = files.map fun file => SourceFile.outputPath file options.root options.outDir
  /-- The failures are counted exactly if there are some, and none has ended the run. -/
  counts (failed total : Nat) : result = .error (.filesFailed failed total) ↔
    turns.map Turn.file = files ∧ (∀ turn ∈ turns, endsRun options turn.outcome = false) ∧
      0 < failed ∧ failed = (turns.filterMap (Turn.passedOver? options)).length ∧ total = files.length
  /-- Any other failure of the run is that of the last turn, which ended it. -/
  ends {e : Error} (fails : result = .error e) (single : e.IsSingle) :
    ∃ last, turns.getLast? = some last ∧ endsRun options last.outcome = true ∧ last.outcome = .error e

section Failures

variable {disk : FileTree.Disk} {options : Options} {context : FactsContext} {file : Path}
  {tree : FileTree} {e : Error}

theorem isSingle_of_ensureCompiled {compiled : CompileResult}
    (fails : ensureCompiled file compiled = .error e) : e.IsSingle := by
  rw [ensureCompiled] at fails
  -- A compilation fails as such, or has no contents.
  split at fails
  · split at fails
    · cases fails
      exact Error.isSingle_of_isFileScoped rfl
    · cases fails
  · cases fails
    exact Error.isSingle_of_isFileScoped rfl

theorem isSingle_of_buildFacts {inputs : FactsInputs} (fails : buildFacts inputs context = .error e) :
    e.IsSingle := by
  rw [buildFacts] at fails
  -- Only the compilation and the template can fail.
  rcases error_of_bind fails with compiled | ⟨contents, -, fails⟩
  · exact isSingle_of_ensureCompiled compiled
  rcases error_of_bind fails with parsed | ⟨template, -, built⟩
  · rw [Template.parse] at parsed
    split at parsed
    · cases parsed
    · cases parsed
      exact Error.isSingle_of_isFileScoped rfl
  · cases built

/-- What fails while facts are put together does not speak of a number of files. -/
theorem isSingle_of_assemble {described : Compiler.Description}
    (fails : assemble disk options context file described tree = .error e) : e.IsSingle := by
  rw [assemble] at fails
  rcases error_of_bind fails with compiled | ⟨_, -, fails⟩
  · exact isSingle_of_ensureCompiled compiled
  rcases error_of_bind fails with hashed | ⟨hash, -, fails⟩
  · rw [hashAt] at hashed
    split at hashed
    · cases hashed
    · cases hashed
      exact Error.isSingle_io _
  -- The stamp is given, or that of the file.
  dsimp only at fails
  split at fails
  · exact isSingle_of_buildFacts fails
  · rcases error_of_bind fails with stamped | ⟨stamp, -, fails⟩
    · rw [stampAt] at stamped
      split at stamped
      · cases stamped
      · cases stamped
        exact Error.isSingle_io _
    · exact isSingle_of_buildFacts fails

/-- The failure of a turn does not speak of a number of files, unless the compiler does. -/
theorem isSingle_of_generateFile {σ : Type} {client : Client σ} {contract : Schema}
    (single : client.IsSingle) {before after : σ × FileTree}
    (fails : generateFile client disk options contract context file before.1 before.2 = (.error e, after)) :
    e.IsSingle := by
  rw [generateFile_eq] at fails
  -- The failure is that of the text, or of the disk.
  split at fails
  · rename_i cause asked text
    cases fails
    rw [textFor] at text
    -- The compiler fails with a single reason.
    split at text
    · rename_i described
      cases text
      exact single.describe described
    · -- The facts cannot be assembled, or are refused by the contract.
      rcases error_of_bind (congrArg Prod.fst text) with assembled | ⟨facts, -, refused⟩
      · exact isSingle_of_assemble assembled
      · rw [accepted, Schema.validate] at refused
        split at refused
        · cases refused
        · cases refused
          exact Error.isSingle_of_isFileScoped rfl
  · dsimp only at fails
    -- A text that cannot be written fails as the disk does.
    split at fails
    · cases fails
    · cases fails
      exact Error.isSingle_io _

end Failures

section Run

variable {σ : Type} {client : Client σ} {disk : FileTree.Disk} {options : Options} {contract : Schema}
  {context : FactsContext} {files : List Path} {turns : List (Turn σ)} {before after : σ × FileTree}

/-- Turns in which all went well wrote the facts of their sources. -/
theorem targets_of_handled (handled : Handled client disk options contract context before turns after)
    (well : ∀ turn ∈ turns, ∃ target, turn.outcome = .ok target) :
    turns.filterMap Turn.target? =
      (turns.map Turn.file).map fun file => SourceFile.outputPath file options.root options.outDir := by
  induction handled with
  | none => rfl
  | @turn file before between after outcome turns done rest ih =>
    -- What is written in a turn is the path of its source.
    obtain ⟨⟨target, wrote⟩, later⟩ := List.forall_mem_cons.mp well
    obtain rfl : outcome = .ok target := wrote
    have here : Turn.target? ⟨file, before, .ok target, between⟩ = some target := rfl
    rw [List.filterMap_cons_some here, ih later, target_of_generateFile done]
    rfl

/-- Nothing is passed over when all went well, and only then if nothing ends the run. -/
theorem passedOver_eq_nil_iff (going : ∀ turn ∈ turns, endsRun options turn.outcome = false) :
    turns.filterMap (Turn.passedOver? options) = [] ↔
      ∀ turn ∈ turns, ∃ target, turn.outcome = .ok target := by
  rw [List.filterMap_eq_nil_iff]
  -- A failure that does not end the run is passed over, so that each turn went well.
  refine forall₂_congr fun turn member => ?_
  rw [Turn.passedOver?]
  cases outcome : turn.outcome with
  | ok target => simp
  | error e =>
    have goes := going turn member
    rw [outcome] at goes
    simp [goes]

/-- The account of a run in which all sources had their turn. -/
theorem accounted_all (handled : Handled client disk options contract context before turns after)
    (whole : turns.map Turn.file = files) (going : ∀ turn ∈ turns, endsRun options turn.outcome = false)
    {result : Except Error Unit}
    (verdict : result = if (turns.filterMap (Turn.passedOver? options)).isEmpty then .ok ()
      else .error (.filesFailed (turns.filterMap (Turn.passedOver? options)).length files.length)) :
    Accounted options files turns result
      ⟨after.1, after.2, turns.filterMap Turn.target?, turns.filterMap (Turn.passedOver? options)⟩ := by
  -- Success means that nothing was passed over, and so that all went well.
  have succeeds : result = .ok () ↔ ∀ turn ∈ turns, ∃ target, turn.outcome = .ok target := by
    rw [← passedOver_eq_nil_iff going, verdict, ← List.isEmpty_iff]
    split <;> simp [*]
  constructor
  case inOrder => exact (Reached.all whole going).inOrder
  case going => exact fun turn member => going turn (List.dropLast_subset turns member)
  case whole => exact .inl whole
  case written => rfl
  case failed => rfl
  case succeeds => rw [succeeds, and_iff_right whole]
  case targets =>
    intro success
    rw [← whole]
    exact targets_of_handled handled (succeeds.mp success)
  case counts =>
    intro failed total
    rw [verdict, and_iff_right whole, and_iff_right going]
    -- No file was passed over, and so none is counted.
    split
    · rename_i none
      rw [List.isEmpty_iff] at none
      simp [none]
      omega
    · -- The count is that of the files that were passed over.
      rename_i some
      have count : 0 < (turns.filterMap (Turn.passedOver? options)).length := by
        rw [List.length_pos_iff, ne_eq, ← List.isEmpty_iff]
        exact some
      simp only [Except.error.injEq, Error.filesFailed.injEq]
      omega
  case ends =>
    -- What the run itself fails with is a count.
    intro e fails single
    rw [verdict] at fails
    split at fails
    · cases fails
    · exact absurd (Except.error.inj fails).symm (single _ _)

/-- The account of a run that a failure has ended. -/
theorem accounted_stopped {last : Turn σ} {left : List Path} {e : Error} (after : σ × FileTree)
    (whole : turns.map Turn.file ++ last.file :: left = files)
    (going : ∀ turn ∈ turns, endsRun options turn.outcome = false) (failure : last.outcome = .error e)
    (ends : endsRun options last.outcome = true) (single : e.IsSingle) :
    Accounted options files (turns ++ [last]) (.error e)
      ⟨after.1, after.2, turns.filterMap Turn.target?, turns.filterMap (Turn.passedOver? options)⟩ := by
  -- All that can be said about the result is said by the last turn.
  have isLast : (turns ++ [last]).getLast? = some last := List.getLast?_concat
  -- The last turn is a failure, and no target was written in it.
  have failed : ¬ ∃ target, last.outcome = .ok target := by simp [failure]
  have member : last ∈ turns ++ [last] := by simp
  constructor
  case inOrder => exact (Reached.stopped whole going failure ends).inOrder
  case going => rwa [List.dropLast_concat]
  case whole => exact .inr ⟨last, isLast, ends⟩
  case written =>
    have none : last.target? = none := by rw [Turn.target?, failure]
    simp [none]
  case failed =>
    have none : last.passedOver? options = none := by
      rw [Turn.passedOver?, failure]
      rw [failure] at ends
      simp [ends]
    simp [none]
  case succeeds =>
    refine ⟨fun success => ?_, fun all => absurd (all.2 last member) failed⟩
    cases success
  case targets =>
    intro success
    cases success
  case counts =>
    intro failed total
    -- A single failure is no count, and the last turn has ended the run.
    refine ⟨fun fails => absurd (Except.error.inj fails) (single _ _), fun all => ?_⟩
    rw [all.2.1 last member] at ends
    cases ends
  case ends =>
    intro cause fails _
    obtain rfl := Except.error.inj fails
    exact ⟨last, isLast, ends, failure⟩

end Run

/-- Every source of a run is accounted for. Without the version of the compiler nothing is done. With
it, the sources have their turns in order until one ends the run, the result is as the turns say, and
sources behind the one that ended the run could be any others. -/
theorem every_source_accounted {σ : Type} {client : Client σ} (single : client.IsSingle)
    (disk : FileTree.Disk) (options : Options) (contract : Schema) (files : List Path) (compiler : σ)
    (tree : FileTree) :
    match client.version compiler with
    | (.error e, asked) =>
      generateAll client disk options contract files compiler tree = (.error e, .start asked tree) ∧
        e.IsSingle
    | (.ok version, asked) => ∃ turns result progress,
      generateAll client disk options contract files compiler tree = (result, progress) ∧
        Handled client disk options contract (contextOf options version) (asked, tree) turns
          (progress.compiler, progress.tree) ∧
        Accounted options files turns result progress ∧
        ∀ last, turns.getLast? = some last → endsRun options last.outcome = true → ∀ others,
          generateAll client disk options contract (turns.map Turn.file ++ others) compiler tree =
            (result, progress) := by
  split
  · rename_i e asked answer
    exact ⟨by rw [generateAll, answer], single.version answer⟩
  · rename_i version asked answer
    obtain ⟨turns, after, handled, reached⟩ := exists_turns client disk options contract
      (contextOf options version) files (asked, tree)
    -- The account depends on whether the turns reached the last source.
    cases reached with
    | all whole going =>
      have run := generateAll_whole answer handled going
      have count : turns.length = files.length := by rw [← whole, List.length_map]
      rw [whole, count] at run
      refine ⟨turns, _, _, run, handled, accounted_all handled whole going rfl, fun last isLast ends => ?_⟩
      -- No turn has ended the run.
      rw [going last (List.mem_of_getLast? isLast)] at ends
      cases ends
    | @stopped turns last left e whole going failure ends =>
      have run := generateAll_stopped answer handled going failure ends
      -- The failure that ended the run is that of its last turn.
      have single : e.IsSingle := by
        obtain ⟨between, -, late⟩ := handled.split
        cases late with
        | turn done rest =>
          obtain rfl := failure
          exact isSingle_of_generateFile single done
      refine ⟨_, _, _, ?_, handled, accounted_stopped after whole going failure ends single,
        fun _ _ _ others => ?_⟩
      · rw [← whole]
        exact run left
      · rw [List.map_append, List.append_assoc]
        exact run others

/-- A compiler that compiles no source, is gone when asked about the second one, and counts how often it
is asked. -/
def failing : Client Nat where
  version asked := (.ok "0.30.23", asked + 1)
  describe _ asked :=
    if asked = 2 then (.error (.connectionClosed ""), asked + 1)
    else (.ok ⟨⟨false, none, []⟩, ⟨[], []⟩, ⟨[]⟩⟩, asked + 1)

/-- A run that passes over the first source and ends at the second, so that the third is never asked
about. -/
theorem every_source_accounted_failing : failing.IsSingle ∧ ∃ turns progress,
    generateAll failing (.willing ⟨⟨"/"⟩, default⟩ 1) ⟨⟨"/"⟩, none, .file, none, true⟩ default
        [⟨"/a.bicep"⟩, ⟨"/b.bicep"⟩, ⟨"/c.bicep"⟩] 0 .empty = (.error (.connectionClosed ""), progress) ∧
      Accounted ⟨⟨"/"⟩, none, .file, none, true⟩ [⟨"/a.bicep"⟩, ⟨"/b.bicep"⟩, ⟨"/c.bicep"⟩] turns
        (.error (.connectionClosed "")) progress ∧ progress.compiler = 3 := by
  have single : failing.IsSingle := by
    constructor
    · intro e compiler asked fails
      cases fails
    · intro file e compiler asked fails
      rw [failing] at fails
      dsimp only at fails
      split at fails
      · cases fails
        intro failed total same
        cases same
      · cases fails
  -- The whole run, evaluated, is the one that is accounted for.
  have run : generateAll failing (.willing ⟨⟨"/"⟩, default⟩ 1) ⟨⟨"/"⟩, none, .file, none, true⟩ default
      [⟨"/a.bicep"⟩, ⟨"/b.bicep"⟩, ⟨"/c.bicep"⟩] 0 .empty = (.error (.connectionClosed ""),
        ⟨3, .empty, [], [(⟨"/a.bicep"⟩, .compilationFailed ⟨"/a.bicep"⟩ [])]⟩) := rfl
  obtain ⟨turns, result, progress, same, -, accounted, -⟩ := every_source_accounted single
    (.willing ⟨⟨"/"⟩, default⟩ 1) ⟨⟨"/"⟩, none, .file, none, true⟩ default
    [⟨"/a.bicep"⟩, ⟨"/b.bicep"⟩, ⟨"/c.bicep"⟩] 0 .empty
  cases run.symm.trans same
  exact ⟨single, turns, _, run, accounted, rfl⟩

end Generation

end TemplateFacts
