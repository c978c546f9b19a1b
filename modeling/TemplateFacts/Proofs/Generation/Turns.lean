import TemplateFacts.Generation

/-!
The turns of a run: each source in order has one turn, until one ends the run. What a run writes, what it
passes over and how it ends are all read off its turns.
-/

namespace TemplateFacts.Generation

open Compiler (Client Description)

/-- The turn of a source in a run: what was there before, what came of it, and what is there then. -/
structure Turn (σ : Type) where
  file : Path
  before : σ × FileTree
  outcome : Except Error Path
  after : σ × FileTree

/-- The path that was written in a turn. -/
def Turn.target? {σ : Type} (turn : Turn σ) : Option Path :=
  match turn.outcome with
  | .ok target => some target
  | .error _ => none

/-- An outcome ends the run: it is a failure that does not concern one source only, or the run may not go
on after failures. -/
def endsRun (options : Options) : Except Error Path → Bool
  | .ok _ => false
  | .error e => !(options.continueOnError && e.isFileScoped)

/-- The failure that a run passes over in a turn. -/
def Turn.passedOver? {σ : Type} (options : Options) (turn : Turn σ) : Option (Path × Error) :=
  match turn.outcome with
  | .ok _ => none
  | .error e => if endsRun options turn.outcome then none else some (turn.file, e)

variable {σ : Type} (client : Client σ) (disk : FileTree.Disk) (options : Options) (contract : Schema)
  (context : FactsContext)

/-- The text about a source that is to be written, and the compiler after it was asked. -/
def textFor (file : Path) (compiler : σ) (tree : FileTree) : Except Error String × σ :=
  match client.describe file compiler with
  | (.error e, compiler) => (.error e, compiler)
  | (.ok described, compiler) =>
    (assemble disk options context file described tree >>= accepted contract, compiler)

/-- Without a text nothing is done, and with one the facts file is replaced by it. -/
theorem generateFile_eq (file : Path) (compiler : σ) (tree : FileTree) :
    generateFile client disk options contract context file compiler tree =
      match textFor client disk options contract context file compiler tree with
      | (.error e, compiler) => (.error e, compiler, tree)
      | (.ok text, compiler) =>
        let target := SourceFile.outputPath file options.root options.outDir
        let passage := FileTree.replaceFile disk target text tree
        match passage.result with
        | .ok () => (.ok target, compiler, passage.tree)
        | .error e => (.error (.io (.refused e)), compiler, passage.tree) := by
  rw [generateFile, textFor]
  -- Both sides ask the compiler first, then put the text together, and then write it.
  cases described : client.describe file compiler with
  | mk answer asked =>
    cases answer with
    | error e => simp only
    | ok description =>
      cases text : assemble disk options context file description tree >>= accepted contract with
      | error e => simp only [text]
      | ok text' =>
        cases result : (FileTree.replaceFile disk (SourceFile.outputPath file options.root options.outDir)
          text' tree).result <;> simp only [text, result]

/-- Sources have their turns one after the other, each beginning where the one before it ended. -/
inductive Handled : σ × FileTree → List (Turn σ) → σ × FileTree → Prop
  | none (state : σ × FileTree) : Handled state [] state
  | turn {file : Path} {before between after : σ × FileTree} {outcome : Except Error Path}
    {turns : List (Turn σ)}
    (done : generateFile client disk options contract context file before.1 before.2 = (outcome, between))
    (rest : Handled between turns after) : Handled before (⟨file, before, outcome, between⟩ :: turns) after

variable {client disk options contract context}

/-- Facts that are written are written to the path of their source. -/
theorem target_of_generateFile {file target : Path} {before after : σ × FileTree}
    (done : generateFile client disk options contract context file before.1 before.2 = (.ok target, after)) :
    target = SourceFile.outputPath file options.root options.outDir := by
  rw [generateFile_eq] at done
  split at done
  · cases done
  · -- Whatever the text is, the path comes from the source alone.
    dsimp only at done
    split at done
    · exact (Except.ok.inj (congrArg Prod.fst done)).symm
    · cases done

/-- Turns that do not end a run are gone through, and leave what they wrote and passed over. -/
theorem generateEach_append {before after : σ × FileTree} {turns : List (Turn σ)}
    (handled : Handled client disk options contract context before turns after)
    (going : ∀ turn ∈ turns, endsRun options turn.outcome = false) (others written : List Path)
    (failed : List (Path × Error)) :
    generateEach client disk options contract context (turns.map Turn.file ++ others)
        ⟨before.1, before.2, written, failed⟩ =
      generateEach client disk options contract context others
        ⟨after.1, after.2, written ++ turns.filterMap Turn.target?,
          failed ++ turns.filterMap (Turn.passedOver? options)⟩ := by
  -- The induction is on the turns, with what was written and passed over before them.
  induction handled generalizing written failed with
  | none state => simp
  | @turn file before between after outcome turns done rest ih =>
    obtain ⟨goes, later⟩ := List.forall_mem_cons.mp going
    rw [List.map_cons, List.cons_append, generateEach, done]
    cases outcome with
    | ok target =>
      dsimp only
      have wrote : Turn.target? ⟨file, before, .ok target, between⟩ = some target := rfl
      have passed : Turn.passedOver? options ⟨file, before, .ok target, between⟩ = none := rfl
      rw [ih later, List.filterMap_cons_some wrote, List.filterMap_cons_none passed]
      simp
    | error e =>
      have goesOn : (options.continueOnError && e.isFileScoped) = true := by simpa [endsRun] using goes
      dsimp only
      have wrote : Turn.target? ⟨file, before, .error e, between⟩ = none := rfl
      have passed : Turn.passedOver? options ⟨file, before, .error e, between⟩ = some (file, e) := by
        simp [Turn.passedOver?, goes]
      rw [if_pos goesOn, ih later, List.filterMap_cons_none wrote, List.filterMap_cons_some passed]
      simp

/-- A turn that ends a run ends it with its own failure, whatever sources are left. -/
theorem generateEach_ends {file : Path} {before after : σ × FileTree} {e : Error}
    (done : generateFile client disk options contract context file before.1 before.2 = (.error e, after))
    (ends : endsRun options (.error e) = true) (others written : List Path)
    (failed : List (Path × Error)) :
    generateEach client disk options contract context (file :: others)
        ⟨before.1, before.2, written, failed⟩ = (.error e, ⟨after.1, after.2, written, failed⟩) := by
  -- The run may not go on, or the failure is not that of one source.
  have stops : (options.continueOnError && e.isFileScoped) = false := by
    rwa [endsRun, Bool.not_eq_true'] at ends
  rw [generateEach, done]
  simp [stops]

/-- How far the turns of a run go. -/
inductive Reached (options : Options) (files : List Path) : List (Turn σ) → Prop
  /-- All sources have had their turn. -/
  | all {turns : List (Turn σ)} (whole : turns.map Turn.file = files)
    (going : ∀ turn ∈ turns, endsRun options turn.outcome = false) : Reached options files turns
  /-- A failure has ended the run. -/
  | stopped {turns : List (Turn σ)} {last : Turn σ} {left : List Path} {e : Error}
    (whole : turns.map Turn.file ++ last.file :: left = files)
    (going : ∀ turn ∈ turns, endsRun options turn.outcome = false) (failure : last.outcome = .error e)
    (ends : endsRun options last.outcome = true) : Reached options files (turns ++ [last])

/-- The sources of a run have their turns up to the first that ends it. -/
theorem exists_turns (client : Client σ) (disk : FileTree.Disk) (options : Options) (contract : Schema)
    (context : FactsContext) (files : List Path) (before : σ × FileTree) :
    ∃ turns after, Handled client disk options contract context before turns after ∧
      Reached options files turns := by
  -- The first source has its turn, and the others have theirs unless it ends the run.
  induction files generalizing before with
  | nil => exact ⟨[], before, .none before, .all rfl (by simp)⟩
  | cons file files ih =>
    cases done : generateFile client disk options contract context file before.1 before.2 with
    | mk outcome between =>
      cases ends : endsRun options outcome with
      | true =>
        cases failure : outcome with
        | ok target => simp [failure, endsRun] at ends
        | error e =>
          subst failure
          have stoppedAtOnce : Reached options (file :: files) ([] ++ [⟨file, before, .error e, between⟩]) :=
            .stopped rfl (by simp) rfl ends
          exact ⟨[⟨file, before, .error e, between⟩], between, .turn done (.none between),
            stoppedAtOnce⟩
      | false =>
        obtain ⟨turns, after, handled, reached⟩ := ih between
        refine ⟨⟨file, before, outcome, between⟩ :: turns, after, .turn done handled, ?_⟩
        cases reached with
        | all whole going => exact .all (by simp [whole]) (List.forall_mem_cons.mpr ⟨ends, going⟩)
        | stopped whole going failure stops =>
          rw [← List.cons_append]
          exact .stopped (congrArg (file :: ·) whole) (List.forall_mem_cons.mpr ⟨ends, going⟩) failure stops

/-- Sources have their turns in order. -/
theorem Reached.inOrder {files : List Path} {turns : List (Turn σ)} (reached : Reached options files turns) :
    turns.map Turn.file <+: files := by
  -- The files of a run that stopped early are those before the first left over.
  cases reached with
  | all whole =>
    subst whole
    exact List.prefix_refl _
  | @stopped turns last left e whole =>
    rw [← whole, List.map_append]
    exact ⟨left, by simp⟩

/-- Every turn is the generation of facts about its source. -/
theorem Handled.done {before after : σ × FileTree} {turns : List (Turn σ)} {turn : Turn σ}
    (handled : Handled client disk options contract context before turns after) (member : turn ∈ turns) :
    generateFile client disk options contract context turn.file turn.before.1 turn.before.2 =
      (turn.outcome, turn.after) := by
  -- Each turn on the list is one call of `generateFile`; the induction finds the one meant.
  induction handled with
  | none => cases member
  | turn done rest ih =>
    rcases List.mem_cons.mp member with rfl | later
    · exact done
    · exact ih later

/-- Turns one after the other, split at a place. -/
theorem Handled.split {before after : σ × FileTree} {first rest : List (Turn σ)}
    (handled : Handled client disk options contract context before (first ++ rest) after) :
    ∃ between, Handled client disk options contract context before first between ∧
      Handled client disk options contract context between rest after := by
  -- The induction is on the turns in front of the place.
  induction first generalizing before with
  | nil => exact ⟨before, .none before, handled⟩
  | cons turn first ih =>
    cases handled with
    | turn done handled =>
      obtain ⟨between, early, late⟩ := ih handled
      exact ⟨between, .turn done early, late⟩

section Run

variable {version : String} {compiler asked : σ} {tree : FileTree} {after : σ × FileTree}
  {turns : List (Turn σ)} (answer : client.version compiler = (.ok version, asked))

include answer

/-- A run in which no turn ends it fails only if something was passed over. -/
theorem generateAll_whole
    (handled : Handled client disk options contract (contextOf options version) (asked, tree) turns after)
    (going : ∀ turn ∈ turns, endsRun options turn.outcome = false) :
    generateAll client disk options contract (turns.map Turn.file) compiler tree =
      (if (turns.filterMap (Turn.passedOver? options)).isEmpty then .ok ()
        else .error (.filesFailed (turns.filterMap (Turn.passedOver? options)).length turns.length),
        ⟨after.1, after.2, turns.filterMap Turn.target?, turns.filterMap (Turn.passedOver? options)⟩) := by
  -- Behind the last turn there is nothing left to do.
  have each := generateEach_append handled going [] [] []
  rw [List.append_nil, generateEach, List.nil_append, List.nil_append] at each
  rw [generateAll, answer]
  simp only [Progress.start, each, List.length_map]
  split <;> rfl

/-- A run that a turn ends fails as that turn did, whatever sources come behind it. -/
theorem generateAll_stopped {last : Turn σ} {e : Error}
    (handled : Handled client disk options contract (contextOf options version) (asked, tree)
      (turns ++ [last]) after)
    (going : ∀ turn ∈ turns, endsRun options turn.outcome = false) (failure : last.outcome = .error e)
    (ends : endsRun options last.outcome = true) (others : List Path) :
    generateAll client disk options contract (turns.map Turn.file ++ last.file :: others) compiler tree =
      (.error e, ⟨after.1, after.2, turns.filterMap Turn.target?,
        turns.filterMap (Turn.passedOver? options)⟩) := by
  obtain ⟨between, early, late⟩ := handled.split
  cases late with
  | @turn file _ _ _ outcome _ done rest =>
    cases rest
    obtain rfl : outcome = .error e := failure
    -- The run gets to the last turn, which ends it in front of all others.
    have each := generateEach_append early going (file :: others) [] []
    rw [generateEach_ends done ends, List.nil_append, List.nil_append] at each
    rw [generateAll, answer]
    simp only [Progress.start, each]

/-- A run leaves what its last turn left. -/
theorem generateAll_reached {files : List Path}
    (handled : Handled client disk options contract (contextOf options version) (asked, tree) turns after)
    (reached : Reached options files turns) : ∃ result written failed,
      generateAll client disk options contract files compiler tree =
        (result, ⟨after.1, after.2, written, failed⟩) := by
  -- A run ends behind the last file or at the failure that stops it.
  cases reached with
  | all whole going =>
    rw [← whole]
    exact ⟨_, _, _, generateAll_whole answer handled going⟩
  | stopped whole going failure ends =>
    rw [← whole]
    exact ⟨_, _, _, generateAll_stopped answer handled going failure ends _⟩

end Run

end TemplateFacts.Generation
