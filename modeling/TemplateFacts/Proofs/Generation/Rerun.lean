import TemplateFacts.Proofs.Generation.Frame

/-!
A run does not disturb its own input: what a scan has found is found again behind the run, and a second run
over it finds everything as it would leave it. Both need that no link bears the name of a facts file, as
such a link is replaced by the facts, and what was found behind it is lost.
-/

namespace TemplateFacts

/-- The answers of a compiler depend on nothing but what it is asked. -/
structure Compiler.Client.Steady {σ : Type} (client : Client σ) : Prop where
  version (asked asking : σ) : (client.version asking).1 = (client.version asked).1
  describe (file : Path) (asked asking : σ) : (client.describe file asking).1 = (client.describe file asked).1

namespace Generation

open Compiler (Client)
open FileTree (Framed SameSources Midway)

section Again

variable {σ : Type} {client : Client σ} {disk again : FileTree.Disk} {options : Options} {contract : Schema}
  {context : FactsContext} {file : Path} {files : List Path} {before between after : σ × FileTree}
  {turns : List (Turn σ)} {outcome outcomeToo : Except Error Path} {tree : FileTree} {asked asking : σ}
  {start next : σ × FileTree} {text : String}

/-- The text about a source depends on how the source is read, and on nothing else in the tree. -/
theorem textFor_congr (options : Options) (contract : Schema) (context : FactsContext)
    (steady : client.Steady) (cwd : again.setting.cwd = disk.setting.cwd) {left : FileTree}
    (read : left.fileAt disk.setting.cwd file = tree.fileAt disk.setting.cwd file) (asked asking : σ) :
    (textFor client again options contract context file asking left).1 =
      (textFor client disk options contract context file asked tree).1 := by
  -- A steady compiler answers alike, whatever it has been asked before.
  have same := steady.describe file asked asking
  rw [textFor, textFor]
  cases first : client.describe file asked with
  | mk answer asked =>
    cases second : client.describe file asking with
    | mk answerToo asking =>
      rw [first, second] at same
      obtain rfl : answerToo = answer := same
      cases answerToo with
      | error e => rfl
      | ok described => simp only [assemble, hashAt, stampAt, cwd, read]

/-- A turn of a run that is made once more ends the run if it did so before, and comes to what was left then,
as far as it differs from what was there. -/
theorem midway_of_turn (steady : client.Steady) (repeats : again.Repeats disk)
    (done : generateFile client disk options contract context file before.1 before.2 = (outcome, between))
    (doneToo : generateFile client again options contract context file start.1 start.2 = (outcomeToo, next))
    (read : start.2.fileAt disk.setting.cwd file = before.2.fileAt disk.setting.cwd file)
    (rooted : before.2.kind = .directory) (unlinked : before.2.Unlinked (spareName disk options file))
    (factsUnlinked : before.2.Unlinked (SourceFile.stem file ++ SourceFile.factsEnding))
    (framed : Framed between.2 tree) (keeps : Keeps between.2 tree)
    (free : tree.Free (spareName disk options file)) (freeToo : tree.Free (spareName again options file))
    (last : endsRun options outcome = true → tree = between.2) (midway : Midway before.2 tree start.2) :
    Midway between.2 tree next.2 ∧ endsRun options outcomeToo = endsRun options outcome := by
  have ends := SourceFile.endsIn_outputPath file options.root options.outDir
  have plain := SourceFile.isPlain_facts file
  -- The file is read as it was the first time, so the same text comes of it, or the same error.
  have same : Turn.text client again options contract context ⟨file, start, outcomeToo, next⟩ =
      Turn.text client disk options contract context ⟨file, before, outcome, between⟩ :=
    textFor_congr options contract context steady repeats.cwd read before.1 start.1
  cases course_of_turn done with
  | textless e fails outcome unchanged =>
    cases course_of_turn doneToo with
    | textless e' failsToo outcomeToo unchangedToo =>
      -- Nothing is written either time.
      obtain rfl : e' = e := Except.error.inj (failsToo.symm.trans (same.trans fails))
      dsimp only at outcome unchanged outcomeToo unchangedToo
      rw [unchanged, unchangedToo, outcome, outcomeToo]
      exact ⟨midway, rfl⟩
    -- A text comes of it both times or neither time.
    | replaced text writesToo => cases writesToo.symm.trans (same.trans fails)
  | replaced text writes wrote ends' =>
    cases course_of_turn doneToo with
    | textless e failsToo => cases failsToo.symm.trans (same.trans writes)
    | replaced text' writesToo wroteToo came =>
      obtain rfl : text' = text := Except.ok.inj (writesToo.symm.trans (same.trans writes))
      dsimp only at wrote wroteToo came ends'
      rw [wroteToo]
      rcases ends' with ⟨rfl, succeeds⟩ | ⟨e, rfl, fails⟩
      · -- The first time the facts are written, and the second time again.
        rw [wrote] at framed keeps ⊢
        obtain ⟨succeedsToo, midway⟩ := midway.replaceFile_ok ends plain repeats rooted unlinked
          factsUnlinked succeeds framed keeps.facts free freeToo
        rcases came with ⟨rfl, -⟩ | ⟨e, -, fails⟩
        · exact ⟨midway, rfl⟩
        · exact absurd (succeedsToo.symm.trans fails) (by simp)
      · -- The failure ends the run.
        obtain rfl := last (by simp [endsRun, Error.isFileScoped])
        rw [wrote] at midway free freeToo ⊢
        obtain ⟨⟨e', failsToo⟩, midway⟩ := midway.replaceFile_error ends plain repeats rooted unlinked fails
          free freeToo
        rcases came with ⟨-, succeeds⟩ | ⟨e', rfl, -⟩
        · exact absurd (succeeds.symm.trans failsToo) (by simp)
        · exact ⟨midway, by simp [endsRun, Error.isFileScoped]⟩

/-- The first source of a run has the first turn, which ends the run or is followed by those of the others. -/
theorem Reached.head {turn : Turn σ} (reached : Reached options files (turn :: turns)) :
    ∃ others, files = turn.file :: others ∧ (endsRun options turn.outcome = true ∧ turns = [] ∨
      endsRun options turn.outcome = false ∧ Reached options others turns) := by
  -- By whether the run goes to its end or is stopped, and then whether at once.
  generalize whole_eq : turn :: turns = all at reached
  cases reached with
  | all whole going =>
    subst whole_eq
    obtain ⟨goes, later⟩ := List.forall_mem_cons.mp going
    exact ⟨turns.map Turn.file, whole.symm, .inr ⟨goes, .all rfl later⟩⟩
  | @stopped early last left e whole going failure ends =>
    cases early with
    | nil =>
      obtain ⟨rfl, rfl⟩ := List.cons.inj whole_eq
      exact ⟨left, whole.symm, .inl ⟨ends, rfl⟩⟩
    | cons first early =>
      obtain ⟨rfl, rfl⟩ := List.cons.inj whole_eq
      obtain ⟨goes, later⟩ := List.forall_mem_cons.mp going
      exact ⟨_, whole.symm, .inr ⟨goes, .stopped rfl later failure ends⟩⟩

/-- What holds for the sources of a run holds for those that have a turn. -/
theorem Reached.forall_turns {holds : Path → Prop} (reached : Reached options files turns)
    (all : ∀ file ∈ files, holds file) : ∀ turn ∈ turns, holds turn.file :=
  fun _ member => all _ (reached.inOrder.subset (List.mem_map_of_mem member))

/-- What is known of the trees that a run comes to, if no links bear the names of its facts. -/
structure Steered (disk : FileTree.Disk) (options : Options) (files : List Path) (tree now : FileTree) :
    Prop where
  rooted : now.kind = .directory
  unlinked : ∀ file ∈ files, now.Unlinked (spareName disk options file)
  factsUnlinked : ∀ file ∈ files, now.Unlinked (SourceFile.stem file ++ SourceFile.factsEnding)
  framed : Framed tree now
  sources : SameSources tree now

/-- It is known of the tree behind a turn, too. -/
theorem Steered.turn (steered : Steered disk options files tree before.2)
    (done : generateFile client disk options contract context file before.1 before.2 = (outcome, between))
    (member : file ∈ files) : Steered disk options files tree between.2 := by
  -- Each field is kept by a turn on its own.
  have kept := keeps_of_turn done (steered.unlinked file member)
  exact {
    rooted := kept.rooted steered.rooted
    unlinked := fun other member => kept.unlinked (steered.unlinked other member)
    factsUnlinked := fun other member => kept.unlinked (steered.factsUnlinked other member)
    framed := steered.framed.trans
      (framed_of_turn done (steered.unlinked file member) (steered.factsUnlinked file member))
    sources := steered.sources.trans kept.sources }

/-- The turns of a run, made once more in a tree between the one that they came from and the one that they
have left, leave the same bytes as before. -/
theorem generateEach_again {known : List Path} (steady : client.Steady) (repeats : again.Repeats disk)
    (read : ∀ file ∈ known, ∀ now, Framed tree now → SameSources tree now →
      now.fileAt disk.setting.cwd file = tree.fileAt disk.setting.cwd file)
    (handled : Handled client disk options contract context before turns after)
    (reached : Reached options files turns) (within : files ⊆ known)
    (free : ∀ file ∈ known, after.2.Free (spareName disk options file))
    (freeToo : ∀ file ∈ known, after.2.Free (spareName again options file))
    (steered : Steered disk options known tree before.2)
    (steeredToo : Steered again options known tree start.2)
    (midway : Midway before.2 after.2 start.2) (written : List Path) (failed : List (Path × Error))
    {place : List String} (below : place ≠ []) : (generateEach client again options contract context files
      ⟨start.1, start.2, written, failed⟩).2.tree.standing place = after.2.standing place := by
  -- The induction is on the turns of the first run; every tree of the second lies midway.
  induction handled generalizing files start written failed with
  | none state =>
    -- No turn means no file, as only a failure ends a run early.
    obtain rfl : files = [] := by
      generalize none_eq : ([] : List (Turn σ)) = turns at reached
      cases reached with
      | all whole => rw [← whole, ← none_eq]; rfl
      | stopped => simp at none_eq
    rw [generateEach]
    exact (midway.either below).elim id id
  | @turn file before between after outcome turns done rest ih =>
    obtain ⟨others, rfl, onward⟩ := reached.head
    obtain ⟨member, within⟩ := List.cons_subset.mp within
    -- Both runs take this turn, in trees that agree on everything it reads.
    have next := steered.turn done member
    have ofTurns {name : Path → String} {now : FileTree} (unlinked : ∀ file ∈ known, now.Unlinked (name file))
        (others : turns.map Turn.file ⊆ known) : ∀ turn ∈ turns, now.Unlinked (name turn.file) :=
      fun turn inside => unlinked _ (others (List.mem_map_of_mem inside))
    have later : turns.map Turn.file ⊆ known := by
      rcases onward with ⟨-, rfl⟩ | ⟨-, reached⟩
      · simp
      · exact fun file inside => within (reached.inOrder.subset inside)
    cases doneToo : generateFile client again options contract context file start.1 start.2 with
    | mk outcomeToo state =>
      have nextToo := steeredToo.turn doneToo member
      have sameRead : start.2.fileAt disk.setting.cwd file = before.2.fileAt disk.setting.cwd file :=
        (read file member start.2 steeredToo.framed steeredToo.sources).trans
          (read file member before.2 steered.framed steered.sources).symm
      -- If the run ends here the first tree is the last.
      have onlyLast : endsRun options outcome = true → after.2 = between.2 := by
        rintro ends
        rcases onward with ⟨-, none⟩ | ⟨goes, -⟩
        · subst none
          cases rest
          rfl
        · rw [goes] at ends
          cases ends
      obtain ⟨midway, sameEnd⟩ := midway_of_turn steady repeats done doneToo sameRead steered.rooted
        (steered.unlinked file member) (steered.factsUnlinked file member)
        (framed_of_handled rest (ofTurns next.unlinked later) (ofTurns next.factsUnlinked later))
        (keeps_of_handled rest (ofTurns next.unlinked later)) (free file member) (freeToo file member) onlyLast
        midway
      rcases onward with ⟨ends, -⟩ | ⟨goes, reached⟩
      · -- The run ends with this turn, both times.
        have endsToo := sameEnd.trans ends
        cases outcomeToo with
        | ok target => cases endsToo
        | error e =>
          rw [generateEach_ends doneToo endsToo]
          rw [onlyLast ends] at midway ⊢
          exact (midway.either below).elim id id
      · -- The other files follow both times.
        have goesToo := sameEnd.trans goes
        have single : Handled client again options contract context start [⟨file, start, outcomeToo, state⟩]
            state := .turn doneToo (.none state)
        have each := generateEach_append single (by simpa using goesToo) others written failed
        rw [List.map_singleton, List.singleton_append] at each
        rw [each]
        exact ih reached within free freeToo next nextToo midway _ _

/-- With a version of the compiler, a run is that of its sources. -/
theorem progress_generateAll {version : String} {compiler : σ}
    (answer : client.version compiler = (.ok version, asked)) :
    (generateAll client disk options contract files compiler tree).2 =
      (generateEach client disk options contract (contextOf options version) files (.start asked tree)).2 := by
  -- The summary changes what is told and nothing of the progress.
  rw [generateAll, answer]
  dsimp only
  split
  · rename_i each
    rw [each]
  · rename_i each
    rw [each]
    split <;> rfl

/-- A run over again leaves the same bytes as the first run, if both find no link and the second no temporary
file under the names that they write to. -/
theorem standing_again {version : String} (steady : client.Steady) (repeats : again.Repeats disk)
    (answer : (client.version asking).1 = .ok version)
    (read : ∀ file ∈ files, ∀ now, Framed before.2 now → SameSources before.2 now →
      now.fileAt disk.setting.cwd file = before.2.fileAt disk.setting.cwd file)
    (handled : Handled client disk options contract (contextOf options version) before turns after)
    (reached : Reached options files turns) (rooted : before.2.kind = .directory)
    (unlinked : ∀ file ∈ files, before.2.Unlinked (spareName disk options file))
    (factsUnlinked : ∀ file ∈ files, before.2.Unlinked (SourceFile.stem file ++ SourceFile.factsEnding))
    (free : ∀ file ∈ files, after.2.Free (spareName disk options file))
    (freeToo : ∀ file ∈ files, after.2.Free (spareName again options file)) (place : List String) :
    (generateAll client again options contract files asking after.2).2.tree.standing place =
      after.2.standing place := by
  have keeps := keeps_of_handled handled (reached.forall_turns unlinked)
  cases answerToo : client.version asking with
  | mk answer' asked =>
    rw [answerToo] at answer
    obtain rfl : answer' = .ok version := answer
    by_cases below : place = []
    · -- The root is a directory both times.
      obtain ⟨turnsToo, afterToo, handledToo, reachedToo⟩ :=
        exists_turns client again options contract (contextOf options version) files (asked, after.2)
      obtain ⟨result, written, failed, run⟩ := generateAll_reached answerToo handledToo reachedToo
      have keepsToo := keeps_of_handled handledToo
        (reachedToo.forall_turns fun file member => (freeToo file member).unlinked)
      rw [run, below, FileTree.standing_nil, FileTree.standing_nil, keeps.rooted rooted,
        keepsToo.rooted (keeps.rooted rooted)]
    · -- The second run begins where the first one has ended.
      have steered : Steered disk options files before.2 before.2 :=
        ⟨rooted, unlinked, factsUnlinked, Framed.refl _, SameSources.refl _⟩
      have steeredToo : Steered again options files before.2 after.2 := {
        rooted := keeps.rooted rooted
        unlinked := fun file member => (freeToo file member).unlinked
        factsUnlinked := fun file member => keeps.unlinked (factsUnlinked file member)
        framed := framed_of_handled handled (reached.forall_turns unlinked)
          (reached.forall_turns factsUnlinked)
        sources := keeps.sources }
      have midway : Midway before.2 after.2 after.2 := ⟨fun _ => rfl, fun _ => .inl rfl⟩
      rw [progress_generateAll answerToo]
      exact generateEach_again steady repeats read handled reached (List.Subset.refl files) free freeToo
        steered (show Steered again options files before.2 (asked, after.2).2 from steeredToo) midway [] []
        below

/-- No temporary file is left when everything could be written, if there was none before. -/
theorem cleared_of_free (handled : Handled client disk options contract context before turns after)
    (reached : Reached options files turns) (rooted : before.2.kind = .directory)
    (free : ∀ file ∈ files, before.2.Free (spareName disk options file))
    (written : AllWritten client disk options contract context turns) (member : file ∈ files)
    (folder : List String) (bytes : List UInt8) :
    after.2.standing (folder ++ [spareName disk options file]) ≠ .file bytes := by
  -- A name that is cleared after the run had no file before it either.
  intro stands
  have unlinked := reached.forall_turns fun file member => (free file member).unlinked
  have stood : before.2.standing (folder ++ [spareName disk options file]) = .file bytes :=
    cleared_of_handled handled unlinked rooted written (FileTree.temporaryName_ne _ _) stands
  rw [free file member folder] at stood
  cases stood

/-- Whatever a run has not left as it was are its facts, directories that were made for them, and temporary
files if something could not be written. -/
theorem changes_of_free (handled : Handled client disk options contract context before turns after)
    (reached : Reached options files turns) (rooted : before.2.kind = .directory)
    (free : ∀ file ∈ files, before.2.Free (spareName disk options file)) {place : List String}
    (below : place ≠ []) : after.2.faceAt place = before.2.faceAt place ∨
    (∃ turn ∈ turns, ∃ text, turn.text client disk options contract context = .ok text ∧
      turn.Touches disk options text place (after.2.faceAt place)) ∨
    ¬ AllWritten client disk options contract context turns ∧
      ∃ file ∈ files, place.getLast? = some (spareName disk options file) := by
  have unlinked : ∀ file ∈ files, before.2.Unlinked (spareName disk options file) :=
    fun file member => (free file member).unlinked
  rcases touched_of_handled handled (reached.forall_turns unlinked) below with kept | touched |
    ⟨turn, member, named, noDirectory⟩
  · exact .inl kept
  · exact .inr (.inl touched)
  -- What is left is a place that bears the name of a temporary file.
  have ofFile : turn.file ∈ files := reached.inOrder.subset (List.mem_map_of_mem member)
  by_cases written : AllWritten client disk options contract context turns
  · -- Nothing bears the name of a temporary file, before or after.
    have keeps := keeps_of_handled handled (reached.forall_turns unlinked)
    obtain ⟨folder, rfl⟩ := List.getLast?_eq_some_iff.mp named
    have none : after.2.standing (folder ++ [spareName disk options turn.file]) = .nothing := by
      cases stands : after.2.standing (folder ++ [spareName disk options turn.file]) with
      | nothing => rfl
      | file bytes =>
        exact absurd stands (cleared_of_free handled reached rooted free written ofFile folder bytes)
      | link target => exact absurd stands (keeps.unlinked (unlinked _ ofFile) folder target)
      | directory => exact absurd stands noDirectory
    have noneBefore := free _ ofFile folder
    rw [FileTree.standing_eq_nothing] at none noneBefore
    exact .inl (by rw [FileTree.faceAt, FileTree.faceAt, none, noneBefore])
  · exact .inr (.inr ⟨written, turn.file, ofFile, named⟩)

/-- Another scan behind a run finds what the run was made over. -/
theorem sources_again {path : Path} {excluded : List Path}
    (handled : Handled client disk options contract context before turns after)
    (reached : Reached options files turns) (rooted : before.2.kind = .directory) (proper : before.2.Proper)
    (unlinked : ∀ file ∈ files, before.2.Unlinked (spareName disk options file))
    (factsUnlinked : ∀ file ∈ files, before.2.Unlinked (SourceFile.stem file ++ SourceFile.factsEnding))
    (scanned : Scan.sources before.2 disk.setting.cwd path excluded = .ok files) :
    Scan.sources after.2 disk.setting.cwd path excluded = .ok files := by
  by_cases some : files = []
  · -- Without a source there is no turn.
    obtain rfl : turns = [] := by
      have none := reached.inOrder
      rw [some, List.prefix_nil, List.map_eq_nil_iff] at none
      exact none
    cases handled
    exact scanned
  · have keeps := keeps_of_handled handled (reached.forall_turns unlinked)
    have framed :=
      framed_of_handled handled (reached.forall_turns unlinked) (reached.forall_turns factsUnlinked)
    exact Scan.sources_unchanged rooted proper (keeps.proper proper) framed keeps.sources scanned some

end Again

/-- What a run over the sources that a scan has found does to the tree that they were found in, and what comes
of another scan and of another run. -/
structure Undisturbed {σ : Type} (client : Client σ) (disk : FileTree.Disk) (options : Options)
    (contract : Schema) (context : FactsContext) (path : Path) (excluded files : List Path) (tree : FileTree)
    (turns : List (Turn σ)) (after : FileTree) : Prop where
  /-- The files with the name of a source, whatever the case of its ending, are the same, with their times. -/
  sources : SameSources tree after
  /-- Whatever else is not left as it was are facts that were written, directories that were made for them, and
  temporary files if something could not be written. -/
  changes {place : List String} (below : place ≠ []) : after.faceAt place = tree.faceAt place ∨
    (∃ turn ∈ turns, ∃ text, turn.text client disk options contract context = .ok text ∧
      turn.Touches disk options text place (after.faceAt place)) ∨
    ¬ AllWritten client disk options contract context turns ∧
      ∃ file ∈ files, place.getLast? = some (spareName disk options file)
  /-- The path of the facts about a source leads to a place under their name only. -/
  named {file : Path} {between : FileTree} {folder : List String} {name : String}
    (leads : between.resolveParent disk.setting.cwd (options.target file) = .ok (folder, .name name)) :
    name = SourceFile.stem file ++ SourceFile.factsEnding
  /-- No temporary file is left when everything could be written. -/
  cleared (written : AllWritten client disk options contract context turns) {file : Path}
    (member : file ∈ files) (folder : List String) (bytes : List UInt8) :
    after.standing (folder ++ [spareName disk options file]) ≠ .file bytes
  /-- Another scan finds the same, if no link bears the name of the facts about a source. -/
  scanned (unlinked : ∀ file ∈ files, tree.Unlinked (SourceFile.stem file ++ SourceFile.factsEnding)) :
    Scan.sources after disk.setting.cwd path excluded = .ok files
  /-- Another run leaves everything as it is, if no link bears the name of the facts about a source, and
  nothing bears the name of a temporary file of either run when it begins. -/
  again (unlinked : ∀ file ∈ files, tree.Unlinked (SourceFile.stem file ++ SourceFile.factsEnding))
    {again : FileTree.Disk} (repeats : again.Repeats disk)
    (free : ∀ file ∈ files, after.Free (spareName disk options file))
    (freeToo : ∀ file ∈ files, after.Free (spareName again options file)) (asking : σ) (place : List String) :
    (generateAll client again options contract files asking after).2.tree.standing place = after.standing place

/-- A run does not disturb its own input: without the version of the compiler no run changes anything, and with
it the sources stay what they were, only facts and what is made for them come about, and neither another scan
nor another run finds anything else to do. -/
theorem input_undisturbed {σ : Type} {client : Client σ} (steady : client.Steady) (disk : FileTree.Disk)
    (options : Options) (contract : Schema) (compiler : σ) {tree : FileTree} (rooted : tree.kind = .directory)
    (proper : tree.Proper) {path : Path} {excluded files : List Path}
    (scanned : Scan.sources tree disk.setting.cwd path excluded = .ok files)
    (free : ∀ file ∈ files, tree.Free (spareName disk options file)) :
    match client.version compiler with
    | (.error _, _) => ∀ again asking,
      (generateAll client again options contract files asking tree).2.tree = tree
    | (.ok version, asked) => ∃ turns progress,
      (generateAll client disk options contract files compiler tree).2 = progress ∧
        Handled client disk options contract (contextOf options version) (asked, tree) turns
          (progress.compiler, progress.tree) ∧
        Undisturbed client disk options contract (contextOf options version) path excluded files tree turns
          progress.tree := by
  -- Without a version nothing is touched; with one, every clause is about the turns that were handled.
  split
  · rename_i e asked answer
    intro again asking
    have refused : (client.version asking).1 = .error e := by rw [steady.version compiler asking, answer]
    cases answerToo : client.version asking with
    | mk answer' asked =>
      rw [answerToo] at refused
      obtain rfl : answer' = .error e := refused
      rw [generateAll, answerToo]
      rfl
  · rename_i version asked answer
    obtain ⟨turns, after, handled, reached⟩ := exists_turns client disk options contract
      (contextOf options version) files (asked, tree)
    obtain ⟨result, written, failed, run⟩ := generateAll_reached answer handled reached
    refine ⟨turns, _, congrArg Prod.snd run, handled, ?_⟩
    have unlinked : ∀ file ∈ files, tree.Unlinked (spareName disk options file) :=
      fun file member => (free file member).unlinked
    constructor
    case sources => exact (keeps_of_handled handled (reached.forall_turns unlinked)).sources
    case changes => exact changes_of_free handled reached rooted free
    case named => exact name_of_target
    case cleared =>
      intro written file member
      exact cleared_of_free handled reached rooted free written member
    case scanned =>
      intro factsUnlinked
      exact sources_again handled reached rooted proper unlinked factsUnlinked scanned
    case again =>
      intro factsUnlinked again repeats freeThen freeToo asking place
      refine standing_again steady repeats (by rw [steady.version compiler asking, answer]) ?_ handled reached
        rooted unlinked factsUnlinked freeThen freeToo place
      exact fun file member now framed same => Scan.fileAt_unchanged rooted proper framed same scanned member

/-- Nothing in a directory of files has a name that none of them has. -/
theorem free_of_files {tree : FileTree} {name : String}
    (files : (tree.entries.all fun e => !e.2.isDirectory && e.1 != name) = true) : tree.Free name := by
  intro folder
  rw [FileTree.standing_eq_nothing]
  -- By the folder: there is none below the root, and in the root no entry has the name.
  cases folder with
  | nil =>
    rw [List.nil_append, FileTree.at?_cons]
    cases found : tree.entries.lookup name with
    | none => rfl
    | some part =>
      have other := List.all_eq_true.mp files _ (Json.mem_of_lookup found)
      simp at other
  | cons first folder =>
    rw [List.cons_append, FileTree.at?_cons]
    cases found : tree.entries.lookup first with
    | none => rfl
    | some part =>
      have noDirectory := List.all_eq_true.mp files _ (Json.mem_of_lookup found)
      cases part with
      | directory es => simp [FileTree.isDirectory] at noDirectory
      | file bytes modified => cases folder <;> simp [FileTree.at?_cons]
      | link target => cases folder <;> simp [FileTree.at?_cons]

/-- A compiler that does not compile one source answers for each in the same way whenever it is asked. -/
theorem steady_picky : picky.Steady := ⟨fun _ _ => rfl, fun _ _ _ => rfl⟩

/-- Disks that refuse nothing go on alike, under numbers with as many digits. -/
theorem repeats_willing {setting settingToo : FileTree.Setting} {processId other : Nat}
    (cwd : settingToo.cwd = setting.cwd)
    (digits : (Nat.toDigits 10 other).length = (Nat.toDigits 10 processId).length) :
    (FileTree.Disk.willing settingToo other).Repeats (.willing setting processId) :=
  ⟨cwd, digits, fun _ => rfl, fun _ => rfl, fun _ _ => rfl, fun _ => rfl, fun _ => rfl⟩

/-- A directory with one source. -/
def lone : FileTree := .directory [("b.bicep", .file [] default)]

/-- The run over the source of the directory. -/
def loneRun : Progress Nat :=
  (generateAll picky (.willing ⟨⟨"/"⟩, ⟨0, 0⟩⟩ 7) persistent ⟨.all [], []⟩ [⟨"/b.bicep"⟩] 0 lone).2

/-- The run writes the facts about the source; another scan finds the source, and another run, an hour later
under another number, changes nothing. -/
theorem input_undisturbed_lone : loneRun.written = [⟨"/b.facts.json"⟩] ∧
    Scan.sources loneRun.tree ⟨"/"⟩ ⟨"/"⟩ [] = .ok [⟨"/b.bicep"⟩] ∧
    ∀ place, (generateAll picky (.willing ⟨⟨"/"⟩, ⟨3600, 0⟩⟩ 8) persistent ⟨.all [], []⟩ [⟨"/b.bicep"⟩] 0
      loneRun.tree).2.tree.standing place = loneRun.tree.standing place := by
  have scanned : Scan.sources lone ⟨"/"⟩ ⟨"/"⟩ [] = .ok [⟨"/b.bicep"⟩] := by
    have leads : lone.stat ⟨"/"⟩ ⟨"/"⟩ false = .ok ([], lone) := rfl
    have found : Scan.sourcesIn [] ⟨"/"⟩ lone = [⟨"/b.bicep"⟩] := by decide +kernel
    rw [Scan.sources.eq_def, leads]
    simp only [lone] at found ⊢
    rw [found, List.mergeSort_singleton]
  have proper : lone.Proper :=
    .directory (by simp [Component.IsPlain]) (by simp) (by simp [FileTree.Proper.file])
  have free : ∀ file ∈ [⟨"/b.bicep"⟩], lone.Free (spareName (.willing ⟨⟨"/"⟩, ⟨0, 0⟩⟩ 7) persistent file) :=
    List.forall_mem_singleton.mpr (free_of_files (by decide +kernel))
  have unlinked : ∀ file ∈ [⟨"/b.bicep"⟩], lone.Unlinked (SourceFile.stem file ++ SourceFile.factsEnding) :=
    List.forall_mem_singleton.mpr (free_of_files (by decide +kernel)).unlinked
  -- Behind the run there are two files, and none of them is a temporary one.
  have written : loneRun.written = [⟨"/b.facts.json"⟩] := by decide +kernel
  have freeThen : ∀ file ∈ [⟨"/b.bicep"⟩],
      loneRun.tree.Free (spareName (.willing ⟨⟨"/"⟩, ⟨0, 0⟩⟩ 7) persistent file) :=
    List.forall_mem_singleton.mpr (free_of_files (by decide +kernel))
  have freeToo : ∀ file ∈ [⟨"/b.bicep"⟩],
      loneRun.tree.Free (spareName (.willing ⟨⟨"/"⟩, ⟨3600, 0⟩⟩ 8) persistent file) :=
    List.forall_mem_singleton.mpr (free_of_files (by decide +kernel))
  obtain ⟨turns, progress, same, -, undisturbed⟩ := input_undisturbed steady_picky
    (.willing ⟨⟨"/"⟩, ⟨0, 0⟩⟩ 7) persistent ⟨.all [], []⟩ 0 rfl proper scanned free
  have same : loneRun = progress := same
  rw [same] at written freeThen freeToo ⊢
  have repeats : (FileTree.Disk.willing ⟨⟨"/"⟩, ⟨3600, 0⟩⟩ 8).Repeats (.willing ⟨⟨"/"⟩, ⟨0, 0⟩⟩ 7) :=
    repeats_willing rfl (by decide)
  exact ⟨written, undisturbed.scanned unlinked, undisturbed.again unlinked repeats freeThen
    freeToo 0⟩

/-- A directory with a source, and with a link to itself that has the name of the facts about it. -/
def looped : FileTree := .directory [("a.bicep", .file [] default), ("a.facts.json", .link ".")]

/-- The run over the source that is found behind the link. -/
def loopedRun : Progress Nat :=
  (generateAll picky (.willing ⟨⟨"/"⟩, ⟨0, 0⟩⟩ 7) { persistent with root := ⟨"/a.facts.json"⟩ } ⟨.all [], []⟩
    [⟨"/a.facts.json/a.bicep"⟩] 0 looped).2

/-- The facts about a source take the place of a link of their name: what a scan has found behind the link is
not found again. -/
theorem source_lost_behind_link : picky.Steady ∧ looped.kind = .directory ∧ looped.Proper ∧
    looped.Free (spareName (.willing ⟨⟨"/"⟩, ⟨0, 0⟩⟩ 7) { persistent with root := ⟨"/a.facts.json"⟩ }
      ⟨"/a.facts.json/a.bicep"⟩) ∧
    loopedRun.written = [⟨"/a.facts.json/a.facts.json"⟩] ∧
    Scan.sources looped ⟨"/"⟩ ⟨"/a.facts.json"⟩ [] = .ok [⟨"/a.facts.json/a.bicep"⟩] ∧
    Scan.sources loopedRun.tree ⟨"/"⟩ ⟨"/a.facts.json"⟩ [] = .ok [] := by
  have scanned : Scan.sources looped ⟨"/"⟩ ⟨"/a.facts.json"⟩ [] = .ok [⟨"/a.facts.json/a.bicep"⟩] := by
    have isLink : looped.stat ⟨"/"⟩ ⟨"/a.facts.json"⟩ false = .ok (["a.facts.json"], .link ".") := rfl
    have leads : looped.stat ⟨"/"⟩ ⟨"/a.facts.json"⟩ true = .ok ([], looped) := rfl
    have found : Scan.sourcesIn [] ⟨"/a.facts.json"⟩ looped = [⟨"/a.facts.json/a.bicep"⟩] := by decide +kernel
    rw [Scan.sources_of_start (.behindLink isLink leads), Scan.sortedIn]
    simp only [looped] at found
    rw [found, List.mergeSort_singleton]
  have proper : looped.Proper :=
    .directory (by simp [Component.IsPlain]) (by simp) (by simp [FileTree.Proper.file, FileTree.Proper.link])
  have lost : Scan.sources loopedRun.tree ⟨"/"⟩ ⟨"/a.facts.json"⟩ [] = .ok [] := by
    -- A file is there now, which is no source.
    have there : (loopedRun.tree.stat ⟨"/"⟩ ⟨"/a.facts.json"⟩ false).toOption.map (·.2.kind.shape) =
        some (.file []) := by decide +kernel
    have noSource : SourceFile.isSourceName ((⟨"/a.facts.json"⟩ : Path).fileName?.getD "/a.facts.json") =
        false := by decide +kernel
    cases leads : loopedRun.tree.stat ⟨"/"⟩ ⟨"/a.facts.json"⟩ false with
    | error e =>
      rw [leads] at there
      cases there
    | ok found =>
      obtain ⟨place, part⟩ := found
      rw [leads] at there
      cases part with
      | link target => cases there
      | directory es => cases there
      | file bytes modified =>
        rw [Scan.sources_of_start (.file leads), Scan.sortedIn, Scan.sourcesIn, noSource,
          if_neg Bool.false_ne_true, List.mergeSort_nil]
  exact ⟨steady_picky, rfl, proper, free_of_files (by decide +kernel), by decide +kernel, scanned, lost⟩

end Generation

end TemplateFacts
