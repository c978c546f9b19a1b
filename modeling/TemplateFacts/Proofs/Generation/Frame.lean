import TemplateFacts.Proofs.FileTree.Replay
import TemplateFacts.Proofs.Generation.Gate
import TemplateFacts.Proofs.Scan.Rescan

/-!
What a run leaves alone: the sources and the links of the tree, and every place but those of the facts that
are written, of the directories that are made for them, and of temporary files. Where every text that was to
be written has been written, no temporary file is left.
-/

namespace TemplateFacts.Generation

open Compiler (Client)
open FileTree (Framed SameSources Standing)

/-- What is kept of a tree that facts are written to. -/
structure Keeps (tree changed : FileTree) : Prop where
  rooted : tree.kind = .directory → changed.kind = .directory
  proper : tree.Proper → changed.Proper
  /-- No links come about. -/
  unlinked {name : String} : tree.Unlinked name → changed.Unlinked name
  sources : SameSources tree changed
  /-- Where there are facts there still are some. -/
  facts {folder : List String} {stem : String} {bytes : List UInt8}
    (stands : tree.standing (folder ++ [stem ++ SourceFile.factsEnding]) = .file bytes) :
    ∃ now, changed.standing (folder ++ [stem ++ SourceFile.factsEnding]) = .file now

theorem Keeps.refl (tree : FileTree) : Keeps tree tree :=
  ⟨id, id, id, SameSources.refl tree, fun stands => ⟨_, stands⟩⟩

theorem Keeps.trans {tree between changed : FileTree} (first : Keeps tree between)
    (second : Keeps between changed) : Keeps tree changed where
  rooted root := second.rooted (first.rooted root)
  proper proper := second.proper (first.proper proper)
  unlinked unlinked := second.unlinked (first.unlinked unlinked)
  sources := first.sources.trans second.sources
  facts stands := by
    obtain ⟨bytes, stands⟩ := first.facts stands
    exact second.facts stands

/-- Facts stay where they are under the changes of a replacement, or others take their place. -/
theorem facts_of_change {disk : FileTree.Disk} {target : Path} {tree changed : FileTree}
    (change : FileTree.Change disk target tree changed) {folder : List String} {stem : String}
    {bytes : List UInt8} (stands : tree.standing (folder ++ [stem ++ SourceFile.factsEnding]) = .file bytes) :
    ∃ now, changed.standing (folder ++ [stem ++ SourceFile.factsEnding]) = .file now := by
  -- Facts have another name than the temporary file, which is all that a change can do away with.
  have apart (named : (folder ++ [stem ++ SourceFile.factsEnding]).getLast? =
      some (FileTree.spareOf disk.processId target)) : False := by
    rw [List.getLast?_concat, Option.some.injEq] at named
    exact FileTree.temporaryName_ne _ _ stem named.symm
  rw [FileTree.standing_eq_face]
  rcases change.fate (List.concat_ne_nil _ folder) with kept | fate
  · rw [kept, ← FileTree.standing_eq_face]
    exact ⟨bytes, stands⟩
  -- Where something has changed, facts have been put, or the place was free before.
  generalize changed.faceAt _ = now at fate
  cases fate with
  | made _ _ _ free =>
    rw [stands] at free
    cases free
  | used named => exact (apart named).elim
  | gone named => exact (apart named).elim
  | reached => exact ⟨_, rfl⟩

/-- Facts stay where they are, or others take their place, however many changes there are. -/
theorem facts_of_passes {disk : FileTree.Disk} {target : Path} {tree changed : FileTree}
    {earlier : List FileTree} (passes : FileTree.Passes disk target tree changed earlier)
    {folder : List String} {stem : String} {bytes : List UInt8}
    (stands : tree.standing (folder ++ [stem ++ SourceFile.factsEnding]) = .file bytes) :
    ∃ now, changed.standing (folder ++ [stem ++ SourceFile.factsEnding]) = .file now := by
  -- A facts file may be replaced by another file and by nothing else; the induction is on the changes.
  induction passes with
  | stay => exact ⟨bytes, stands⟩
  | change _ change ih =>
    obtain ⟨between, stands⟩ := ih
    exact facts_of_change change stands

section Turn

variable {σ : Type} {client : Client σ} {disk : FileTree.Disk} {options : Options} {contract : Schema}
  {context : FactsContext} {turns : List (Turn σ)} {place : List String} {file : Path}
  {before after : σ × FileTree} {outcome : Except Error Path}

/-- A turn passes through the changes that the replacement of its facts is made of. -/
theorem passes_of_turn
    (done : generateFile client disk options contract context file before.1 before.2 = (outcome, after))
    (unlinked : before.2.Unlinked (spareName disk options file)) :
    ∃ earlier, FileTree.Passes disk (options.target file) before.2 after.2 earlier ∧
      ∀ between ∈ earlier, ∃ text,
        Turn.text client disk options contract context ⟨file, before, outcome, after⟩ = .ok text ∧
          between ∈ (FileTree.replaceFile disk (options.target file) text before.2).earlier := by
  -- A turn without a text changes nothing, and one with a text replaces a file.
  cases course_of_turn done with
  | textless e _ _ same =>
    have same : after.2 = before.2 := same
    rw [same]
    exact ⟨[], .stay, by simp⟩
  | replaced text writes tree =>
    have tree : after.2 = (FileTree.replaceFile disk (options.target file) text before.2).tree := tree
    rw [tree]
    exact ⟨_, FileTree.passes_replaceFile text unlinked, fun between through => ⟨text, writes, through⟩⟩

/-- What is kept in a turn. -/
theorem keeps_of_turn
    (done : generateFile client disk options contract context file before.1 before.2 = (outcome, after))
    (unlinked : before.2.Unlinked (spareName disk options file)) : Keeps before.2 after.2 := by
  -- Each part of the frame is kept along the changes of the turn.
  obtain ⟨earlier, passes, -⟩ := passes_of_turn done unlinked
  exact {
    rooted := passes.rooted
    proper := passes.proper
    unlinked := passes.unlinked
    sources := passes.sameSources (SourceFile.endsIn_outputPath ..) (SourceFile.isPlain_facts file)
      (SourceFile.isSourceName_facts _)
    facts := facts_of_passes passes }

/-- Directories and links stay where they are in a turn, if no link has the name of its facts. -/
theorem framed_of_turn
    (done : generateFile client disk options contract context file before.1 before.2 = (outcome, after))
    (unlinked : before.2.Unlinked (spareName disk options file))
    (factsUnlinked : before.2.Unlinked (SourceFile.stem file ++ SourceFile.factsEnding)) :
    Framed before.2 after.2 := by
  obtain ⟨earlier, passes, -⟩ := passes_of_turn done unlinked
  exact passes.framed unlinked (SourceFile.endsIn_outputPath ..) (SourceFile.isPlain_facts file) factsUnlinked

/-- What is kept in turns one after the other. -/
theorem keeps_of_handled (handled : Handled client disk options contract context before turns after)
    (unlinked : ∀ turn ∈ turns, before.2.Unlinked (spareName disk options turn.file)) :
    Keeps before.2 after.2 := by
  -- The frame of the first turn lets the names stay unlinked for the later ones.
  induction handled with
  | none state => exact Keeps.refl _
  | turn done rest ih =>
    obtain ⟨here, later⟩ := List.forall_mem_cons.mp unlinked
    have kept := keeps_of_turn done here
    exact kept.trans (ih fun turn member => kept.unlinked (later turn member))

/-- Directories and links stay where they are in turns one after the other, if no link has the name of their
facts. -/
theorem framed_of_handled (handled : Handled client disk options contract context before turns after)
    (unlinked : ∀ turn ∈ turns, before.2.Unlinked (spareName disk options turn.file))
    (factsUnlinked : ∀ turn ∈ turns, before.2.Unlinked (SourceFile.stem turn.file ++ SourceFile.factsEnding)) :
    Framed before.2 after.2 := by
  -- By induction on the turns; no turn puts a link anywhere, so that the others find none either.
  induction handled with
  | none state => exact Framed.refl _
  | turn done rest ih =>
    obtain ⟨here, later⟩ := List.forall_mem_cons.mp unlinked
    obtain ⟨factsHere, factsLater⟩ := List.forall_mem_cons.mp factsUnlinked
    have kept := keeps_of_turn done here
    exact (framed_of_turn done here factsHere).trans
      (ih (fun turn member => kept.unlinked (later turn member))
        fun turn member => kept.unlinked (factsLater turn member))

variable (disk options) in
/-- What facts are written for in a turn is at a place: the facts themselves, or a directory that was made for
them where nothing was. -/
inductive Turn.Touches (turn : Turn σ) (text : String) (place : List String) : Option FileTree → Prop
  | facts {bytes : List UInt8} {modified : Timestamp.Instant}
    (reaches : turn.Reaches disk options text place) :
    turn.Touches text place (some (.file bytes modified))
  | parent {between : FileTree} {path : Path} {folder : List String} {name : String}
    (through : between ∈ (FileTree.replaceFile disk (options.target turn.file) text turn.before.2).earlier)
    (above : FileTree.Above (options.target turn.file) path)
    (leads : between.resolveParent disk.setting.cwd path = .ok (folder, .name name))
    (here : place = folder ++ [name]) (free : between.standing place = .nothing) :
    turn.Touches text place (some (.directory []))

/-- What is at a place after a turn was there before, or was written, or belongs to the temporary file. -/
theorem touched_of_turn
    (done : generateFile client disk options contract context file before.1 before.2 = (outcome, after))
    (unlinked : before.2.Unlinked (spareName disk options file)) (below : place ≠ []) :
    after.2.faceAt place = before.2.faceAt place ∨
      (∃ text, Turn.text client disk options contract context ⟨file, before, outcome, after⟩ = .ok text ∧
        Turn.Touches disk options ⟨file, before, outcome, after⟩ text place (after.2.faceAt place)) ∨
      place.getLast? = some (spareName disk options file) ∧ after.2.standing place ≠ .directory := by
  obtain ⟨earlier, passes, member⟩ := passes_of_turn done unlinked
  -- It is as it was, or one of the changes of the replacement has made it what it is.
  rcases passes.fate below with kept | ⟨between, through, fate⟩
  · exact .inl kept
  obtain ⟨text, writes, through⟩ := member between through
  rw [FileTree.standing_eq_face]
  generalize after.2.faceAt place = now at fate
  cases fate with
  | made above leads here free => exact .inr (.inl ⟨text, writes, .parent through above leads here free⟩)
  | used named => exact .inr (.inr ⟨named, by simp [FileTree.kind]⟩)
  | gone named => exact .inr (.inr ⟨named, by simp⟩)
  | reached reaches here =>
    exact .inr (.inl ⟨text, writes, .facts ⟨between, through, _, _, reaches, here⟩⟩)

/-- What is at a place after turns one after the other. -/
theorem touched_of_handled (handled : Handled client disk options contract context before turns after)
    (unlinked : ∀ turn ∈ turns, before.2.Unlinked (spareName disk options turn.file)) (below : place ≠ []) :
    after.2.faceAt place = before.2.faceAt place ∨
      (∃ turn ∈ turns, ∃ text, turn.text client disk options contract context = .ok text ∧
        turn.Touches disk options text place (after.2.faceAt place)) ∨
      ∃ turn ∈ turns, place.getLast? = some (spareName disk options turn.file) ∧
        after.2.standing place ≠ .directory := by
  -- By induction on the turns, from the first one on.
  induction handled with
  | none state => exact .inl rfl
  | @turn file before between after outcome turns done rest ih =>
    obtain ⟨here, later⟩ := List.forall_mem_cons.mp unlinked
    have kept := keeps_of_turn done here
    -- What the later turns did counts, and what the first one did if they left the place alone.
    rcases ih fun turn member => kept.unlinked (later turn member) with same | ⟨turn, member, did⟩ |
      ⟨turn, member, did⟩
    · rw [FileTree.standing_eq_face, same, ← FileTree.standing_eq_face]
      rcases touched_of_turn done here below with same | did | did
      · exact .inl same
      · exact .inr (.inl ⟨_, List.mem_cons_self, did⟩)
      · exact .inr (.inr ⟨_, List.mem_cons_self, did⟩)
    · exact .inr (.inl ⟨turn, List.mem_cons_of_mem _ member, did⟩)
    · exact .inr (.inr ⟨turn, List.mem_cons_of_mem _ member, did⟩)

variable (client disk options contract context) in
/-- Every text that was to be written has been written. -/
def AllWritten (turns : List (Turn σ)) : Prop :=
  ∀ turn ∈ turns, ∀ text, turn.text client disk options contract context = .ok text →
    ∃ target, turn.outcome = .ok target

/-- A turn that writes what was to be written leaves no file under a name that is not that of facts. -/
theorem cleared_of_turn {name : String} {folder : List String}
    (done : generateFile client disk options contract context file before.1 before.2 = (outcome, after))
    (unlinked : before.2.Unlinked (spareName disk options file)) (rooted : before.2.kind = .directory)
    (written : ∀ text,
      Turn.text client disk options contract context ⟨file, before, outcome, after⟩ = .ok text →
      ∃ target, outcome = .ok target)
    (apart : ∀ stem, name ≠ stem ++ SourceFile.factsEnding) {bytes : List UInt8}
    (stands : after.2.standing (folder ++ [name]) = .file bytes) :
    before.2.standing (folder ++ [name]) = .file bytes := by
  cases course_of_turn done with
  | textless e _ _ same =>
    have same : after.2 = before.2 := same
    rwa [same] at stands
  | replaced text writes tree ends =>
    -- There was a text, and so it was written.
    obtain ⟨target, succeeds⟩ := written text writes
    have replaced : (FileTree.replaceFile disk (options.target file) text before.2).result = .ok () := by
      rcases ends with ⟨-, done⟩ | ⟨e, fails, -⟩
      · exact done
      · cases succeeds.symm.trans fails
    have tree : after.2 = (FileTree.replaceFile disk (options.target file) text before.2).tree := tree
    obtain ⟨place, spare, facts, leads, after⟩ :=
      FileTree.standing_replaceFile rooted unlinked replaced
    have opened := FileTree.standing_openFolder disk (options.target file) before.2
      (List.concat_ne_nil name folder)
    rw [tree, after _ (by simp)] at stands
    generalize FileTree.openFolder disk (options.target file) before.2 = opening at leads opened stands
    -- The file is neither that of the facts nor the temporary one, and directories are none.
    split at stands
    · rename_i here
      obtain ⟨-, last⟩ := List.append_inj' here rfl
      have same : name = facts := by simpa using last
      exact absurd (same.trans (name_of_target leads)) (apart _)
    · split at stands
      · cases stands
      · -- What the directories that are opened leave alone stands as before.
        rcases opened with kept | ⟨-, made⟩
        · rwa [kept] at stands
        · rw [made] at stands
          cases stands

/-- Turns that write what was to be written leave no file under a name that is not that of facts. -/
theorem cleared_of_handled {name : String} {folder : List String}
    (handled : Handled client disk options contract context before turns after)
    (unlinked : ∀ turn ∈ turns, before.2.Unlinked (spareName disk options turn.file))
    (rooted : before.2.kind = .directory) (written : AllWritten client disk options contract context turns)
    (apart : ∀ stem, name ≠ stem ++ SourceFile.factsEnding) {bytes : List UInt8}
    (stands : after.2.standing (folder ++ [name]) = .file bytes) :
    before.2.standing (folder ++ [name]) = .file bytes := by
  -- By induction on the turns, from what is left at the end back to the first.
  induction handled with
  | none state => exact stands
  | turn done rest ih =>
    obtain ⟨here, later⟩ := List.forall_mem_cons.mp unlinked
    obtain ⟨writtenHere, writtenLater⟩ := List.forall_mem_cons.mp written
    have kept := keeps_of_turn done here
    exact cleared_of_turn done here rooted writtenHere apart
      (ih (fun turn member => kept.unlinked (later turn member)) (kept.rooted rooted) writtenLater stands)

end Turn

end TemplateFacts.Generation
