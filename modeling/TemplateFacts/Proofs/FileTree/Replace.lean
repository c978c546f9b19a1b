import TemplateFacts.Proofs.FileTree.Operation
import TemplateFacts.Proofs.FileTree.Temporary

/-!
What replacing a file does to the places of a tree: directories are made where nothing was, the temporary
name is used, and only at the very end does the whole content come to the place of the target.
-/

namespace TemplateFacts.FileTree

/-- One tree becomes another in a way that touches no file but those of a temporary name: otherwise
everything stands as before, but that there may be directories where nothing was. -/
def Tame (temporary : String) (tree changed : FileTree) : Prop :=
  ∀ place, place ≠ [] → changed.standing place = tree.standing place ∨
    (tree.standing place = .nothing ∧ changed.standing place = .directory) ∨
    (place.getLast? = some temporary ∧ ∀ target, changed.standing place ≠ .link target)

/-- No link stands at a place of a name. -/
def Unlinked (name : String) (tree : FileTree) : Prop :=
  ∀ folder target, tree.standing (folder ++ [name]) ≠ .link target

section Tame

variable {temporary : String} {tree between changed : FileTree} {place : List String}

theorem Tame.refl (temporary : String) (tree : FileTree) : Tame temporary tree tree :=
  fun _ _ => .inl rfl

/-- Tame changes one after the other are a tame change. -/
theorem Tame.trans (first : Tame temporary tree between) (second : Tame temporary between changed) :
    Tame temporary tree changed := by
  intro place below
  -- What the second change did to the place decides, and the first one comes before it.
  rcases second place below with same | ⟨free, made⟩ | spare
  · rw [same]
    exact first place below
  · -- What was made of nothing was nothing before, or has the temporary name.
    rcases first place below with same | ⟨-, made'⟩ | ⟨named, -⟩
    · exact .inr (.inl ⟨same ▸ free, made⟩)
    · rw [free] at made'
      cases made'
    · exact .inr (.inr ⟨named, by simp [made]⟩)
  · exact .inr (.inr spare)

/-- Tame changes make no links. -/
theorem Tame.link (tame : Tame temporary tree changed) (below : place ≠ []) {target : String}
    (link : changed.standing place = .link target) : tree.standing place = .link target := by
  -- A place is as before, or a new directory, or something that is no link.
  rcases tame place below with same | ⟨-, made⟩ | ⟨-, noLink⟩
  · rw [← same, link]
  · rw [made] at link
    cases link
  · exact absurd link (noLink target)

/-- Tame changes leave places without links as they are in this. -/
theorem Tame.unlinked {name : String} (tame : Tame temporary tree changed) (unlinked : tree.Unlinked name) :
    changed.Unlinked name :=
  fun folder target link => unlinked folder target (tame.link (by simp) link)

/-- Making a directory where nothing was is tame. -/
theorem SetAt.tame_directory (sets : SetAt tree changed place .directory)
    (free : tree.standing place = .nothing) : Tame temporary tree changed := by
  -- The one place that differs held nothing before.
  intro other below
  rw [sets other below]
  split
  · rename_i same
    exact .inr (.inl ⟨same ▸ free, rfl⟩)
  · exact .inl rfl

/-- Setting what stands at a place of the temporary name is tame, if that is no link. -/
theorem SetAt.tame_temporary {stands : Standing} {folder : List String}
    (sets : SetAt tree changed (folder ++ [temporary]) stands) (noLink : ∀ target, stands ≠ .link target) :
    Tame temporary tree changed := by
  -- The one place that differs bears the temporary name.
  intro other below
  rw [sets other below]
  split
  · rename_i same
    exact .inr (.inr ⟨by simp [same], noLink⟩)
  · exact .inl rfl

end Tame

/-- A disk carries out an operation on a tree, and another tree comes of it. -/
structure Disk.Does (disk : Disk) (operation : Operation) (tree changed : FileTree) : Prop where
  willing : disk.refuses operation = none
  performed : FileTree.perform disk.setting operation tree = .ok changed

section Does

variable {disk : Disk} {operation : Operation} {tree changed : FileTree}

/-- What a disk carries out is performed. -/
theorem Disk.Does.perform (does : disk.Does operation tree changed) :
    disk.perform operation tree = ⟨.ok (), changed, [tree]⟩ := by
  rw [Disk.perform, does.willing]
  simp only [does.performed]

/-- A disk carries an operation out, or nothing happens. -/
theorem Disk.does_or_fails (disk : Disk) (operation : Operation) (tree : FileTree) :
    (∃ changed, disk.Does operation tree changed) ∨
      (∀ changed, ¬ disk.Does operation tree changed) ∧
        ∃ e, disk.perform operation tree = ⟨.error e, tree, []⟩ := by
  -- The disk may refuse the operation, or the tree may not allow it.
  cases willing : disk.refuses operation with
  | some e =>
    refine .inr ⟨fun changed does => ?_, e, by rw [Disk.perform, willing]⟩
    rw [does.willing] at willing
    cases willing
  | none =>
    cases performed : FileTree.perform disk.setting operation tree with
    | ok changed => exact .inl ⟨changed, willing, performed⟩
    | error e =>
      refine .inr ⟨fun changed does => ?_, e, ?_⟩
      · rw [does.performed] at performed
        cases performed
      · rw [Disk.perform, willing]
        simp only [performed]

/-- An operation that succeeds is carried out. -/
theorem does_of_perform (succeeds : (disk.perform operation tree).result = .ok ()) :
    disk.Does operation tree (disk.perform operation tree).tree := by
  -- An operation that reports success has taken effect.
  rcases disk.does_or_fails operation tree with ⟨changed, does⟩ | ⟨-, e, fails⟩
  · rw [does.perform]
    exact does
  · rw [fails] at succeeds
    cases succeeds

/-- One tree only comes of an operation. -/
theorem Disk.Does.unique {other : FileTree} (does : disk.Does operation tree changed)
    (doesToo : disk.Does operation tree other) : changed = other :=
  Except.ok.inj (does.performed.symm.trans doesToo.performed)

/-- A file that a disk fills is filled as a whole. -/
theorem Disk.Does.fill {path : Path} {bytes : List UInt8} (does : disk.Does (.fill path bytes) tree changed) :
    disk.fill path bytes tree = ⟨.ok (), changed, [tree]⟩ := by
  rw [Disk.fill, does.willing]
  exact does.perform

/-- A disk fills a file, or leaves it as it is, or with some of the bytes. -/
theorem Disk.fills_or_fails (disk : Disk) (path : Path) (bytes : List UInt8) (tree : FileTree) :
    (∃ filled, disk.Does (.fill path bytes) tree filled) ∨
      (∀ filled, ¬ disk.Does (.fill path bytes) tree filled) ∧
        ∃ e, disk.fill path bytes tree = ⟨.error e, tree, []⟩ ∨
          ∃ part left, part <+: bytes ∧
            FileTree.perform disk.setting (.fill path part) tree = .ok left ∧
            disk.fill path bytes tree = ⟨.error e, left, [tree]⟩ := by
  cases willing : disk.refuses (.fill path bytes) with
  | none =>
    -- A disk that is willing fails as with any other operation.
    refine (disk.does_or_fails (.fill path bytes) tree).imp id fun ⟨unfilled, e, fails⟩ => ?_
    refine ⟨unfilled, e, .inl ?_⟩
    rw [Disk.fill, willing]
    exact fails
  | some e =>
    -- A disk that refuses to go on has filled a part, if the tree allows that.
    refine .inr ⟨fun filled does => ?_, e, ?_⟩
    · rw [does.willing] at willing
      cases willing
    · rw [Disk.fill, willing]
      dsimp only
      split
      · rename_i left performed
        exact .inr ⟨_, left, List.take_prefix _ _, performed, rfl⟩
      · exact .inl rfl

/-- A file whose filling succeeds is filled as a whole. -/
theorem does_of_fill {path : Path} {bytes : List UInt8}
    (succeeds : (disk.fill path bytes tree).result = .ok ()) :
    disk.Does (.fill path bytes) tree (disk.fill path bytes tree).tree := by
  -- Neither way of breaking off reports success.
  rcases disk.fills_or_fails path bytes tree with ⟨filled, fills⟩ | ⟨-, e, fails | ⟨_, _, -, -, fails⟩⟩
  · rw [fills.fill]
    exact fills
  · rw [fails] at succeeds
    cases succeeds
  · rw [fails] at succeeds
    cases succeeds

end Does

/-- An operation is carried out, or nothing happens. -/
theorem perform_cases (disk : Disk) (operation : Operation) (tree : FileTree) :
    (∃ changed, perform disk.setting operation tree = .ok changed ∧
      disk.perform operation tree = ⟨.ok (), changed, [tree]⟩) ∨
    ∃ e, disk.perform operation tree = ⟨.error e, tree, []⟩ := by
  -- An operation takes effect as a whole or leaves the tree as it is.
  rcases disk.does_or_fails operation tree with ⟨changed, does⟩ | ⟨-, fails⟩
  · exact .inl ⟨changed, does.performed, does.perform⟩
  · exact .inr fails

variable {temporary : String}

/-- Making a directory is tame, whether it succeeds or not. -/
theorem tame_makeDirectory (disk : Disk) (path : Path) (tree : FileTree) :
    Tame temporary tree (disk.perform (.makeDirectory path) tree).tree := by
  -- A directory is only made where nothing stands.
  rcases perform_cases disk (.makeDirectory path) tree with ⟨changed, makes, same⟩ | ⟨e, same⟩
  · obtain ⟨place, free, sets⟩ := setAt_makeDirectory makes
    rw [same]
    exact sets.tame_directory free
  · rw [same]
    exact Tame.refl temporary tree

/-- What holds of every directory that is made, and of passages one after the other, holds when directories
are made above one another, however far it comes. -/
theorem makeAll_induct {disk : Disk} {motive : FileTree → Passage Unit → Prop} {paths : List Path}
    (stay : ∀ result tree, motive tree (.stay result tree))
    (andThen : ∀ tree passage next, motive tree passage →
      motive passage.tree (next passage.result passage.tree) → motive tree (passage.andThen next))
    (make : ∀ path ∈ paths, ∀ tree, motive tree (disk.perform (.makeDirectory path) tree))
    (tree : FileTree) : motive tree (makeAll disk paths tree) := by
  -- By induction on the paths: whatever a step leaves is where the next one starts.
  induction paths generalizing tree with
  | nil => exact stay _ tree
  | cons path above ih =>
    obtain ⟨first, others⟩ := List.forall_mem_cons.mp make
    rw [makeAll]
    split
    · exact stay _ tree
    refine andThen _ _ _ (first tree) ?_
    generalize (disk.perform (.makeDirectory path) tree).tree = tree
    generalize (disk.perform (.makeDirectory path) _).result = result
    split
    · -- The directories above are made before another attempt.
      rw [if_pos rfl]
      refine andThen _ _ _ (ih others tree) ?_
      generalize (makeAll disk above tree).tree = tree
      generalize (makeAll disk above _).result = result
      cases result with
      | error e => exact stay _ tree
      | ok =>
        refine andThen _ _ _ (first tree) ?_
        generalize (disk.perform (.makeDirectory path) tree).result = result
        cases result <;> exact stay ..
    · rw [if_neg Bool.false_ne_true]
      cases result <;> exact stay ..

/-- Making directories is tame, however far it comes. -/
theorem tame_makeAll (disk : Disk) (paths : List Path) (tree : FileTree) :
    Tame temporary tree (makeAll disk paths tree).tree :=
  makeAll_induct (motive := fun tree passage => Tame temporary tree passage.tree)
    (fun _ tree => Tame.refl temporary tree) (fun _ _ _ first second => first.trans second)
    (fun path _ tree => tame_makeDirectory disk path tree) tree

/-- What becomes of a tree when the file at a path is to be replaced by one with the given bytes. -/
inductive Replacement (disk : Disk) (target : Path) (bytes : List UInt8) (temporary : String)
    (tree : FileTree) (passage : Passage Unit) : Prop
  /-- It fails, and nothing but the temporary name was used. -/
  | failed {e : Errno} (fails : passage.result = .error e) (tame : Tame temporary tree passage.tree)
  /-- It succeeds: the bytes have come from the temporary place to that of the target. -/
  | done {between : FileTree} {folder spare : List String} {name : String}
    (succeeds : passage.result = .ok ()) (through : between ∈ passage.earlier)
    (tame : Tame temporary tree between)
    (leads : resolveParent between disk.setting.cwd target = .ok (folder, .name name))
    (after : ∀ other, other ≠ [] → passage.tree.standing other =
      if other = folder ++ [name] then .file bytes
      else if other = spare ++ [temporary] then .nothing else between.standing other) :
    Replacement disk target bytes temporary tree passage

section Replacement

variable {disk : Disk} {target : Path} {bytes : List UInt8} {tree between : FileTree}
  {next : Except Errno Unit → FileTree → Passage Unit}

/-- Goes on only after success. -/
def Stops (next : Except Errno Unit → FileTree → Passage Unit) : Prop :=
  ∀ e tree, next (.error e) tree = .stay (.error e) tree

/-- What is replaced after tame steps is replaced in the tree before them. -/
theorem Replacement.andThen {passage : Passage Unit} (first : Tame temporary tree passage.tree)
    (stops : Stops next)
    (onward : Replacement disk target bytes temporary passage.tree (next (.ok ()) passage.tree)) :
    Replacement disk target bytes temporary tree (passage.andThen next) := by
  rw [Passage.andThen]
  -- A failure of the first steps is that of the whole.
  cases passage.result with
  | error e =>
    rw [stops]
    exact .failed rfl first
  | ok =>
    cases onward with
    | failed fails tame => exact .failed fails (first.trans tame)
    | done succeeds through tame leads after =>
      exact .done succeeds (List.mem_append_left _ through) (first.trans tame) leads after

/-- A temporary file that is moved into place brings its bytes to the target. -/
theorem replacement_moveIntoPlace {spare : Path} {folder : List String}
    (leads : tree.resolveParent disk.setting.cwd spare = .ok (folder, .name temporary))
    (holds : tree.standing (folder ++ [temporary]) = .file bytes) :
    Replacement disk target bytes temporary tree (moveIntoPlace disk spare target tree) := by
  rw [moveIntoPlace]
  rcases perform_cases disk (.rename spare target) tree with ⟨changed, moves, same⟩ | ⟨e, same⟩
  · obtain ⟨fromFolder, fromName, toFolder, toName, parent, parentToo, after⟩ := standing_rename moves
    -- What is moved is what was written.
    cases leads.symm.trans parent
    -- The move is the last step, and it succeeds.
    rw [same]
    exact .done rfl (List.mem_cons_self) (Tame.refl temporary tree) parentToo (after bytes holds)
  · -- What could not be moved is removed, if that is possible.
    rw [same]
    refine .failed rfl ?_
    rcases perform_cases disk (.remove spare) tree with ⟨changed, removes, same⟩ | ⟨e, same⟩
    · obtain ⟨fromFolder, fromName, parent, sets⟩ := setAt_remove removes
      cases leads.symm.trans parent
      simp only [Passage.andThen, Passage.stay, same]
      exact sets.tame_temporary (by simp)
    · simp only [Passage.andThen, Passage.stay, same]
      exact Tame.refl temporary tree

/-- Setting the bytes of the temporary file is tame, and leaves it where it is. -/
theorem tame_fill {spare : Path} {before : List String} {changed : FileTree}
    (ends : spare.EndsIn temporary) (plain : (Component.name temporary).IsPlain)
    (whole : trail disk.setting.cwd spare = before ++ [temporary]) (unlinked : tree.Unlinked temporary)
    (fills : FileTree.perform disk.setting (.fill spare bytes) tree = .ok changed) :
    Tame temporary tree changed ∧ ∃ folder,
      changed.resolveParent disk.setting.cwd spare = .ok (folder, .name temporary) ∧
        changed.standing (folder ++ [temporary]) = .file bytes := by
  obtain ⟨folder, leads, -, free, rfl⟩ := (setFile_eq_ok ends plain whole fun folder _ => unlinked folder).mp fills
  have opened := opened_of_resolveParent leads
  have sets : SetAt tree _ (folder ++ [temporary]) (.file bytes) :=
    setAt_put (entries_file bytes disk.setting.now) free opened
  -- The way to the temporary file is as before, as that is neither a directory nor a link.
  have framed : Framed tree _ :=
    framed_put (entries_file bytes disk.setting.now) opened free (unlinked folder)
  refine ⟨sets.tame_temporary (by simp), folder, framed.resolveParent leads, ?_⟩
  rw [sets _ (by simp), if_pos rfl]

/-- The bytes of the temporary file are set, and then moved into place. -/
theorem replacement_fill {spare : Path} {before : List String} (ends : spare.EndsIn temporary)
    (plain : (Component.name temporary).IsPlain)
    (whole : trail disk.setting.cwd spare = before ++ [temporary])
    (unlinked : tree.Unlinked temporary) (stops : Stops next)
    (moves : next (.ok ()) = moveIntoPlace disk spare target) :
    Replacement disk target bytes temporary tree
      ((disk.fill spare bytes tree).andThen next) := by
  rcases disk.fills_or_fails spare bytes tree with ⟨filled, fills⟩ |
    ⟨-, e, same | ⟨part, left, -, fills, same⟩⟩
  · obtain ⟨tame, folder, leads, holds⟩ := tame_fill ends plain whole unlinked fills.performed
    rw [fills.fill]
    refine Replacement.andThen tame stops ?_
    rw [moves]
    exact replacement_moveIntoPlace leads holds
  · -- Filling it has failed, and nothing else is tried.
    rw [same, Passage.andThen, stops]
    exact .failed rfl (Tame.refl temporary tree)
  · -- It has failed with a part of the bytes in the file.
    rw [same, Passage.andThen, stops]
    exact .failed rfl (tame_fill ends plain whole unlinked fills).1

/-- Replacing a file is a replacement of its bytes that uses the temporary name of the target. -/
theorem replacement_replaceFile (content : String)
    (unlinked : tree.Unlinked (temporaryName disk.processId (target.fileName?.getD ""))) :
    Replacement disk target (Utf8.encode content)
      (temporaryName disk.processId (target.fileName?.getD "")) tree
      (replaceFile disk target content tree) := by
  have plain := isPlain_temporaryPath disk.processId target
  have ends := endsIn_temporaryPath disk.processId target
  obtain ⟨before, whole⟩ := (ends.join disk.setting.cwd).segments plain
  rw [replaceFile.eq_def]
  extract_lets temporary parents stopOr
  have stops (next : FileTree → Passage Unit) : Stops (stopOr next) := fun _ _ => rfl
  -- The directory of the target comes first, then the empty temporary file, then its bytes.
  have tame : Tame (temporaryName disk.processId (target.fileName?.getD "")) tree parents.tree := by
    unfold parents
    split
    · split
      · exact Tame.refl _ tree
      · exact tame_makeAll disk _ tree
    · exact Tame.refl _ tree
  refine Replacement.andThen tame (stops _) ?_
  -- None of the directories that were made is a link of the temporary name.
  have unlinkedStill := tame.unlinked unlinked
  generalize parents.tree = tree at unlinkedStill
  show Replacement _ _ _ _ tree ((disk.perform (.create temporary) tree).andThen _)
  rcases perform_cases disk (.create temporary) tree with ⟨changed, creates, same⟩ | ⟨e, same⟩
  · obtain ⟨folder, -, -, sets⟩ :=
      setAt_setFile ends plain whole (fun folder _ => unlinkedStill folder) creates
    have made := sets.tame_temporary (by simp)
    rw [same]
    refine Replacement.andThen made (stops _) ?_
    exact replacement_fill ends plain whole (made.unlinked unlinkedStill) (stops _) rfl
  · -- It could not even be made.
    rw [same]
    exact .failed rfl (Tame.refl _ tree)

end Replacement

end TemplateFacts.FileTree
