import TemplateFacts.Proofs.FileTree.Passes

/-!
How far the replacement of a file comes: its directory is made or is there, the temporary file is made, filled
and moved into place, or removed when that fails. What each of these steps needs, and what it leaves, is said
by places.
-/

namespace TemplateFacts.FileTree

section OpenFolder

variable {disk again : Disk} {target : Path} {tree left : FileTree} {e : Errno}

/-- The directory of a file is there. -/
def Settled (cwd target : Path) (tree : FileTree) : Prop :=
  ∀ folder, target.parent? = some folder → folder.text ≠ "" → tree.isDirectoryAt cwd folder = true

/-- Once the directory of a file has been made, it is there. -/
theorem settled_of_openFolder (opens : (openFolder disk target tree).result = .ok ()) :
    Settled disk.setting.cwd target (openFolder disk target tree).tree := by
  -- The making reported success for each folder above the target, the nearest one included.
  intro folder parent named
  rcases openFolder_cases disk target tree with ⟨empty, -⟩ | ⟨folder', parent', -, makes⟩
  · exact absurd (empty folder parent) named
  · obtain rfl := Option.some.inj (parent.symm.trans parent')
    rw [makes, lineage_succ] at opens ⊢
    exact isDirectoryAt_of_makeAll named opens

/-- The directory of a file is not made if it is there. -/
theorem openFolder_of_settled (rooted : tree.kind = .directory)
    (settled : Settled disk.setting.cwd target tree) :
    (openFolder disk target tree).result = .ok () ∧ (openFolder disk target tree).tree = tree := by
  -- Every folder above is already a directory, so none is made.
  rcases openFolder_cases disk target tree with ⟨-, stays⟩ | ⟨folder, parent, named, makes⟩
  · rw [stays]
    exact ⟨rfl, rfl⟩
  · rw [makes]
    exact makeAll_of_isDirectoryAt rooted (settled folder parent named)

/-- The directory of a file that could not be made cannot be made in the tree that was left. -/
theorem Disk.Repeats.openFolder (repeats : again.Repeats disk)
    (fails : (FileTree.openFolder disk target tree).result = .error e)
    (alike : Alike (FileTree.openFolder disk target tree).tree left) (rooted : left.kind = .directory) :
    (∃ e', (FileTree.openFolder again target left).result = .error e') ∧
      (FileTree.openFolder again target left).tree = left := by
  -- The same directories are to be made, and making them is a matter of what is there.
  rcases openFolder_cases disk target tree with ⟨-, stays⟩ | ⟨folder, parent, named, makes⟩
  · rw [stays] at fails
    cases fails
  · rcases openFolder_cases again target left with ⟨empty, -⟩ | ⟨folder', parent', -, makesToo⟩
    · exact absurd (empty folder parent) named
    · obtain rfl := Option.some.inj (parent.symm.trans parent')
      rw [makes] at fails alike
      rw [makesToo]
      obtain ⟨failsToo, same, -⟩ := repeats.makeAll fails alike rooted
      exact ⟨failsToo, same⟩

end OpenFolder

section Temporary

variable {root : FileTree} {cwd target : Path} {processId other : Nat} {folder : List String} {name : String}

/-- Every digit takes one byte. -/
theorem utf8ByteSize_digits {cs : List Char} (isDigit : ∀ c ∈ cs, c.isDigit = true) :
    (String.ofList cs).utf8ByteSize = cs.length := by
  -- A digit is one byte long.
  induction cs with
  | nil => rfl
  | cons c cs ih =>
    obtain ⟨first, rest⟩ := List.forall_mem_cons.mp isDigit
    have split : String.ofList (c :: cs) = String.singleton c ++ String.ofList cs := by
      rw [String.singleton_eq_ofList, ← String.ofList_append, List.singleton_append]
    have one : c.utf8Size = 1 := by
      rw [Char.utf8Size_eq_one_iff]
      simp only [Char.isDigit, Bool.and_eq_true, decide_eq_true_eq] at first
      exact UInt32.le_trans first.2 (by decide)
    rw [split, String.utf8ByteSize_append, String.utf8ByteSize_singleton, ih rest, one, List.length_cons]
    omega

/-- The length of the name of a temporary file depends on the number of digits only. -/
theorem utf8ByteSize_temporaryName (processId : Nat) (name : String) :
    (temporaryName processId name).utf8ByteSize =
      name.utf8ByteSize + (Nat.toDigits 10 processId).length + 6 := by
  have repr : toString processId = String.ofList (Nat.toDigits 10 processId) := rfl
  have whole : temporaryName processId name =
      "." ++ name ++ "." ++ String.ofList (Nat.toDigits 10 processId) ++ ".tmp" := by
    rw [temporaryName, ← repr]
    rfl
  -- Two dots and an ending stand around the name and the digits.
  have dot : ".".utf8ByteSize = 1 := rfl
  have ending : ".tmp".utf8ByteSize = 4 := rfl
  rw [whole]
  simp only [String.utf8ByteSize_append, dot, ending]
  rw [utf8ByteSize_digits fun c member => Nat.isDigit_of_mem_toDigits (by decide) (by decide) member]
  omega

/-- A temporary file that is looked up is so under every number with as many digits. -/
theorem refusal?_temporaryPath
    (digits : (Nat.toDigits 10 other).length = (Nat.toDigits 10 processId).length)
    (looked : refusal? (temporaryPath processId target) = none) :
    refusal? (temporaryPath other target) = none := by
  obtain ⟨base, path⟩ := exists_temporaryPath target
  have text (processId : Nat) : (temporaryPath processId target).text =
      Path.separated base.text ++ spareOf processId target := by
    rw [path, Path.join_text base (Path.isAbsolute_plain (isPlain_spareOf processId target))]
  rw [refusal?_eq_none, text] at looked ⊢
  obtain ⟨noZero, -, short⟩ := looked
  refine ⟨?_, ?_, ?_⟩
  · -- The digits are the only difference.
    have noDigit : '\x00' ∉ Nat.toDigits 10 other := fun member =>
      absurd (Nat.isDigit_of_mem_toDigits (by decide) (by decide) member) (by decide)
    rw [String.toList_append, List.mem_append, not_or, spareOf, toList_temporaryName] at noZero ⊢
    refine ⟨noZero.1, ?_⟩
    have rest := noZero.2
    simp only [List.cons_append, List.mem_cons, List.mem_append, not_or] at rest ⊢
    exact ⟨rest.1, rest.2.1, rest.2.2.1, noDigit, rest.2.2.2.2⟩
  · -- A path that ends in a name is not empty.
    rw [ne_eq, String.append_eq_empty_iff]
    exact fun empty => (isPlain_spareOf other target).1 empty.2
  · -- The two names are equally long.
    rw [String.utf8ByteSize_append, spareOf, utf8ByteSize_temporaryName] at short ⊢
    omega

/-- A temporary file is in one directory, whatever the number in its name. -/
theorem resolveParent_temporaryPath
    (digits : (Nat.toDigits 10 other).length = (Nat.toDigits 10 processId).length)
    (found : root.resolveParent cwd (temporaryPath processId target) = .ok (folder, .name name)) :
    root.resolveParent cwd (temporaryPath other target) = .ok (folder, .name (spareOf other target)) := by
  obtain ⟨looked, before, left, whole, -, way, opened⟩ := resolveParent_eq_ok.mp found
  obtain ⟨base, path⟩ := exists_temporaryPath target
  have plain (processId : Nat) := isPlain_spareOf processId target
  rw [path, Path.trail_join cwd base (plain processId)] at whole
  obtain ⟨same, -⟩ := List.append_inj' whole rfl
  -- The name is the last component, so that the way to its directory does not depend on it.
  refine resolveParent_eq_ok.mpr ⟨refusal?_temporaryPath digits looked, before, left, ?_,
    ⟨(plain other).2.1, (plain other).2.2.1⟩, way, opened⟩
  rw [path, Path.trail_join cwd base (plain other), same]

end Temporary

/-- The name of a temporary file is not too long under any number with as many digits. -/
theorem IsShort.digits {processId other : Nat} {target : Path} (short : IsShort (spareOf processId target))
    (digits : (Nat.toDigits 10 other).length = (Nat.toDigits 10 processId).length) :
    IsShort (spareOf other target) := by
  -- The name is as long as the number of digits makes it.
  rw [IsShort, spareOf, utf8ByteSize_temporaryName] at short ⊢
  rwa [digits]

section Steps

variable {disk : Disk} {target : Path} {bytes : List UInt8} {tree created filled changed : FileTree}
  {spare : List String} {facts : String}

/-- The temporary file is made under a name that is not too long, where no directory is. -/
theorem creates_iff (unlinked : SpareUnlinked disk target tree) :
    (∃ created, disk.Does (.create (temporaryPath disk.processId target)) tree created) ↔
      disk.refuses (.create (temporaryPath disk.processId target)) = none ∧ ∃ spare,
        tree.resolveParent disk.setting.cwd (temporaryPath disk.processId target) =
          .ok (spare, .name (spareOf disk.processId target)) ∧ IsShort (spareOf disk.processId target) ∧
        tree.standing (spare ++ [spareOf disk.processId target]) ≠ .directory := by
  constructor
  · -- Without a link at its name the file is set at the name itself.
    rintro ⟨created, willing, creates⟩
    obtain ⟨spare, leads, short, free, -⟩ := (setFile_temporary unlinked).mp creates
    exact ⟨willing, spare, leads, short, free⟩
  · rintro ⟨willing, spare, leads, short, free⟩
    exact ⟨_, willing, (setFile_temporary unlinked).mpr ⟨spare, leads, short, free, rfl⟩⟩

/-- The temporary file has its bytes, and all else is as before. -/
structure Filled (disk : Disk) (target : Path) (bytes : List UInt8) (tree filled : FileTree)
    (spare : List String) : Prop where
  leads : tree.resolveParent disk.setting.cwd (temporaryPath disk.processId target) =
    .ok (spare, .name (spareOf disk.processId target))
  short : IsShort (spareOf disk.processId target)
  free : tree.standing (spare ++ [spareOf disk.processId target]) ≠ .directory
  noLink (link : String) : tree.standing (spare ++ [spareOf disk.processId target]) ≠ .link link
  rooted : tree.kind = .directory
  rootedToo : filled.kind = .directory
  stands (place : List String) (below : place ≠ []) : filled.standing place =
    if place = spare ++ [spareOf disk.processId target] then .file bytes else tree.standing place

/-- Directories and links stay where they are. -/
theorem Filled.framed (done : Filled disk target bytes tree filled spare) : Framed tree filled := by
  -- Only the spare place has changed, and neither a directory nor a link stood there.
  refine .of_kept (fun _ => done.rootedToo) fun place below isFrame => ?_
  have other : place ≠ spare ++ [spareOf disk.processId target] := by
    rintro rfl
    exact Standing.not_isFrame done.free done.noLink isFrame
  rw [done.stands place below, if_neg other]

/-- No directories or links come about. -/
theorem Filled.back (done : Filled disk target bytes tree filled spare) : Framed filled tree := by
  -- The other way round the spare place holds a file, which leads nowhere either.
  refine .of_kept (fun _ => done.rooted) fun place below isFrame => ?_
  rw [done.stands place below] at isFrame ⊢
  split at isFrame
  · exact isFrame.elim
  · rename_i other
    rw [if_neg other]

/-- The temporary file stands where it was filled. -/
theorem Filled.there (done : Filled disk target bytes tree filled spare) :
    filled.standing (spare ++ [spareOf disk.processId target]) = .file bytes := by
  rw [done.stands _ (by simp), if_pos rfl]

/-- The temporary file is empty once it has been made. -/
theorem filled_of_creates (unlinked : SpareUnlinked disk target tree) (rooted : tree.kind = .directory)
    (creates : disk.Does (.create (temporaryPath disk.processId target)) tree created) :
    ∃ spare, Filled disk target [] tree created spare := by
  -- Creating the temporary file puts an empty file at the one place that its path leads to.
  obtain ⟨spare, leads, short, free, rfl⟩ := (setFile_temporary unlinked).mp creates.performed
  have opened := opened_of_resolveParent leads
  have sets : SetAt tree _ (spare ++ [spareOf disk.processId target]) (.file []) :=
    setAt_put (entries_file [] disk.setting.now) free opened
  refine ⟨spare, leads, short, free, unlinked spare leads, rooted, ?_, sets⟩
  cases spare <;> rfl

/-- No link stands where the temporary file is. -/
theorem Filled.unlinked (done : Filled disk target bytes tree filled spare) :
    SpareUnlinked disk target filled := by
  -- The spare place holds the file just written.
  intro spare' leads link isLink
  obtain rfl : spare = spare' := by simpa using (done.framed.resolveParent done.leads).symm.trans leads
  rw [done.there] at isLink
  cases isLink

/-- The bytes of the temporary file are replaced when it is filled. -/
theorem Filled.fills {more : List UInt8} (done : Filled disk target bytes tree created spare)
    (fills : FileTree.perform disk.setting (.fill (temporaryPath disk.processId target) more) created =
      .ok filled) : Filled disk target more tree filled spare := by
  obtain ⟨spare', leads, -, free, rfl⟩ := (setFile_temporary done.unlinked).mp fills
  -- The way to the file is as it was before the file was made.
  have same := (done.framed.resolveParent done.leads).symm.trans leads
  obtain rfl : spare = spare' := by simpa using same
  have opened := opened_of_resolveParent leads
  have sets : SetAt created _ (spare ++ [spareOf disk.processId target]) (.file more) :=
    setAt_put (entries_file more disk.setting.now) free opened
  refine ⟨done.leads, done.short, done.free, done.noLink, done.rooted, ?_, fun place below => ?_⟩
  · cases spare <;> rfl
  · rw [sets place below, done.stands place below]
    split <;> rfl

/-- The temporary file is filled, unless the disk refuses it. -/
theorem Filled.exists_fills {more : List UInt8} (done : Filled disk target bytes tree created spare)
    (willing : disk.refuses (.fill (temporaryPath disk.processId target) more) = none) :
    ∃ filled, disk.Does (.fill (temporaryPath disk.processId target) more) created filled := by
  -- Filling a file that is there fails only when the system refuses it.
  refine ⟨_, willing, (setFile_temporary done.unlinked).mpr
    ⟨spare, done.framed.resolveParent done.leads, done.short, ?_, rfl⟩⟩
  simp [done.there]

/-- The temporary file is moved to a name that is not too long, where no directory is. -/
theorem Filled.moves_iff (done : Filled disk target bytes tree filled spare) (ends : target.EndsIn facts)
    (plain : (Component.name facts).IsPlain) :
    (∃ moved, disk.Does (.rename (temporaryPath disk.processId target) target) filled moved) ↔
      disk.refuses (.rename (temporaryPath disk.processId target) target) = none ∧ ∃ folder,
        tree.resolveParent disk.setting.cwd target = .ok (folder, .name facts) ∧ IsShort facts ∧
        tree.standing (folder ++ [facts]) ≠ .directory := by
  constructor
  · rintro ⟨moved, willing, moves⟩
    -- What the move looks up in the filled tree is the same in the tree before.
    obtain ⟨-, -, folder, name, -, -, leads, -, short, -, free, -⟩ := rename_eq_ok.mp moves
    obtain rfl := ends.name plain leads
    exact ⟨willing, folder, done.back.resolveParent leads, short, fun directory =>
      free (done.framed.directory directory)⟩
  · rintro ⟨willing, folder, leads, short, free⟩
    obtain ⟨modified, there⟩ := standing_eq_file.mp done.there
    refine ⟨_, willing, rename_eq_ok.mpr ⟨spare, _, folder, facts, _, done.framed.resolveParent done.leads,
      done.framed.resolveParent leads, there, short, ?_, fun directory =>
        free (done.back.directory directory), rfl⟩⟩
    rw [ends.noSlash plain, Bool.false_and]

/-- A temporary file that is moved into place brings its bytes there. -/
theorem Filled.moved {moved : FileTree} (done : Filled disk target bytes tree filled spare)
    (moves : disk.Does (.rename (temporaryPath disk.processId target) target) filled moved) :
    ∃ folder name, tree.resolveParent disk.setting.cwd target = .ok (folder, .name name) ∧
      ∀ place, place ≠ [] → moved.standing place =
        if place = folder ++ [name] then .file bytes
        else if place = spare ++ [spareOf disk.processId target] then .nothing else tree.standing place := by
  obtain ⟨fromFolder, fromName, toFolder, toName, leads, leadsToo, after⟩ := standing_rename moves.performed
  have same := (done.framed.resolveParent done.leads).symm.trans leads
  -- The move finds the file that was filled, as no other way leads there.
  obtain ⟨rfl, rfl⟩ : spare = fromFolder ∧ spareOf disk.processId target = fromName := by simpa using same
  refine ⟨toFolder, toName, done.back.resolveParent leadsToo, fun place below => ?_⟩
  rw [after bytes done.there place below, done.stands place below]
  split
  · rfl
  · split <;> rfl

/-- The temporary file is removed, unless the disk refuses it. -/
theorem Filled.exists_removes (done : Filled disk target bytes tree filled spare)
    (willing : disk.refuses (.remove (temporaryPath disk.processId target)) = none) :
    ∃ removed, disk.Does (.remove (temporaryPath disk.processId target)) filled removed :=
  ⟨_, willing, remove_eq_ok.mpr ⟨spare, _, done.framed.resolveParent done.leads, by simp [done.there],
    by simp [done.there], rfl⟩⟩

/-- Without the temporary file everything is as before, but for what was at its place. -/
theorem Filled.removed {removed : FileTree} (done : Filled disk target bytes tree filled spare)
    (removes : disk.Does (.remove (temporaryPath disk.processId target)) filled removed) (place : List String)
    (below : place ≠ []) : removed.standing place =
      if place = spare ++ [spareOf disk.processId target] then .nothing else tree.standing place := by
  -- What is removed is the spare file, as its path still leads to the same place.
  obtain ⟨folder, name, leads, sets⟩ := setAt_remove removes.performed
  have same := (done.framed.resolveParent done.leads).symm.trans leads
  obtain ⟨rfl, rfl⟩ : spare = folder ∧ spareOf disk.processId target = name := by simpa using same
  rw [sets place below, done.stands place below]
  split <;> rfl

/-- Directories and links stay where they are when the temporary file is moved, if no link is replaced. -/
theorem Filled.framed_moved {moved : FileTree} (done : Filled disk target bytes tree filled spare)
    (moves : disk.Does (.rename (temporaryPath disk.processId target) target) filled moved)
    (ends : target.EndsIn facts) (plain : (Component.name facts).IsPlain) (unlinked : tree.Unlinked facts) :
    Framed tree moved := by
  -- The root stays a directory.
  have rooted : moved.kind = .directory := by
    obtain ⟨-, -, folder, name, -, -, -, -, -, -, -, rfl⟩ := rename_eq_ok.mp moves.performed
    exact kind_put ..
  obtain ⟨folder, name, leads, after⟩ := done.moved moves
  obtain rfl := ends.name plain leads
  obtain ⟨-, folder', leads', -, free⟩ := (done.moves_iff ends plain).mp ⟨moved, moves⟩
  obtain rfl : folder = folder' := by simpa using leads.symm.trans leads'
  -- What is replaced was neither a directory nor a link, and so was the temporary file.
  refine .of_kept (fun _ => rooted) fun place below isFrame => ?_
  have other : place ≠ folder ++ [facts] := by
    rintro rfl
    exact Standing.not_isFrame free (unlinked folder) isFrame
  have spare : place ≠ spare ++ [spareOf disk.processId target] := by
    rintro rfl
    exact Standing.not_isFrame done.free done.noLink isFrame
  rw [after place below, if_neg other, if_neg spare]

/-- Moving the temporary file brings no directories or links about. -/
theorem Filled.back_moved {moved : FileTree} (done : Filled disk target bytes tree filled spare)
    (moves : disk.Does (.rename (temporaryPath disk.processId target) target) filled moved) :
    Framed moved tree := by
  obtain ⟨folder, name, -, after⟩ := done.moved moves
  refine .of_kept (fun _ => done.rooted) fun place below isFrame => ?_
  -- A file stands where it is moved to, and nothing where it was.
  rw [after place below] at isFrame ⊢
  split at isFrame
  · exact isFrame.elim
  · rename_i other
    split at isFrame
    · exact isFrame.elim
    · rename_i spare
      rw [if_neg other, if_neg spare]

/-- Directories and links are where they were once the temporary file has been removed. -/
theorem Filled.framed_removed {removed : FileTree} (done : Filled disk target bytes tree filled spare)
    (removes : disk.Does (.remove (temporaryPath disk.processId target)) filled removed) :
    Framed tree removed ∧ Framed removed tree := by
  have rooted : removed.kind = .directory := by
    obtain ⟨folder, name, -, -, -, rfl⟩ := remove_eq_ok.mp removes.performed
    exact kind_erase done.rootedToo _
  have after := done.removed removes
  -- Nothing but the temporary file is gone, and it is no part of the frame.
  constructor
  · refine .of_kept (fun _ => rooted) fun place below isFrame => ?_
    -- A file is removed, so that directories and links stay in both directions.
    have spare : place ≠ spare ++ [spareOf disk.processId target] := by
      rintro rfl
      exact Standing.not_isFrame done.free done.noLink isFrame
    rw [after place below, if_neg spare]
  · refine .of_kept (fun _ => done.rooted) fun place below isFrame => ?_
    rw [after place below] at isFrame ⊢
    split at isFrame
    · exact isFrame.elim
    · rename_i spare
      rw [if_neg spare]

end Steps

/-- How far the replacement of a file comes, given how its directory was made. -/
inductive Attempt (disk : Disk) (target : Path) (bytes : List UInt8) (opening passage : Passage Unit) : Prop
  /-- Its directory cannot be made. -/
  | unopened {e : Errno} (shut : opening.result = .error e)
    (fails : passage.result = .error e) (leaves : passage.tree = opening.tree)
  /-- The temporary file cannot be made. -/
  | uncreated {e : Errno} (opens : opening.result = .ok ())
    (uncreated : ∀ created, ¬ disk.Does (.create (temporaryPath disk.processId target)) opening.tree created)
    (fails : passage.result = .error e) (leaves : passage.tree = opening.tree)
  /-- The temporary file cannot be filled, and is left with some of the bytes. -/
  | unfilled {e : Errno} {created : FileTree} (opens : opening.result = .ok ())
    (creates : disk.Does (.create (temporaryPath disk.processId target)) opening.tree created)
    (unfilled : ∀ filled, ¬ disk.Does (.fill (temporaryPath disk.processId target) bytes) created filled)
    (leaves : passage.tree = created ∨ ∃ part, part <+: bytes ∧
      FileTree.perform disk.setting (.fill (temporaryPath disk.processId target) part) created =
        .ok passage.tree)
    (fails : passage.result = .error e)
  | moved {created filled : FileTree} (opens : opening.result = .ok ())
    (creates : disk.Does (.create (temporaryPath disk.processId target)) opening.tree created)
    (fills : disk.Does (.fill (temporaryPath disk.processId target) bytes) created filled)
    (moves : disk.Does (.rename (temporaryPath disk.processId target) target) filled passage.tree)
    (succeeds : passage.result = .ok ())
  /-- The temporary file cannot be moved into place, and is removed. -/
  | withdrawn {e : Errno} {created filled : FileTree} (opens : opening.result = .ok ())
    (creates : disk.Does (.create (temporaryPath disk.processId target)) opening.tree created)
    (fills : disk.Does (.fill (temporaryPath disk.processId target) bytes) created filled)
    (unmoved : ∀ moved, ¬ disk.Does (.rename (temporaryPath disk.processId target) target) filled moved)
    (removes : disk.Does (.remove (temporaryPath disk.processId target)) filled passage.tree)
    (fails : passage.result = .error e)
  /-- The temporary file can neither be moved into place nor removed. -/
  | stranded {e : Errno} {created : FileTree} (opens : opening.result = .ok ())
    (creates : disk.Does (.create (temporaryPath disk.processId target)) opening.tree created)
    (fills : disk.Does (.fill (temporaryPath disk.processId target) bytes) created passage.tree)
    (unmoved : ∀ moved, ¬ disk.Does (.rename (temporaryPath disk.processId target) target) passage.tree moved)
    (unremoved : ∀ removed, ¬ disk.Does (.remove (temporaryPath disk.processId target)) passage.tree removed)
    (fails : passage.result = .error e)

/-- The replacement of a file comes as far as its steps are carried out. -/
theorem attempt_replaceFile (disk : Disk) (target : Path) (content : String) (tree : FileTree) :
    Attempt disk target (Utf8.encode content) (openFolder disk target tree)
      (replaceFile disk target content tree) := by
  rw [replaceFile_eq]
  generalize openFolder disk target tree = opening
  rw [Passage.andThen]
  cases opens : opening.result with
  -- The directory could not be made, and nothing else is tried.
  | error e => exact .unopened opens rfl rfl
  | ok =>
    simp only [orStop]
    -- Each step is carried out, or ends the replacement.
    rcases disk.does_or_fails (.create (temporaryPath disk.processId target)) opening.tree with
      ⟨created, creates⟩ | ⟨uncreated, e, fails⟩
    · simp only [Passage.andThen, creates.perform, orStop]
      rcases disk.fills_or_fails (temporaryPath disk.processId target) (Utf8.encode content) created
        with ⟨filled, fills⟩ | ⟨unfilled, e, fails | ⟨part, left, begins, performed, fails⟩⟩
      · simp only [fills.fill, moveIntoPlace, Passage.andThen]
        rcases disk.does_or_fails (.rename (temporaryPath disk.processId target) target) filled with
          ⟨moved, moves⟩ | ⟨unmoved, e, fails⟩
        · simp only [moves.perform]
          exact .moved opens creates fills moves rfl
        · simp only [fails]
          rcases disk.does_or_fails (.remove (temporaryPath disk.processId target)) filled with
            ⟨removed, removes⟩ | ⟨unremoved, e, fails⟩
          · simp only [removes.perform]
            exact .withdrawn opens creates fills unmoved removes rfl
          · simp only [fails]
            exact .stranded opens creates fills unmoved unremoved rfl
      · simp only [fails]
        exact .unfilled opens creates unfilled (.inl rfl) rfl
      · simp only [fails]
        exact .unfilled opens creates unfilled (.inr ⟨part, begins, performed⟩) rfl
    · simp only [Passage.andThen, fails]
      exact .uncreated opens uncreated rfl rfl

section Ends

variable {disk : Disk} {target : Path} {bytes : List UInt8} {opening passage : Passage Unit}
  (attempt : Attempt disk target bytes opening passage)

include attempt

/-- A replacement fails if the directory of its target cannot be made, and does nothing else. -/
theorem Attempt.shut {e : Errno} (shut : opening.result = .error e) :
    (∃ e', passage.result = .error e') ∧ passage.tree = opening.tree := by
  -- Every other course has an opening that succeeded.
  cases attempt with
  | unopened _ fails leaves => exact ⟨⟨_, fails⟩, leaves⟩
  | uncreated opens | unfilled opens | moved opens | withdrawn opens | stranded opens =>
    rw [opens] at shut
    cases shut

/-- A replacement that succeeds has moved the temporary file into place. -/
theorem Attempt.moved_of_ok (succeeds : passage.result = .ok ()) :
    opening.result = .ok () ∧ ∃ created filled,
      disk.Does (.create (temporaryPath disk.processId target)) opening.tree created ∧
      disk.Does (.fill (temporaryPath disk.processId target) bytes) created filled ∧
      disk.Does (.rename (temporaryPath disk.processId target) target) filled passage.tree := by
  cases attempt with
  | moved opens creates fills moves => exact ⟨opens, _, _, creates, fills, moves⟩
  -- Every other end is a failure.
  | unopened _ fails | uncreated _ _ fails | unfilled _ _ _ _ fails | withdrawn _ _ _ _ _ fails
  | stranded _ _ _ _ _ fails =>
    rw [succeeds] at fails
    cases fails

/-- A replacement whose temporary file is filled ends with its move, if it can be moved, and fails otherwise,
with the temporary file removed if it can be. -/
theorem Attempt.of_fills {created filled : FileTree} (opens : opening.result = .ok ())
    (creates : disk.Does (.create (temporaryPath disk.processId target)) opening.tree created)
    (fills : disk.Does (.fill (temporaryPath disk.processId target) bytes) created filled) :
    disk.Does (.rename (temporaryPath disk.processId target) target) filled passage.tree ∧
        passage.result = .ok () ∨
      (∀ moved, ¬ disk.Does (.rename (temporaryPath disk.processId target) target) filled moved) ∧
        (∃ e, passage.result = .error e) ∧
        (disk.Does (.remove (temporaryPath disk.processId target)) filled passage.tree ∨
          ∀ removed, ¬ disk.Does (.remove (temporaryPath disk.processId target)) filled removed) := by
  cases attempt with
  | unopened shut => rw [opens] at shut; cases shut
  | uncreated _ uncreated => exact absurd creates (uncreated created)
  | unfilled _ createsToo unfilled =>
    -- The disk does what it does in one way only, so that these are the steps of the attempt.
    rw [creates.unique createsToo] at fills
    exact absurd fills (unfilled filled)
  | moved _ createsToo fillsToo moves succeeds =>
    -- The move succeeds, and that is the end of it.
    rw [creates.unique createsToo] at fills
    rw [fills.unique fillsToo]
    exact .inl ⟨moves, succeeds⟩
  | withdrawn _ createsToo fillsToo unmoved removes fails =>
    rw [creates.unique createsToo] at fills
    rw [fills.unique fillsToo]
    exact .inr ⟨unmoved, ⟨_, fails⟩, .inl removes⟩
  | stranded _ createsToo fillsToo unmoved unremoved fails =>
    rw [creates.unique createsToo] at fills
    rw [fills.unique fillsToo]
    exact .inr ⟨unmoved, ⟨_, fails⟩, .inr unremoved⟩

end Ends

section Replaced

variable {disk : Disk} {target : Path} {content : String} {tree : FileTree}

/-- Making the directory of a file leaves everything as it was, but for directories where nothing was. -/
theorem standing_openFolder (disk : Disk) (target : Path) (tree : FileTree) {place : List String}
    (below : place ≠ []) :
    (openFolder disk target tree).tree.standing place = tree.standing place ∨
      tree.standing place = .nothing ∧ (openFolder disk target tree).tree.standing place = .directory := by
  rcases openFolder_cases disk target tree with ⟨-, stays⟩ | ⟨folder, -, -, makes⟩
  · rw [stays]
    exact .inl rfl
  · rw [makes]
    -- No temporary file is used, whatever its name may be.
    have tame (temporary : String) : Tame temporary tree _ :=
      tame_makeAll disk (lineage (folder.text.length + 1) folder) tree
    rcases tame "." place below with same | made | ⟨named, -⟩
    · exact .inl same
    · exact .inr made
    · rcases tame ".." place below with same | made | ⟨namedToo, -⟩
      · exact .inl same
      · exact .inr made
      · exact absurd (named.symm.trans namedToo) (by decide)

/-- A replacement that succeeds leaves its bytes at the place of the target and no temporary file, and
everything else as it was with the directory of the target. -/
theorem standing_replaceFile (rooted : tree.kind = .directory)
    (unlinked : tree.Unlinked (spareOf disk.processId target))
    (succeeds : (replaceFile disk target content tree).result = .ok ()) : ∃ folder spare name,
      (openFolder disk target tree).tree.resolveParent disk.setting.cwd target = .ok (folder, .name name) ∧
      ∀ place, place ≠ [] → (replaceFile disk target content tree).tree.standing place =
        if place = folder ++ [name] then .file (Utf8.encode content)
        else if place = spare ++ [spareOf disk.processId target] then .nothing
        else (openFolder disk target tree).tree.standing place := by
  -- All four steps have been done, and the directory is as it was made.
  obtain ⟨opens, created, filled, creates, fills, moves⟩ :=
    (attempt_replaceFile disk target content tree).moved_of_ok succeeds
  have opened := passes_openFolder disk target tree
  have unlinked := opened.unlinked unlinked
  obtain ⟨spare, done⟩ := filled_of_creates unlinked.spare (opened.rooted rooted) creates
  obtain ⟨folder, name, leads, after⟩ := (done.fills fills.performed).moved moves
  exact ⟨folder, spare, name, leads, after⟩

end Replaced

end TemplateFacts.FileTree
