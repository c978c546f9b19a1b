import TemplateFacts.Proofs.FileTree.Attempt

/-!
A file is replaced as a whole. Whatever step fails, and wherever the process stops, the place of the target
holds what was there before or all of the new content, and only the places of the temporary file and of
missing directories change beside it.

A target can lead back to one of its own directories, as `x/../x` does. When that one is missing, it is made
where the file should come, and the replacement fails.
-/

namespace TemplateFacts.FileTree

section Grows

variable {cwd target : Path} {tree seen later : FileTree} {place : List String}

/-- A tree becomes another one as directories above a target are made where nothing was. -/
inductive Grows (cwd target : Path) (tree : FileTree) : FileTree → Prop
  | stay : Grows cwd target tree tree
  | make {between : FileTree} {path : Path} {folder : List String} {name : String}
    (grows : Grows cwd target tree between) (above : Above target path)
    (leads : between.resolveParent cwd path = .ok (folder, .name name))
    (free : between.standing (folder ++ [name]) = .nothing) :
    Grows cwd target tree (put empty (folder ++ [name]) between)

theorem Grows.trans (first : Grows cwd target tree seen) (second : Grows cwd target seen later) :
    Grows cwd target tree later := by
  -- The second way is walked again behind the first.
  induction second with
  | stay => exact first
  | make _ above leads free ih => exact ih.make above leads free

/-- A tree that grows keeps its directories and links. -/
theorem Grows.framed (grows : Grows cwd target tree seen) : Framed tree seen := by
  -- Each made directory stood nowhere before, so nothing that leads anywhere is changed.
  induction grows with
  | stay => exact Framed.refl tree
  | make _ _ leads free ih =>
    exact ih.trans (framed_put rfl (opened_of_resolveParent leads) (by simp [free]) (by simp [free]))

/-- A place of a tree that grows is left as it was, or becomes that of a directory above the target. -/
theorem Grows.standing (grows : Grows cwd target tree seen) (below : place ≠ []) :
    seen.standing place = tree.standing place ∨
      tree.standing place = .nothing ∧ seen.standing place = .directory ∧
        ∃ path, Above target path ∧ seen.placeOf cwd path = some place := by
  induction grows with
  | stay => exact .inl rfl
  | @make between path folder name grows above leads free ih =>
    have opened := opened_of_resolveParent leads
    have framed : Framed between (put empty (folder ++ [name]) between) :=
      framed_put rfl opened (by simp [free]) (by simp [free])
    have sets : SetAt between _ (folder ++ [name]) .directory :=
      setAt_put entries_empty (by simp [free]) opened
    rw [sets place below]
    -- Nothing was there before either, as no directory comes about twice.
    by_cases here : place = folder ++ [name]
    · subst here
      rcases ih with kept | ⟨-, made, -⟩
      · exact .inr ⟨kept ▸ free, if_pos rfl, path, above,
          framed.placeOf (placeOf_eq_some.mpr ⟨folder, name, leads, rfl⟩)⟩
      · rw [free] at made
        cases made
    · rw [if_neg here]
      refine ih.imp id fun ⟨old, made, path, above, leads⟩ => ?_
      exact ⟨old, made, path, above, framed.placeOf leads⟩

/-- A passage through trees that only grow. -/
def Passage.Grows (cwd target : Path) (tree : FileTree) (passage : Passage Unit) : Prop :=
  ∀ seen ∈ passage.trees, FileTree.Grows cwd target tree seen ∧ FileTree.Grows cwd target seen passage.tree

theorem grows_stay (result : Except Errno Unit) :
    (Passage.stay result tree).Grows cwd target tree := by
  -- Nothing happened, so the only tree is the first one.
  intro seen member
  rw [mem_trees_stay.mp member]
  exact ⟨.stay, .stay⟩

theorem Passage.Grows.andThen {passage : Passage Unit} {next : Except Errno Unit → FileTree → Passage Unit}
    (first : passage.Grows cwd target tree)
    (second : (next passage.result passage.tree).Grows cwd target passage.tree) :
    (passage.andThen next).Grows cwd target tree := by
  -- What is seen in the second passage is behind the first one, and what is seen in the first
  -- before the second.
  have middle := (first passage.tree (tree_mem_trees passage)).1
  intro seen member
  rcases mem_trees_andThen.mp member with later | earlier
  · obtain ⟨before, after⟩ := second seen later
    exact ⟨middle.trans before, after⟩
  · obtain ⟨before, after⟩ := first seen (List.mem_cons_of_mem _ earlier)
    exact ⟨before, after.trans (second _ (tree_mem_trees _)).1⟩

/-- Trees only grow while a directory above the target is made. -/
theorem grows_makeDirectory {disk : Disk} {path : Path} (above : Above target path) (tree : FileTree) :
    (disk.perform (.makeDirectory path) tree).Grows disk.setting.cwd target tree := by
  have step {changed : FileTree} (does : disk.Does (.makeDirectory path) tree changed) :
      FileTree.Grows disk.setting.cwd target tree changed := by
    obtain ⟨folder, name, leads, -, free, rfl⟩ := makeDirectory_eq_ok.mp does.performed
    exact .make .stay above leads free
  -- The trees that are seen are the one before and the one after, which are one if the call fails.
  intro seen member
  rcases disk.does_or_fails (.makeDirectory path) tree with ⟨changed, does⟩ | ⟨-, e, fails⟩
  · rw [does.perform] at member ⊢
    rw [Passage.trees, List.mem_cons, List.mem_singleton] at member
    rcases member with rfl | rfl
    · exact ⟨step does, .stay⟩
    · exact ⟨.stay, step does⟩
  · rw [fails] at member ⊢
    rw [Passage.trees, List.mem_singleton] at member
    subst member
    exact ⟨.stay, .stay⟩

/-- Trees only grow while the directory of the target is made. -/
theorem grows_openFolder (disk : Disk) (target : Path) (tree : FileTree) :
    (openFolder disk target tree).Grows disk.setting.cwd target tree := by
  -- Each folder made is one above the target, and the making goes from the top down.
  rcases openFolder_cases disk target tree with ⟨-, stays⟩ | ⟨folder, parent, -, makes⟩
  · rw [stays]
    exact grows_stay _
  · rw [makes]
    exact makeAll_induct (motive := fun tree passage => passage.Grows disk.setting.cwd target tree)
      (fun _ _ => grows_stay _) (fun _ _ _ first second => first.andThen second)
      (fun path member tree => grows_makeDirectory ⟨folder, parent, member⟩ tree) tree

end Grows

/-- The place of a target, once its directories have been made. -/
def targetPlace (disk : Disk) (target : Path) (tree : FileTree) : Option (List String) :=
  (openFolder disk target tree).tree.placeOf disk.setting.cwd target

/-- The place of the temporary file for a target, once its directories have been made. -/
def sparePlace (disk : Disk) (target : Path) (tree : FileTree) : Option (List String) :=
  (openFolder disk target tree).tree.placeOf disk.setting.cwd (temporaryPath disk.processId target)

/-- At a place there is what was there before, or where nothing was there is now one of the directories above
the target. -/
def Kept (disk : Disk) (target : Path) (tree seen : FileTree) (place : List String) : Prop :=
  seen.standing place = tree.standing place ∨
    tree.standing place = .nothing ∧ seen.standing place = .directory ∧
      ∃ path, Above target path ∧
        (openFolder disk target tree).tree.placeOf disk.setting.cwd path = some place

/-- What can be seen while a file is replaced, and is left if a step fails or the process stops then. -/
inductive Seen (disk : Disk) (target : Path) (content : String) (tree seen : FileTree) : Prop
  /-- Between two steps, before the first one, or behind the last one. -/
  | passed (member : seen ∈ (replaceFile disk target content tree).trees)
  /-- While the temporary file is filled, it has got some of its bytes. -/
  | filling {created : FileTree} {part : List UInt8} (opens : (openFolder disk target tree).result = .ok ())
    (creates : disk.Does (.create (temporaryPath disk.processId target)) (openFolder disk target tree).tree
      created)
    (begins : part <+: Utf8.encode content)
    (fills : FileTree.perform disk.setting (.fill (temporaryPath disk.processId target) part) created = .ok seen)

/-- A file is replaced as a whole, or not at all. -/
structure Atomic (disk : Disk) (target : Path) (content : String) (tree : FileTree) : Prop where
  /-- Whenever the target leads anywhere, it leads to the same place. -/
  leads {seen : FileTree} {place : List String} (sees : Seen disk target content tree seen)
    (leads : seen.placeOf disk.setting.cwd target = some place) : targetPlace disk target tree = some place
  /-- Its place holds the old content or the new one, and the new one only when the replacement is done. -/
  either {seen : FileTree} {place : List String} (sees : Seen disk target content tree seen)
    (leads : targetPlace disk target tree = some place) :
    Kept disk target tree seen place ∨ seen.standing place = .file (Utf8.encode content) ∧
      seen = (replaceFile disk target content tree).tree ∧
      (replaceFile disk target content tree).result = .ok ()
  /-- If the target does not climb, no directory is ever made at its place. -/
  unclimbed {seen : FileTree} {place : List String} (sees : Seen disk target content tree seen)
    (leads : targetPlace disk target tree = some place) (noClimb : ".." ∉ segments target.text) :
    seen.standing place = tree.standing place ∨ seen.standing place = .file (Utf8.encode content)
  /-- Everywhere else, but for the temporary file, nothing changes. -/
  others {seen : FileTree} (sees : Seen disk target content tree seen) (place : List String)
    (noTarget : targetPlace disk target tree ≠ some place)
    (noSpare : sparePlace disk target tree ≠ some place) : Kept disk target tree seen place
  /-- A replacement that succeeds leaves the new content and no temporary file. -/
  ok (succeeds : (replaceFile disk target content tree).result = .ok ()) :
    ∃ place spare, targetPlace disk target tree = some place ∧ sparePlace disk target tree = some spare ∧
      (replaceFile disk target content tree).tree.standing place = .file (Utf8.encode content) ∧
      (replaceFile disk target content tree).tree.standing spare = .nothing
  /-- A replacement each step of which is carried out succeeds. -/
  completed {created filled moved : FileTree} (opens : (openFolder disk target tree).result = .ok ())
    (creates : disk.Does (.create (temporaryPath disk.processId target)) (openFolder disk target tree).tree
      created)
    (fills : disk.Does (.fill (temporaryPath disk.processId target) (Utf8.encode content)) created filled)
    (moves : disk.Does (.rename (temporaryPath disk.processId target) target) filled moved) :
    (replaceFile disk target content tree).result = .ok () ∧ (replaceFile disk target content tree).tree = moved
  /-- A replacement that fails leaves the old content. -/
  error {e : Errno} {place : List String} (fails : (replaceFile disk target content tree).result = .error e)
    (leads : targetPlace disk target tree = some place) :
    Kept disk target tree (replaceFile disk target content tree).tree place
  /-- It fails as well wherever a directory has come to be at the place of the target. -/
  blocked {seen : FileTree} {place : List String} (sees : Seen disk target content tree seen)
    (leads : targetPlace disk target tree = some place) (directory : seen.standing place = .directory) :
    ∃ e, (replaceFile disk target content tree).result = .error e
  /-- A temporary file that cannot be moved into place is removed, unless the disk refuses that. -/
  withdrawn {created filled : FileTree} {spare : List String}
    (opens : (openFolder disk target tree).result = .ok ())
    (creates : disk.Does (.create (temporaryPath disk.processId target)) (openFolder disk target tree).tree
      created)
    (fills : disk.Does (.fill (temporaryPath disk.processId target) (Utf8.encode content)) created filled)
    (unmoved : ∀ moved, ¬ disk.Does (.rename (temporaryPath disk.processId target) target) filled moved)
    (willing : disk.refuses (.remove (temporaryPath disk.processId target)) = none)
    (leads : sparePlace disk target tree = some spare) :
    (∃ e, (replaceFile disk target content tree).result = .error e) ∧
      (replaceFile disk target content tree).tree.standing spare = .nothing

section Stages

variable {disk : Disk} {target : Path} {content : String} {bytes : List UInt8} {tree seen changed : FileTree}
  {place spare : List String} {opening passage : Passage Unit}

/-- What is kept is kept wherever the same stands. -/
theorem Kept.same (kept : Kept disk target tree seen place)
    (same : changed.standing place = seen.standing place) : Kept disk target tree changed place := by
  rwa [Kept, same]

/-- The place of the target is not that of its temporary file, whose name is longer. -/
theorem targetPlace_ne (leads : targetPlace disk target tree = some place)
    (leadsToo : sparePlace disk target tree = some spare) : place ≠ spare := by
  rintro rfl
  obtain ⟨folder, name, found, rfl⟩ := placeOf_eq_some.mp leads
  obtain ⟨folder', name', foundToo, here⟩ := placeOf_eq_some.mp leadsToo
  obtain ⟨-, last⟩ := List.append_inj' here rfl
  obtain rfl : name = name' := by simpa using last
  obtain ⟨looked, before, -, whole, isName, -⟩ := resolveParent_eq_ok.mp found
  -- The name of the target stands inside that of its temporary file, which is therefore longer.
  have named := Path.fileName?_of_trail (refusal?_eq_none.mp looked).2.1 whole isName.1 isName.2
  have spared := (endsIn_temporaryPath disk.processId target).name
    (isPlain_spareOf disk.processId target) foundToo
  rw [named, Option.getD_some] at spared
  have length := congrArg (fun s : String => s.toList.length) spared
  simp only [toList_temporaryName, List.length_cons, List.length_append] at length
  omega

/-- What is passed through when the temporary file is moved into place, or removed. -/
theorem mem_trees_moveIntoPlace {temporary : Path}
    (member : seen ∈ (moveIntoPlace disk temporary target tree).trees) :
    seen = tree ∨ disk.Does (.rename temporary target) tree seen ∨ disk.Does (.remove temporary) tree seen := by
  rw [moveIntoPlace] at member
  -- It is seen behind the move, or while the file is moved.
  rcases mem_trees_andThen.mp member with later | earlier
  · cases result : (disk.perform (.rename temporary target) tree).result with
    | ok =>
      rw [result] at later
      rw [mem_trees_stay.mp later]
      exact .inr (.inl (does_of_perform result))
    | error e =>
      -- The tree is the same as before the file should have been moved.
      have stays : (disk.perform (.rename temporary target) tree).tree = tree := by
        rcases disk.does_or_fails (.rename temporary target) tree with ⟨moved, moves⟩ | ⟨-, e, fails⟩
        · rw [moves.perform] at result
          cases result
        · rw [fails]
      rw [result, stays] at later
      -- The temporary file is there still, or is removed.
      have passed : seen ∈ (disk.perform (.remove temporary) tree).trees := by
        rcases mem_trees_andThen.mp later with last | first
        · rw [mem_trees_stay.mp last]
          exact tree_mem_trees _
        · exact List.mem_cons_of_mem _ first
      exact (mem_trees_perform passed).imp id .inr
  · have passed := mem_trees_perform (List.mem_cons_of_mem _ earlier)
    exact passed.imp id .inl

/-- How a tree that is seen has come of the one with the directory of the target. -/
inductive Stage (disk : Disk) (target : Path) (bytes : List UInt8) (opening : Passage Unit)
    (seen : FileTree) : Prop
  /-- The directory of the target is made. -/
  | opening (member : seen ∈ opening.trees)
  /-- The temporary file is there, with some bytes. -/
  | spare {part : List UInt8} {spare : List String} (done : Filled disk target part opening.tree seen spare)
  | moved {created filled : FileTree} {spare : List String} (opens : opening.result = .ok ())
    (creates : disk.Does (.create (temporaryPath disk.processId target)) opening.tree created)
    (fills : disk.Does (.fill (temporaryPath disk.processId target) bytes) created filled)
    (done : Filled disk target bytes opening.tree filled spare)
    (moves : disk.Does (.rename (temporaryPath disk.processId target) target) filled seen)
  | removed {filled : FileTree} {spare : List String} (done : Filled disk target bytes opening.tree filled spare)
    (removes : disk.Does (.remove (temporaryPath disk.processId target)) filled seen)

/-- Every tree that is seen comes about in one of these ways. -/
theorem stage_of_seen (rooted : (openFolder disk target tree).tree.kind = .directory)
    (unlinked : SpareUnlinked disk target (openFolder disk target tree).tree)
    (sees : Seen disk target content tree seen) :
    Stage disk target (Utf8.encode content) (openFolder disk target tree) seen := by
  cases sees with
  | filling opens creates begins fills =>
    -- While the temporary file is filled it has the first bytes, and all else stands.
    obtain ⟨spare, done⟩ := filled_of_creates unlinked rooted creates
    exact .spare (done.fills fills)
  | passed member =>
    rw [replaceFile_eq] at member
    generalize openFolder disk target tree = opening at *
    -- It is seen at one of the steps, each of which follows a success of those before it.
    rcases mem_trees_orStop member with passed | ⟨opens, member⟩
    · exact .opening passed
    rcases mem_trees_orStop member with passed | ⟨success, member⟩
    · rcases mem_trees_perform passed with rfl | creates
      · exact .opening (tree_mem_trees _)
      · obtain ⟨spare, done⟩ := filled_of_creates unlinked rooted creates
        exact .spare done
    have creates := does_of_perform success
    obtain ⟨spare, done⟩ := filled_of_creates unlinked rooted creates
    rcases mem_trees_orStop member with passed | ⟨success, member⟩
    · rcases mem_trees_fill passed with rfl | ⟨part, -, fills⟩
      · exact .spare done
      · exact .spare (done.fills fills)
    have fills := does_of_fill success
    have done := done.fills fills.performed
    rcases mem_trees_moveIntoPlace member with rfl | moves | removes
    · exact .spare done
    · exact .moved opens creates fills done moves
    · exact .removed done removes

/-- A target that does not climb does not lead to a directory above it, if no links are there. -/
theorem Above.placeOf_ne {path cwd : Path} (above : Above target path)
    (noClimb : ".." ∉ segments target.text) (leads : tree.placeOf cwd target = some place)
    (noLinks : ∀ below link, tree.standing (place ++ below) ≠ .link link) :
    tree.placeOf cwd path ≠ some place := by
  intro leadsToo
  obtain ⟨folder, name, found, rfl⟩ := placeOf_eq_some.mp leads
  obtain ⟨folder', name', foundToo, here⟩ := placeOf_eq_some.mp leadsToo
  -- The two places are the same, so that both ways end in the same directory.
  obtain ⟨rfl, last⟩ := List.append_inj' here rfl
  obtain rfl : name = name' := by simpa using last
  obtain ⟨-, before, left, whole, isName, way, -⟩ := resolveParent_eq_ok.mp found
  obtain ⟨looked, first, middle, wholeToo, -, wayToo, -⟩ := resolveParent_eq_ok.mp foundToo
  obtain ⟨more, some, trails, texts⟩ := above.trail cwd (refusal?_eq_none.mp looked).2.1
  -- Behind the directory the target goes on from its place, and comes back to where that is.
  obtain ⟨init, final, rfl⟩ := List.eq_nil_or_concat more |>.resolve_left some
  rw [whole, wholeToo, List.concat_eq_append, ← List.append_assoc] at trails
  obtain ⟨rfl, -⟩ := List.append_inj' trails rfl
  rw [List.append_assoc, List.singleton_append] at way
  obtain ⟨folder', middle', early, -, late⟩ := way.split (.inl rfl) (List.cons_ne_nil _ _)
  obtain ⟨rfl, -⟩ := Spot.mk.inj (Except.ok.inj (early.goFollowing.symm.trans wayToo.goFollowing))
  have climbs : ".." ∉ init := fun member => noClimb (by simp [texts, member])
  have inside {there : List String} (late : tree.Way true middle' true folder' (name :: init) there left) :
      folder' ++ [name] <+: there := by
    cases late with
    | missing => exact List.prefix_rfl
    | dot => exact absurd rfl isName.1
    | up => exact absurd rfl isName.2
    | enter _ _ _ onward => exact onward.stays_below climbs noLinks List.prefix_rfl
    | follow _ _ stands => exact absurd stands (by simpa using noLinks [] _)
  -- It comes back to a place that is longer than the one it has to be.
  have length := (inside late).length_le
  rw [List.length_append, List.length_singleton] at length
  omega

/-- The place of a target that does not climb is kept only as it was. -/
theorem Kept.unclimbed (kept : Kept disk target tree seen place) (noClimb : ".." ∉ segments target.text)
    (leads : targetPlace disk target tree = some place) : seen.standing place = tree.standing place := by
  refine kept.resolve_right fun ⟨free, _, path, above, leadsToo⟩ => ?_
  refine above.placeOf_ne noClimb leads (fun below link isLink => ?_) leadsToo
  have grows := (grows_openFolder disk target tree _ (tree_mem_trees _)).1
  have inside : place ++ below ≠ [] := by
    obtain ⟨folder, name, -, rfl⟩ := placeOf_eq_some.mp leads
    simp
  -- Below a place where nothing was there are no links.
  rcases grows.standing inside with same | ⟨-, made, -⟩
  · rw [isLink] at same
    cases below with
    | nil => simp [free] at same
    | cons name below =>
      have something : tree.standing (place ++ name :: below) ≠ .nothing := by simp [← same]
      have directory := standing_above something
      rw [free] at directory
      cases directory
  · rw [isLink] at made
    cases made

/-- The temporary file has its bytes at its place. -/
theorem Filled.sparePlace (done : Filled disk target bytes (openFolder disk target tree).tree seen spare) :
    FileTree.sparePlace disk target tree = some (spare ++ [spareOf disk.processId target]) :=
  placeOf_eq_some.mpr ⟨_, _, done.leads, rfl⟩

/-- No path leads to another place than with the directory of the target. -/
theorem Stage.framed (stage : Stage disk target bytes (openFolder disk target tree) seen) :
    Framed seen (openFolder disk target tree).tree := by
  -- Once the folder is open only files are put anywhere, so directories and links stood there before.
  cases stage with
  | opening member => exact (grows_openFolder disk target tree seen member).2.framed
  | spare done => exact done.back
  | moved _ _ _ done moves => exact done.back_moved moves
  | removed done removes => exact (done.framed_removed removes).2

/-- A tree that is a directory is still one. -/
theorem Stage.rooted (stage : Stage disk target bytes (openFolder disk target tree) seen)
    (rooted : tree.kind = .directory) : seen.kind = .directory := by
  -- The root is only ever written below.
  cases stage with
  | opening member => exact (grows_openFolder disk target tree seen member).1.framed.rooted rooted
  | spare done => exact done.rootedToo
  | moved _ _ _ done moves =>
    obtain ⟨-, -, folder, name, -, -, -, -, -, -, -, rfl⟩ := rename_eq_ok.mp moves.performed
    exact kind_put ..
  | removed done removes => exact (done.framed_removed removes).1.rooted done.rooted

/-- While directories are made, every place is kept. -/
theorem kept_of_opening (member : seen ∈ (openFolder disk target tree).trees) (below : place ≠ []) :
    Kept disk target tree seen place := by
  -- What the opening changed are folders above the target, and these still lead where they led.
  obtain ⟨before, after⟩ := grows_openFolder disk target tree seen member
  refine (before.standing below).imp id fun ⟨old, made, path, above, leads⟩ => ?_
  exact ⟨old, made, path, above, after.framed.placeOf leads⟩

/-- A replacement does not succeed where a directory is. -/
theorem Attempt.free_of_ok (attempt : Attempt disk target bytes (openFolder disk target tree) passage)
    (rooted : (openFolder disk target tree).tree.kind = .directory)
    (unlinked : SpareUnlinked disk target (openFolder disk target tree).tree)
    (succeeds : passage.result = .ok ()) (leads : targetPlace disk target tree = some place) :
    (openFolder disk target tree).tree.standing place ≠ .directory := by
  obtain ⟨-, created, filled, creates, fills, moves⟩ := attempt.moved_of_ok succeeds
  obtain ⟨spare, done⟩ := filled_of_creates unlinked rooted creates
  -- The move finds no directory, and so there was none before the file was made.
  have framed := (done.fills fills.performed).framed
  obtain ⟨-, -, folder, name, -, -, found, -, -, -, free, -⟩ := rename_eq_ok.mp moves.performed
  have here : filled.placeOf disk.setting.cwd target = some (folder ++ [name]) :=
    placeOf_eq_some.mpr ⟨folder, name, found, rfl⟩
  obtain rfl := Option.some.inj ((framed.placeOf leads).symm.trans here)
  exact fun directory => free (framed.directory directory)

/-- Whatever has been done, a place is kept, or it is that of the temporary file, or the new content has
come there at last. -/
theorem Stage.kept (stage : Stage disk target bytes (openFolder disk target tree) seen)
    (attempt : Attempt disk target bytes (openFolder disk target tree) passage)
    (rooted : tree.kind = .directory) (place : List String) :
    Kept disk target tree seen place ∨ sparePlace disk target tree = some place ∨
      targetPlace disk target tree = some place ∧ seen.standing place = .file bytes ∧
        seen = passage.tree ∧ passage.result = .ok () := by
  by_cases below : place = []
  · -- The root is a directory all the time.
    subst below
    exact .inl (.inl (by rw [standing_nil, standing_nil, stage.rooted rooted, rooted]))
  have kept : Kept disk target tree (openFolder disk target tree).tree place :=
    kept_of_opening (tree_mem_trees _) below
  cases stage with
  | opening member => exact .inl (kept_of_opening member below)
  | @spare part spare done =>
    by_cases here : place = spare ++ [spareOf disk.processId target]
    · exact .inr (.inl (here ▸ done.sparePlace))
    · exact .inl (kept.same (by rw [done.stands place below, if_neg here]))
  | @moved created filled spare opens creates fills done moves =>
    -- The move brings the bytes to the target and takes the temporary file away.
    obtain ⟨folder, name, leads, after⟩ := done.moved moves
    by_cases here : place = folder ++ [name]
    · refine .inr (.inr ⟨placeOf_eq_some.mpr ⟨folder, name, leads, here⟩, ?_, ?_⟩)
      · rw [after place below, if_pos here]
      · rcases attempt.of_fills opens creates fills with ⟨movesToo, succeeds⟩ | ⟨unmoved, -⟩
        · exact ⟨moves.unique movesToo, succeeds⟩
        · exact absurd moves (unmoved seen)
    by_cases spared : place = spare ++ [spareOf disk.processId target]
    · exact .inr (.inl (spared ▸ done.sparePlace))
    · exact .inl (kept.same (by rw [after place below, if_neg here, if_neg spared]))
  | @removed filled spare done removes =>
    by_cases here : place = spare ++ [spareOf disk.processId target]
    · exact .inr (.inl (here ▸ done.sparePlace))
    · exact .inl (kept.same (by rw [done.removed removes place below, if_neg here]))

end Stages

section Atomic

variable {disk : Disk} {target : Path} {content : String} {tree seen : FileTree} {place : List String}
  (rooted : tree.kind = .directory)
  (unlinked : ∀ spare, sparePlace disk target tree = some spare → ∀ link, tree.standing spare ≠ .link link)

include unlinked

/-- No link comes about where the temporary file does. -/
theorem spareUnlinked_openFolder : SpareUnlinked disk target (openFolder disk target tree).tree := by
  -- The opening makes directories only, so a link under the spare name would have stood there before.
  intro spare leads link isLink
  have spared : sparePlace disk target tree = some (spare ++ [spareOf disk.processId target]) :=
    placeOf_eq_some.mpr ⟨spare, _, leads, rfl⟩
  have grows := (grows_openFolder disk target tree _ (tree_mem_trees _)).1
  rcases grows.standing (List.concat_ne_nil _ _) with same | ⟨-, made, -⟩
  · exact unlinked _ spared link (same ▸ isLink)
  · rw [isLink] at made
    cases made

include rooted

/-- Every tree that is seen comes about in one of the ways. -/
theorem Seen.stage (sees : Seen disk target content tree seen) :
    Stage disk target (Utf8.encode content) (openFolder disk target tree) seen :=
  stage_of_seen ((passes_openFolder disk target tree).rooted rooted) (spareUnlinked_openFolder unlinked) sees

/-- The place of the target holds the old content or the new one, and the new one at last. -/
theorem Seen.either (sees : Seen disk target content tree seen)
    (leads : targetPlace disk target tree = some place) :
    Kept disk target tree seen place ∨ seen.standing place = .file (Utf8.encode content) ∧
      seen = (replaceFile disk target content tree).tree ∧
      (replaceFile disk target content tree).result = .ok () := by
  -- The stage says which places may differ: the spare one is not the target's.
  have attempt := attempt_replaceFile disk target content tree
  rcases (sees.stage rooted unlinked).kept attempt rooted place with kept | spared | ⟨-, reached⟩
  · exact .inl kept
  · exact absurd rfl (targetPlace_ne leads spared)
  · exact .inr reached

/-- What a replacement that succeeds leaves at the places of the target and of the temporary file. -/
theorem placed_of_ok (succeeds : (replaceFile disk target content tree).result = .ok ()) :
    ∃ place spare, targetPlace disk target tree = some place ∧ sparePlace disk target tree = some spare ∧
      (replaceFile disk target content tree).tree.standing place = .file (Utf8.encode content) ∧
      (replaceFile disk target content tree).tree.standing spare = .nothing := by
  obtain ⟨-, created, filled, creates, fills, moves⟩ :=
    (attempt_replaceFile disk target content tree).moved_of_ok succeeds
  have opened := (passes_openFolder disk target tree).rooted rooted
  -- The steps that succeed lead from the directory to the temporary file and from there to the
  -- target.
  obtain ⟨spare, done⟩ := filled_of_creates (spareUnlinked_openFolder unlinked) opened creates
  have done := done.fills fills.performed
  obtain ⟨folder, name, leads, after⟩ := done.moved moves
  have reaches : targetPlace disk target tree = some (folder ++ [name]) :=
    placeOf_eq_some.mpr ⟨folder, name, leads, rfl⟩
  refine ⟨_, _, reaches, done.sparePlace, by rw [after _ (by simp), if_pos rfl], ?_⟩
  rw [after _ (by simp), if_neg (targetPlace_ne reaches done.sparePlace).symm, if_pos rfl]

/-- A replacement fails wherever a directory has come to be at the place of the target. -/
theorem Seen.blocked (sees : Seen disk target content tree seen)
    (leads : targetPlace disk target tree = some place) (directory : seen.standing place = .directory) :
    ∃ e, (replaceFile disk target content tree).result = .error e := by
  -- A success has moved the file there, and a move does not replace a directory.
  have attempt := attempt_replaceFile disk target content tree
  cases result : (replaceFile disk target content tree).result with
  | error e => exact ⟨e, rfl⟩
  | ok =>
    have opened := (passes_openFolder disk target tree).rooted rooted
    have free := attempt.free_of_ok opened (spareUnlinked_openFolder unlinked) result leads
    exact absurd ((sees.stage rooted unlinked).framed.directory directory) free

/-- The file at a path is replaced as a whole, if no link stands where its temporary file comes. -/
theorem replaceFile_atomic : Atomic disk target content tree where
  -- Every clause is read off the stage that a seen tree is at, or off the attempt's own course.
  leads sees leads := (sees.stage rooted unlinked).framed.placeOf leads
  either sees leads := sees.either rooted unlinked leads
  unclimbed sees leads noClimb := (sees.either rooted unlinked leads).imp
    (fun kept => kept.unclimbed noClimb leads) fun reached => reached.1
  others sees place noTarget noSpare := by
    have attempt := attempt_replaceFile disk target content tree
    rcases (sees.stage rooted unlinked).kept attempt rooted place with kept | spared | ⟨reaches, -⟩
    · exact kept
    · exact absurd spared noSpare
    · exact absurd reaches noTarget
  ok succeeds := placed_of_ok rooted unlinked succeeds
  completed opens creates fills moves := by
    have attempt := attempt_replaceFile disk target content tree
    rcases attempt.of_fills opens creates fills with ⟨movesToo, succeeds⟩ | ⟨unmoved, -⟩
    · exact ⟨succeeds, movesToo.unique moves⟩
    · exact absurd moves (unmoved _)
  error fails leads := by
    have last : Seen disk target content tree (replaceFile disk target content tree).tree :=
      .passed (tree_mem_trees _)
    refine (last.either rooted unlinked leads).resolve_right fun ⟨_, _, succeeds⟩ => ?_
    rw [fails] at succeeds
    cases succeeds
  blocked sees leads directory := sees.blocked rooted unlinked leads directory
  withdrawn opens creates fills unmoved willing leads := by
    have opened := (passes_openFolder disk target tree).rooted rooted
    obtain ⟨spare', done⟩ := filled_of_creates (spareUnlinked_openFolder unlinked) opened creates
    have done := done.fills fills.performed
    obtain rfl := Option.some.inj (leads.symm.trans done.sparePlace)
    have attempt := attempt_replaceFile disk target content tree
    rcases attempt.of_fills opens creates fills with ⟨moves, -⟩ | ⟨-, fails, removes | unremoved⟩
    · exact absurd moves (unmoved _)
    · exact ⟨fails, by rw [done.removed removes _ (by simp), if_pos rfl]⟩
    · obtain ⟨removed, removes⟩ := done.exists_removes willing
      exact absurd removes (unremoved removed)

end Atomic

/-- A directory with a file, and with a temporary file that was left beside it. -/
def untidy : FileTree := .directory [("out", .directory
  [("main.facts.json", .file [0x31] default), (".main.facts.json.7.tmp", .file [0x32] default)])]

/-- No link stands where the temporary file for the file comes, so that it is replaced as a whole. -/
theorem replaceFile_atomic_untidy : untidy.kind = .directory ∧
    (∀ spare, sparePlace (.willing ⟨⟨"/"⟩, ⟨0, 0⟩⟩ 7) ⟨"out/main.facts.json"⟩ untidy = some spare →
      ∀ link, untidy.standing spare ≠ .link link) ∧
    (replaceFile (.willing ⟨⟨"/"⟩, ⟨0, 0⟩⟩ 7) ⟨"out/main.facts.json"⟩ "3" untidy).result = .ok () ∧
    Atomic (.willing ⟨⟨"/"⟩, ⟨0, 0⟩⟩ 7) ⟨"out/main.facts.json"⟩ "3" untidy := by
  -- A temporary file left behind by an earlier run is in the way, and it is no link.
  have unlinked : ∀ spare,
      sparePlace (.willing ⟨⟨"/"⟩, ⟨0, 0⟩⟩ 7) ⟨"out/main.facts.json"⟩ untidy = some spare →
        ∀ link, untidy.standing spare ≠ .link link := by
    intro spare leads link
    have there : sparePlace (.willing ⟨⟨"/"⟩, ⟨0, 0⟩⟩ 7) ⟨"out/main.facts.json"⟩ untidy =
        some ["out", ".main.facts.json.7.tmp"] := by decide +kernel
    obtain rfl := Option.some.inj (leads.symm.trans there)
    have isFile : untidy.standing ["out", ".main.facts.json.7.tmp"] = .file [0x32] := by decide +kernel
    simp [isFile]
  exact ⟨rfl, unlinked, rfl, replaceFile_atomic rfl unlinked⟩

/-- The replacement of a file in an empty tree, whose path climbs from a directory that is missing. -/
def climbing : Passage Unit := replaceFile (.willing ⟨⟨"/"⟩, ⟨0, 0⟩⟩ 7) ⟨"x/../x"⟩ "3" empty

/-- Where a path leads back to its own directory, the replacement fails and leaves a directory at its place,
though the path did not lead to anything before. -/
theorem directory_left_at_target :
    (empty.stat ⟨"/"⟩ ⟨"x/../x"⟩ false).toOption.map (·.2.kind) = none ∧
      targetPlace (.willing ⟨⟨"/"⟩, ⟨0, 0⟩⟩ 7) ⟨"x/../x"⟩ empty = some ["x"] ∧
      empty.standing ["x"] = .nothing ∧
      sparePlace (.willing ⟨⟨"/"⟩, ⟨0, 0⟩⟩ 7) ⟨"x/../x"⟩ empty = some [".x.7.tmp"] ∧
      empty.standing [".x.7.tmp"] = .nothing ∧
      climbing.result = .error .isDirectory ∧ climbing.tree.standing ["x"] = .directory ∧
      (climbing.tree.stat ⟨"/"⟩ ⟨"x/../x"⟩ false).toOption.map (·.2.kind) = some .directory := by
  -- The tree is empty, so both the folder and the file come about in the run itself.
  decide +kernel

end TemplateFacts.FileTree
