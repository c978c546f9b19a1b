import TemplateFacts.Proofs.FileTree.Making

/-!
The changes that the replacement of a file is made of, one after the other: directories above the target are
made where nothing was, the temporary file comes and goes, and at last it takes the place of the target. What
each change does to the places of a tree is said once, and holds for as many of them as there are.
-/

namespace TemplateFacts.FileTree

/-- The name of the temporary file for a target. -/
def spareOf (processId : Nat) (target : Path) : String :=
  temporaryName processId (target.fileName?.getD "")

/-- No link stands where the temporary file for a target comes. -/
def SpareUnlinked (disk : Disk) (target : Path) (tree : FileTree) : Prop :=
  ∀ spare, tree.resolveParent disk.setting.cwd (temporaryPath disk.processId target) =
      .ok (spare, .name (spareOf disk.processId target)) →
    ∀ link, tree.standing (spare ++ [spareOf disk.processId target]) ≠ .link link

/-- A path is that of the directory of a target, or of one above it. -/
def Above (target path : Path) : Prop :=
  ∃ folder, target.parent? = some folder ∧ path ∈ lineage (folder.text.length + 1) folder

/-- The segments of a target come behind those of every directory above it. -/
theorem Above.trail {target path : Path} (above : Above target path) (cwd : Path) (named : path.text ≠ "") :
    ∃ more, more ≠ [] ∧ FileTree.trail cwd target = FileTree.trail cwd path ++ more ∧
      segments target.text = segments path.text ++ more := by
  -- Each parent leaves some segments behind, and these add up.
  obtain ⟨folder, parent, member⟩ := above
  obtain ⟨more, trails, texts⟩ := trail_of_mem_lineage cwd member named
  obtain ⟨last, some, trailsToo, textsToo⟩ := Path.trail_parent cwd parent fun empty =>
    named (eq_empty_of_mem_lineage member empty)
  exact ⟨more ++ last, by simp [some], by rw [trailsToo, trails, List.append_assoc],
    by rw [textsToo, texts, List.append_assoc]⟩

/-- One of the changes that the replacement of a file is made of. -/
inductive Change (disk : Disk) (target : Path) (tree : FileTree) : FileTree → Prop
  /-- A directory above the target is made where nothing was. -/
  | make {path : Path} {folder : List String} {name : String} (above : Above target path)
    (leads : tree.resolveParent disk.setting.cwd path = .ok (folder, .name name))
    (free : tree.standing (folder ++ [name]) = .nothing) :
    Change disk target tree (put empty (folder ++ [name]) tree)
  /-- The temporary file is made, or filled. -/
  | use {spare : List String} {bytes : List UInt8} {modified : Timestamp.Instant}
    (leads : tree.resolveParent disk.setting.cwd (temporaryPath disk.processId target) =
      .ok (spare, .name (spareOf disk.processId target)))
    (free : tree.standing (spare ++ [spareOf disk.processId target]) ≠ .directory) :
    Change disk target tree (put (.file bytes modified) (spare ++ [spareOf disk.processId target]) tree)
  /-- The temporary file takes the place of the target. -/
  | move {spare folder : List String} {name : String} {bytes : List UInt8} {modified : Timestamp.Instant}
    (leads : tree.resolveParent disk.setting.cwd (temporaryPath disk.processId target) =
      .ok (spare, .name (spareOf disk.processId target)))
    (there : tree.at? (spare ++ [spareOf disk.processId target]) = some (.file bytes modified))
    (reaches : tree.resolveParent disk.setting.cwd target = .ok (folder, .name name))
    (free : tree.standing (folder ++ [name]) ≠ .directory) :
    Change disk target tree (put (.file bytes modified) (folder ++ [name])
      (erase (spare ++ [spareOf disk.processId target]) tree))
  /-- The temporary file is removed. -/
  | drop {spare : List String} {bytes : List UInt8}
    (leads : tree.resolveParent disk.setting.cwd (temporaryPath disk.processId target) =
      .ok (spare, .name (spareOf disk.processId target)))
    (there : tree.standing (spare ++ [spareOf disk.processId target]) = .file bytes) :
    Change disk target tree (erase (spare ++ [spareOf disk.processId target]) tree)

/-- A tree passes into another one by changes, through the trees in between, the last one first. -/
inductive Passes (disk : Disk) (target : Path) (tree : FileTree) : FileTree → List FileTree → Prop
  | stay : Passes disk target tree tree []
  | change {between changed : FileTree} {earlier : List FileTree}
    (passes : Passes disk target tree between earlier) (change : Change disk target between changed) :
    Passes disk target tree changed (between :: earlier)

section Fate

variable {disk : Disk} {target : Path} {tree changed : FileTree} {place : List String}

/-- What a change does to a place that it does not leave as it was. -/
inductive Fate (disk : Disk) (target : Path) (tree : FileTree) (place : List String) :
    Option FileTree → Prop
  /-- A directory above the target is made there. -/
  | made {path : Path} {folder : List String} {name : String} (above : Above target path)
    (leads : tree.resolveParent disk.setting.cwd path = .ok (folder, .name name))
    (here : place = folder ++ [name]) (free : tree.standing place = .nothing) :
    Fate disk target tree place (some (.directory []))
  /-- The temporary file comes there. -/
  | used {bytes : List UInt8} {modified : Timestamp.Instant}
    (named : place.getLast? = some (spareOf disk.processId target)) (free : tree.standing place ≠ .directory) :
    Fate disk target tree place (some (.file bytes modified))
  /-- The temporary file goes. -/
  | gone {bytes : List UInt8} (named : place.getLast? = some (spareOf disk.processId target))
    (there : tree.standing place = .file bytes) : Fate disk target tree place none
  /-- The target comes there. -/
  | reached {folder : List String} {name : String} {bytes : List UInt8} {modified : Timestamp.Instant}
    (reaches : tree.resolveParent disk.setting.cwd target = .ok (folder, .name name))
    (here : place = folder ++ [name]) (free : tree.standing place ≠ .directory) :
    Fate disk target tree place (some (.file bytes modified))

/-- Whether a place is another one decides what it becomes. -/
theorem fate_of_put {part : FileTree} {folder : List String} {name : String} (holds : part.entries = [])
    (free : tree.standing (folder ++ [name]) ≠ .directory) (opened : tree.Opened folder) (below : place ≠ [])
    (here : place = folder ++ [name] → Fate disk target tree place (some part.face)) :
    (put part (folder ++ [name]) tree).faceAt place = tree.faceAt place ∨
      Fate disk target tree place ((put part (folder ++ [name]) tree).faceAt place) := by
  -- A file or an empty directory put there changes its own place only.
  rw [faceAt_put holds (bare_of_standing free) opened below]
  split
  · exact .inr (here ‹_›)
  · exact .inl rfl

/-- What a change does to any place but the root. -/
theorem Change.fate (change : Change disk target tree changed) (below : place ≠ []) :
    changed.faceAt place = tree.faceAt place ∨ Fate disk target tree place (changed.faceAt place) := by
  cases change with
  | make above leads free =>
    refine fate_of_put rfl (by simp [free]) (opened_of_resolveParent leads) below fun here => ?_
    exact .made above leads here (here ▸ free)
  | @use spare bytes modified leads free =>
    refine fate_of_put (entries_file bytes modified) free (opened_of_resolveParent leads) below fun here => ?_
    exact .used (by simp [here]) (here ▸ free)
  | @move spare folder name bytes modified leads there reaches free =>
    -- The temporary file leaves its place, and the target takes its bytes.
    have isFile : tree.standing (spare ++ [spareOf disk.processId target]) = .file bytes :=
      standing_eq_file.mpr ⟨modified, there⟩
    -- The place it leaves is bare, so that nothing below it goes with it.
    have opened := opened_of_resolveParent leads
    have bare : tree.Bare (spare ++ [spareOf disk.processId target]) := bare_of_standing (by simp [isFile])
    have framed : Framed tree (erase (spare ++ [spareOf disk.processId target]) tree) :=
      framed_erase opened (by simp [isFile]) (by simp [isFile])
    -- No directory comes about where the file is moved to.
    have freeToo : (erase (spare ++ [spareOf disk.processId target]) tree).standing (folder ++ [name]) ≠
        .directory := by
      rw [standing_erase bare opened (by simp)]
      split
      · simp
      · exact free
    rw [faceAt_put (entries_file bytes modified) (bare_of_standing freeToo)
      ((opened_of_resolveParent reaches).transfer framed) below, faceAt_erase bare opened below]
    split
    · rename_i here
      exact .inr (.reached reaches here (here ▸ free))
    · split
      · rename_i here
        exact .inr (.gone (by simp [here]) (here ▸ isFile))
      · exact .inl rfl
  | @drop spare bytes leads there =>
    rw [faceAt_erase (bare_of_standing (by simp [there])) (opened_of_resolveParent leads) below]
    split
    · rename_i here
      exact .inr (.gone (by simp [here]) (here ▸ there))
    · exact .inl rfl

/-- A tree that is a directory still is one. -/
theorem Change.rooted (change : Change disk target tree changed) (rooted : tree.kind = .directory) :
    changed.kind = .directory := by
  -- Each change puts or erases something below the root.
  cases change with
  | make => exact kind_put ..
  | use => exact kind_put ..
  | move => exact kind_put ..
  | drop => exact kind_erase rooted _

/-- Directories stay where they are. -/
theorem Change.directory (change : Change disk target tree changed)
    (directory : tree.standing place = .directory) : changed.standing place = .directory := by
  by_cases below : place = []
  · subst below
    exact change.rooted directory
  · rw [standing_eq_face]
    -- Only a file is removed, and only what is no directory is replaced.
    rcases change.fate below with kept | fate
    · rw [kept, ← standing_eq_face, directory]
    generalize changed.faceAt place = now at fate
    cases fate with
    | made => rfl
    | used named free => exact absurd directory free
    | gone named there =>
      rw [directory] at there
      cases there
    | reached reaches here free => exact absurd directory free

/-- No links come about. -/
theorem Change.linked (change : Change disk target tree changed) (below : place ≠ []) {link : String}
    (isLink : changed.standing place = .link link) : tree.standing place = .link link := by
  -- A change makes directories and files, so every link that stands stood before.
  rw [standing_eq_face] at isLink
  rcases change.fate below with kept | fate
  · rwa [kept, ← standing_eq_face] at isLink
  generalize changed.faceAt place = now at fate isLink
  cases fate with
  | made => cases isLink
  | used => cases isLink
  | gone => cases isLink
  | reached => cases isLink

/-- Directories and links stay where they are, if no link has a name that is written to. -/
theorem Change.framed (change : Change disk target tree changed)
    (spare : tree.Unlinked (spareOf disk.processId target)) {facts : String} (ends : target.EndsIn facts)
    (plain : (Component.name facts).IsPlain) (unlinked : tree.Unlinked facts) : Framed tree changed := by
  refine ⟨change.directory, fun {folder name link} isLink => ?_⟩
  rw [standing_eq_face]
  -- A link could only be replaced under a name that is written to.
  rcases change.fate (List.concat_ne_nil name folder) with kept | fate
  · rw [kept, ← standing_eq_face, isLink]
  generalize changed.faceAt (folder ++ [name]) = now at fate
  cases fate with
  | made above leads here free =>
    rw [isLink] at free
    cases free
  | used named free =>
    rw [List.getLast?_concat, Option.some.injEq] at named
    exact absurd isLink (named ▸ spare folder link)
  | gone named there =>
    rw [isLink] at there
    cases there
  | reached reaches here free =>
    have same := ends.name plain reaches
    obtain ⟨-, last⟩ := List.append_inj' here rfl
    obtain rfl : name = facts := by simpa [same] using last
    exact absurd isLink (unlinked folder link)

end Fate

section Passes

variable {disk : Disk} {target : Path} {tree between changed : FileTree} {earlier later : List FileTree}

/-- Changes one after the other. -/
theorem Passes.trans (first : Passes disk target tree between earlier)
    (second : Passes disk target between changed later) :
    Passes disk target tree changed (later ++ earlier) := by
  -- The later steps come behind the earlier ones.
  induction second with
  | stay => exact first
  | change _ change ih => exact ih.change change

/-- What every change keeps is kept by all of them. -/
theorem Passes.keeps {kept : FileTree → Prop} (passes : Passes disk target tree changed earlier)
    (step : ∀ tree changed, Change disk target tree changed → kept tree → kept changed) (first : kept tree) :
    kept changed := by
  -- The property goes through one change at a time, from the first tree on.
  induction passes with
  | stay => exact first
  | change _ change ih => exact step _ _ change ih

/-- A tree that is a directory still is one. -/
theorem Passes.rooted (passes : Passes disk target tree changed earlier) (rooted : tree.kind = .directory) :
    changed.kind = .directory := by
  -- Each change keeps the root a directory.
  induction passes with
  | stay => exact rooted
  | change _ change ih => exact change.rooted ih

/-- A name without links stays without links. -/
theorem Passes.unlinked {name : String} (passes : Passes disk target tree changed earlier)
    (unlinked : tree.Unlinked name) : changed.Unlinked name :=
  passes.keeps (fun _ _ change unlinked folder link isLink =>
    unlinked folder link (change.linked (by simp) isLink)) unlinked

/-- Directories and links stay where they are, if no link has a name that is written to. -/
theorem Passes.framed (passes : Passes disk target tree changed earlier)
    (spare : tree.Unlinked (spareOf disk.processId target)) {facts : String} (ends : target.EndsIn facts)
    (plain : (Component.name facts).IsPlain) (unlinked : tree.Unlinked facts) : Framed tree changed := by
  -- No link bears one of the two names at any time, so no change puts something in a link's place.
  induction passes with
  | stay => exact Framed.refl tree
  | change passes change ih =>
    exact ih.trans (change.framed (passes.unlinked spare) ends plain (passes.unlinked unlinked))

/-- A passage of a tree is made of changes. -/
def Passage.Passes {α : Type} (disk : Disk) (target : Path) (tree : FileTree) (passage : Passage α) : Prop :=
  FileTree.Passes disk target tree passage.tree passage.earlier

theorem passes_stay {α : Type} (result : Except Errno α) :
    (Passage.stay result tree).Passes disk target tree := .stay

/-- What becomes of a place is done by one of the changes, if the place is not left as it was. -/
theorem Passes.fate {place : List String} (passes : Passes disk target tree changed earlier)
    (below : place ≠ []) : changed.faceAt place = tree.faceAt place ∨
      ∃ between ∈ earlier, Fate disk target between place (changed.faceAt place) := by
  induction passes with
  | stay => exact .inl rfl
  | @change between changed earlier passes change ih =>
    -- The last change counts, and those before it if it leaves the place alone.
    rcases change.fate below with kept | fate
    · rw [kept]
      exact ih.imp id fun ⟨early, through, fate⟩ => ⟨early, List.mem_cons_of_mem _ through, fate⟩
    · exact .inr ⟨between, List.mem_cons_self, fate⟩

/-- Some changes and then others. -/
theorem Passage.Passes.andThen {α β : Type} {passage : Passage α}
    {next : Except Errno α → FileTree → Passage β} (first : passage.Passes disk target tree)
    (second : (next passage.result passage.tree).Passes disk target passage.tree) :
    (passage.andThen next).Passes disk target tree :=
  first.trans second

/-- An operation that is one of the changes, if it is carried out. -/
theorem passes_perform {operation : Operation}
    (change : ∀ changed, FileTree.perform disk.setting operation tree = .ok changed →
      Change disk target tree changed) : (disk.perform operation tree).Passes disk target tree := by
  -- An operation changes the tree in its own way or, when it fails, not at all.
  rcases perform_cases disk operation tree with ⟨changed, performed, same⟩ | ⟨e, same⟩
  · rw [same]
    exact .change .stay (change changed performed)
  · rw [same]
    exact .stay

/-- Making a directory above the target is one of the changes. -/
theorem passes_makeDirectory {path : Path} (above : Above target path) (tree : FileTree) :
    (disk.perform (.makeDirectory path) tree).Passes disk target tree := by
  -- The directory is made where nothing stood, at a folder above the target.
  refine passes_perform fun changed makes => ?_
  obtain ⟨folder, name, leads, -, free, rfl⟩ := makeDirectory_eq_ok.mp makes
  exact .make above leads free

/-- Making directories above the target passes through these changes. -/
theorem passes_makeAll {paths : List Path} (above : ∀ path ∈ paths, Above target path) (tree : FileTree) :
    (makeAll disk paths tree).Passes disk target tree :=
  makeAll_induct (motive := fun tree passage => passage.Passes disk target tree) (fun _ _ => passes_stay _)
    (fun _ _ _ first second => first.andThen second)
    (fun path member tree => passes_makeDirectory (above path member) tree) tree

/-- Goes on with a tree, or stops at a failure. -/
def orStop (next : FileTree → Passage Unit) (result : Except Errno Unit) (tree : FileTree) : Passage Unit :=
  match result with
  | .ok () => next tree
  | .error e => .stay (.error e) tree

/-- Makes the directory of a file that is to be replaced. -/
def openFolder (disk : Disk) (target : Path) (tree : FileTree) : Passage Unit :=
  match target.parent? with
  | some folder => if folder.text == "" then .stay (.ok ()) tree else makeDirectories disk folder tree
  | none => .stay (.ok ()) tree

/-- A file is replaced step by step, up to the first one that fails. -/
theorem replaceFile_eq (disk : Disk) (target : Path) (content : String) (tree : FileTree) :
    replaceFile disk target content tree = (openFolder disk target tree).andThen (orStop fun tree =>
      (disk.perform (.create (temporaryPath disk.processId target)) tree).andThen (orStop fun tree =>
        (disk.fill (temporaryPath disk.processId target) (Utf8.encode content) tree).andThen
          (orStop fun tree => moveIntoPlace disk (temporaryPath disk.processId target) target tree))) := by
  -- The two definitions differ in the names that they give to their steps only.
  rw [replaceFile.eq_def]
  extract_lets temporary parents stopOr
  have same : openFolder disk target tree = parents := by
    unfold parents
    delta openFolder
    generalize target.parent? = folder
    cases folder <;> rfl
  rw [same]
  rfl

/-- The directory of a file is made with those above it, unless it has no name. -/
theorem openFolder_cases (disk : Disk) (target : Path) (tree : FileTree) :
    (∀ folder, target.parent? = some folder → folder.text = "") ∧
        openFolder disk target tree = .stay (.ok ()) tree ∨
      ∃ folder, target.parent? = some folder ∧ folder.text ≠ "" ∧
        openFolder disk target tree = makeAll disk (lineage (folder.text.length + 1) folder) tree := by
  delta openFolder
  -- Only a parent with a name is made.
  generalize target.parent? = parent
  cases parent with
  | none => exact .inl ⟨by simp, rfl⟩
  | some folder =>
    by_cases empty : folder.text = ""
    · exact .inl ⟨by simpa using empty, by simp [empty]⟩
    · exact .inr ⟨folder, rfl, empty, by simp [empty, makeDirectories]⟩

/-- Making the directory of the target passes through changes. -/
theorem passes_openFolder (disk : Disk) (target : Path) (tree : FileTree) :
    (openFolder disk target tree).Passes disk target tree := by
  -- Each folder made is one above the target.
  rcases openFolder_cases disk target tree with ⟨-, stays⟩ | ⟨folder, parent, -, makes⟩
  · rw [stays]
    exact passes_stay _
  · rw [makes]
    exact passes_makeAll (fun path member => ⟨folder, parent, member⟩) tree

/-- Some changes, and others if they did not fail. -/
theorem Passage.Passes.orStop {passage : Passage Unit} {next : FileTree → Passage Unit}
    (first : passage.Passes disk target tree) (second : (next passage.tree).Passes disk target passage.tree) :
    (passage.andThen (FileTree.orStop next)).Passes disk target tree := by
  -- A failed step ends the passage where it is.
  refine first.andThen ?_
  cases passage.result with
  | ok => exact second
  | error e => exact passes_stay _

end Passes

section Trees

variable {α : Type} {disk : Disk} {operation : Operation} {tree seen changed : FileTree}

/-- The trees that are passed through, with the last one. -/
def Passage.trees (passage : Passage α) : List FileTree := passage.tree :: passage.earlier

theorem tree_mem_trees (passage : Passage α) : passage.tree ∈ passage.trees := List.mem_cons_self

@[simp] theorem mem_trees_stay {result : Except Errno α} :
    seen ∈ (Passage.stay result tree).trees ↔ seen = tree := by
  simp [Passage.trees, Passage.stay]

/-- Some operations and then others pass through the trees of both. -/
theorem mem_trees_andThen {β : Type} {passage : Passage α} {next : Except Errno α → FileTree → Passage β} :
    seen ∈ (passage.andThen next).trees ↔
      seen ∈ (next passage.result passage.tree).trees ∨ seen ∈ passage.earlier := by
  simp [Passage.trees, Passage.andThen, or_assoc]

/-- What is passed through is passed through before a failure, or behind a success. -/
theorem mem_trees_orStop {passage : Passage Unit} {next : FileTree → Passage Unit}
    (member : seen ∈ (passage.andThen (orStop next)).trees) :
    seen ∈ passage.trees ∨ passage.result = .ok () ∧ seen ∈ (next passage.tree).trees := by
  -- Behind a failure nothing more is seen than its own tree.
  rcases mem_trees_andThen.mp member with later | earlier
  · cases result : passage.result with
    | error e =>
      rw [result] at later
      exact .inl (mem_trees_stay.mp later ▸ tree_mem_trees passage)
    | ok =>
      rw [result] at later
      exact .inr ⟨rfl, later⟩
  · exact .inl (List.mem_cons_of_mem _ earlier)

/-- An operation passes through the tree before it, and through the one that comes of it. -/
theorem mem_trees_perform (member : seen ∈ (disk.perform operation tree).trees) :
    seen = tree ∨ disk.Does operation tree seen := by
  -- An operation is seen before and after, and not in between.
  rcases disk.does_or_fails operation tree with ⟨changed, does⟩ | ⟨-, e, fails⟩
  · rw [does.perform, Passage.trees, List.mem_cons, List.mem_singleton] at member
    rcases member with rfl | rfl
    · exact .inr does
    · exact .inl rfl
  · rw [fails, Passage.trees, List.mem_singleton] at member
    exact .inl member

/-- Filling a file passes through the tree before it, and through one where it has some of the bytes. -/
theorem mem_trees_fill {path : Path} {bytes : List UInt8} (member : seen ∈ (disk.fill path bytes tree).trees) :
    seen = tree ∨ ∃ part, part <+: bytes ∧
      FileTree.perform disk.setting (.fill path part) tree = .ok seen := by
  -- A fill that breaks off leaves a part of the bytes, which is seen as well.
  rcases disk.fills_or_fails path bytes tree with
    ⟨filled, fills⟩ | ⟨-, e, same | ⟨part, left, begins, fills, same⟩⟩
  · rw [fills.fill, Passage.trees, List.mem_cons, List.mem_singleton] at member
    rcases member with rfl | rfl
    · exact .inr ⟨bytes, List.prefix_rfl, fills.performed⟩
    · exact .inl rfl
  · rw [same, Passage.trees, List.mem_singleton] at member
    exact .inl member
  · rw [same, Passage.trees, List.mem_cons, List.mem_singleton] at member
    rcases member with rfl | rfl
    · exact .inr ⟨part, begins, fills⟩
    · exact .inl rfl

end Trees

section Replaced

variable {disk : Disk} {target : Path} {bytes : List UInt8} {tree changed : FileTree}

/-- The name of the temporary file for a target is a plain component. -/
theorem isPlain_spareOf (processId : Nat) (target : Path) :
    (Component.name (spareOf processId target)).IsPlain :=
  isPlain_temporaryPath processId target

/-- All temporary files for a target are in one directory. -/
theorem exists_temporaryPath (target : Path) :
    ∃ base : Path, ∀ processId, temporaryPath processId target = base.join ⟨spareOf processId target⟩ := by
  -- The spare name replaces the target's own name, in the target's folder when it has one.
  have name (processId : Nat) : temporaryPath processId target =
      target.withFileName (spareOf processId target) := rfl
  simp only [name, Path.withFileName]
  generalize target.fileName? = fileName, target.parent? = parent
  cases fileName with
  | none => exact ⟨target, fun _ => rfl⟩
  | some _ =>
    cases parent with
    | none => exact ⟨target, fun _ => rfl⟩
    | some parent => exact ⟨parent, fun _ => rfl⟩

/-- Where no link has the name of the temporary file, none stands where that comes. -/
theorem Unlinked.spare (unlinked : tree.Unlinked (spareOf disk.processId target)) :
    SpareUnlinked disk target tree :=
  fun spare _ => unlinked spare

/-- The temporary file is found in its directory. -/
theorem setFile_temporary (unlinked : SpareUnlinked disk target tree) :
    setFile disk.setting (temporaryPath disk.processId target) bytes tree = .ok changed ↔ ∃ spare,
      tree.resolveParent disk.setting.cwd (temporaryPath disk.processId target) =
          .ok (spare, .name (spareOf disk.processId target)) ∧ IsShort (spareOf disk.processId target) ∧
        tree.standing (spare ++ [spareOf disk.processId target]) ≠ .directory ∧
        changed = put (.file bytes disk.setting.now) (spare ++ [spareOf disk.processId target]) tree := by
  -- The spare name is plain, so the way to it ends in a name and follows no link.
  obtain ⟨base, path⟩ := exists_temporaryPath target
  have plain := isPlain_spareOf disk.processId target
  have whole : trail disk.setting.cwd (temporaryPath disk.processId target) =
      trail disk.setting.cwd base ++ [spareOf disk.processId target] := by
    rw [path, Path.trail_join disk.setting.cwd base plain]
  exact setFile_eq_ok (endsIn_temporaryPath disk.processId target) plain whole unlinked

/-- Making or filling the temporary file is one of the changes, if no link stands where it comes. -/
theorem change_of_setFile (unlinked : SpareUnlinked disk target tree)
    (sets : setFile disk.setting (temporaryPath disk.processId target) bytes tree = .ok changed) :
    Change disk target tree changed := by
  -- The temporary file is put where its own path leads.
  obtain ⟨spare, leads, -, free, rfl⟩ := (setFile_temporary unlinked).mp sets
  exact .use leads free

/-- The temporary file is moved into place, or removed. -/
theorem passes_moveIntoPlace {spare : List String}
    (leads : tree.resolveParent disk.setting.cwd (temporaryPath disk.processId target) =
      .ok (spare, .name (spareOf disk.processId target)))
    (there : tree.standing (spare ++ [spareOf disk.processId target]) = .file bytes) :
    (moveIntoPlace disk (temporaryPath disk.processId target) target tree).Passes disk target tree := by
  rw [moveIntoPlace]
  rcases perform_cases disk (.rename (temporaryPath disk.processId target) target) tree with
    ⟨changed, moves, same⟩ | ⟨e, same⟩
  · obtain ⟨fromFolder, fromName, folder, name, moved, leadsToo, reaches, thereToo, -, -, free, rfl⟩ :=
      rename_eq_ok.mp moves
    -- What is moved is the temporary file.
    obtain ⟨rfl, rfl⟩ : spare = fromFolder ∧ spareOf disk.processId target = fromName := by
      simpa using leads.symm.trans leadsToo
    obtain ⟨modified, isFile⟩ := standing_eq_file.mp there
    obtain rfl := Option.some.inj (isFile.symm.trans thereToo)
    rw [same]
    refine Passage.Passes.andThen (.change .stay (.move leads isFile reaches free)) ?_
    exact passes_stay _
  · -- Nothing was moved, and the temporary file is removed.
    rw [same]
    refine Passage.Passes.andThen .stay ?_
    refine Passage.Passes.andThen (passes_perform fun changed removes => ?_) (passes_stay _)
    obtain ⟨folder, name, leadsToo, -, -, rfl⟩ := remove_eq_ok.mp removes
    obtain ⟨rfl, rfl⟩ : spare = folder ∧ spareOf disk.processId target = name := by
      simpa using leads.symm.trans leadsToo
    exact .drop leads there

/-- Replacing a file passes through its changes, if no link has the name of the temporary file. -/
theorem passes_replaceFile (content : String) (unlinked : tree.Unlinked (spareOf disk.processId target)) :
    (replaceFile disk target content tree).Passes disk target tree := by
  rw [replaceFile_eq]
  have opened := passes_openFolder disk target tree
  refine opened.orStop ?_
  have unlinked := opened.unlinked unlinked
  generalize (openFolder disk target tree).tree = tree at unlinked
  -- Each step passes from what the one before it leaves.
  have created : (disk.perform (.create (temporaryPath disk.processId target)) tree).Passes disk target tree :=
    passes_perform fun changed creates => change_of_setFile unlinked.spare creates
  refine created.orStop ?_
  have unlinked := created.unlinked unlinked
  generalize (disk.perform (.create (temporaryPath disk.processId target)) tree).tree = tree at unlinked
  rcases disk.fills_or_fails (temporaryPath disk.processId target) (Utf8.encode content) tree with
    ⟨filled, fills⟩ | ⟨-, e, same | ⟨part, left, -, fills, same⟩⟩
  · -- The temporary file is there with its bytes.
    obtain ⟨spare, leads, -, free, made⟩ := (setFile_temporary unlinked.spare).mp fills.performed
    rw [fills.fill, made]
    have opened := opened_of_resolveParent leads
    have framed := framed_put (entries_file (Utf8.encode content) disk.setting.now) opened free
      (unlinked spare)
    have sets : SetAt tree _ (spare ++ [spareOf disk.processId target]) (.file (Utf8.encode content)) :=
      setAt_put (entries_file (Utf8.encode content) disk.setting.now) free opened
    refine Passage.Passes.orStop (.change .stay (.use leads free)) ?_
    exact passes_moveIntoPlace (framed.resolveParent leads) (by rw [sets _ (by simp), if_pos rfl])
  · -- Filling it has failed, and it is left as it was made.
    rw [same]
    exact .stay
  · -- It is left with a part of the bytes.
    rw [same]
    exact .change .stay (change_of_setFile unlinked.spare fills)

end Replaced

end TemplateFacts.FileTree
