import TemplateFacts.Proofs.FileTree.Alike
import TemplateFacts.Proofs.FileTree.Replace

/-!
How far the replacement of a file comes: its directory is made first, then the temporary file is made and
filled, and then it is moved into place, or removed. Directories that are there are not made again, and
where they could not be made they cannot be made in the tree that was left.
-/

namespace TemplateFacts.FileTree

section Making

variable {disk : Disk} {path above : Path} {rest : List Path} {tree changed : FileTree} {e : Errno}

/-- How the making of a directory and those above it ends. -/
inductive Making (disk : Disk) (path : Path) (rest : List Path) (tree : FileTree) (passage : Passage Unit) :
    Prop
  | made (does : disk.Does (.makeDirectory path) tree passage.tree) (succeeds : passage.result = .ok ())
  /-- The directory cannot be made, though nothing is missing: it has to be there. -/
  | settled {e : Errno} (fails : disk.perform (.makeDirectory path) tree = ⟨.error e, tree, []⟩)
    (other : e ≠ .noEntry) (leaves : passage.tree = tree)
    (ends : passage.result = if tree.isDirectoryAt disk.setting.cwd path then .ok () else .error e)
  /-- Those above it cannot be made. -/
  | blocked {e : Errno} (missing : disk.perform (.makeDirectory path) tree = ⟨.error .noEntry, tree, []⟩)
    (blocks : (makeAll disk rest tree).result = .error e)
    (leaves : passage.tree = (makeAll disk rest tree).tree) (fails : passage.result = .error e)
  /-- It is made behind those above it. -/
  | madeBehind (missing : disk.perform (.makeDirectory path) tree = ⟨.error .noEntry, tree, []⟩)
    (opens : (makeAll disk rest tree).result = .ok ())
    (does : disk.Does (.makeDirectory path) (makeAll disk rest tree).tree passage.tree)
    (succeeds : passage.result = .ok ())
  /-- It cannot be made behind those above it: it has to be there. -/
  | settledBehind {e : Errno}
    (missing : disk.perform (.makeDirectory path) tree = ⟨.error .noEntry, tree, []⟩)
    (opens : (makeAll disk rest tree).result = .ok ())
    (fails : disk.perform (.makeDirectory path) (makeAll disk rest tree).tree =
      ⟨.error e, (makeAll disk rest tree).tree, []⟩)
    (leaves : passage.tree = (makeAll disk rest tree).tree)
    (ends : passage.result =
      if (makeAll disk rest tree).tree.isDirectoryAt disk.setting.cwd path then .ok () else .error e)

/-- The making of directories ends in one of these ways. -/
theorem making_makeAll (disk : Disk) (named : path.text ≠ "") (rest : List Path) (tree : FileTree) :
    Making disk path rest tree (makeAll disk (path :: rest) tree) := by
  rw [makeAll, if_neg (by simpa using named)]
  extract_lets settle
  -- It is made at once, or nothing has changed.
  rcases disk.does_or_fails (.makeDirectory path) tree with ⟨changed, does⟩ | ⟨-, e, fails⟩
  · rw [does.perform]
    exact .made does rfl
  rw [fails]
  by_cases missing : e = .noEntry
  · subst missing
    simp only [Passage.andThen, if_pos]
    cases opens : (makeAll disk rest tree).result with
    -- The directories above could not be made either.
    | error e => exact .blocked fails opens rfl rfl
    | ok =>
      -- Another attempt is made in the tree with the directories above.
      rcases disk.does_or_fails (.makeDirectory path) (makeAll disk rest tree).tree with
        ⟨changed, does⟩ | ⟨-, e, failsToo⟩
      · refine .madeBehind fails opens ?_ ?_
        · simp only [does.perform]
          exact does
        · simp only [does.perform]
          rfl
      · refine .settledBehind fails opens failsToo ?_ ?_
        · simp only [failsToo]
          rfl
        · simp only [failsToo]
          rfl
  · refine .settled fails missing ?_ ?_
    · -- Of all failures only a missing parent asks for another attempt.
      cases e <;> first | exact absurd rfl missing | rfl
    · cases e <;> first | exact absurd rfl missing | rfl

/-- The directories above a path begin with its parent. -/
theorem lineage_succ (fuel : Nat) (path : Path) :
    lineage (fuel + 1) path = path :: (path.parent?.map (lineage fuel)).getD [] := by
  -- Unfolds one parent; the definition matches on it, so the match is put away as a map.
  rw [lineage.eq_def]
  dsimp only
  generalize path.parent? = parent
  cases parent with
  | none => rw [Option.map_none, Option.getD_none]
  | some above => rw [Option.map_some, Option.getD_some]

/-- Nothing is made for the empty path. -/
theorem makeAll_empty (disk : Disk) (rest : List Path) {path : Path} (empty : path.text = "")
    (tree : FileTree) : makeAll disk (path :: rest) tree = .stay (.ok ()) tree := by
  rw [makeAll, if_pos (by simpa using empty)]

/-- The directories above a path begin with its parent, or nothing is made of them. -/
theorem lineage_above (fuel : Nat) (path : Path) :
    (∀ disk tree, makeAll disk ((path.parent?.map (lineage fuel)).getD []) tree = .stay (.ok ()) tree) ∨
      ∃ above rest, path.parent? = some above ∧ above.text ≠ "" ∧
        (path.parent?.map (lineage fuel)).getD [] = lineage fuel above ∧ lineage fuel above = above :: rest := by
  -- A path has no parent, or the lineage of its parent is cut short, or begins with it.
  generalize path.parent? = parent
  cases parent with
  | none => exact .inl fun _ _ => rfl
  | some above =>
    rw [Option.map_some, Option.getD_some]
    cases fuel with
    | zero => exact .inl fun _ _ => rfl
    | succ fuel =>
      rw [lineage_succ]
      by_cases empty : above.text = ""
      · exact .inl fun disk tree => makeAll_empty disk _ empty tree
      · exact .inr ⟨above, _, rfl, empty, (lineage_succ ..).symm, lineage_succ ..⟩

/-- No directory but the nameless one is above the empty path. -/
theorem eq_empty_of_mem_lineage {fuel : Nat} (member : path ∈ lineage fuel above) (empty : above.text = "") :
    path.text = "" := by
  -- The empty path has no parent, so it is alone in its line.
  have alone : (⟨""⟩ : Path).parent? = none := by decide +kernel
  have same : above = ⟨""⟩ := congrArg Path.mk empty
  cases fuel with
  | zero => cases member
  | succ fuel =>
    rw [lineage_succ, same, alone, Option.map_none, Option.getD_none, List.mem_singleton] at member
    rw [member]

/-- The segments of a path come behind those of every directory above it. -/
theorem trail_of_mem_lineage {fuel : Nat} {folder : Path} (cwd : Path) (member : path ∈ lineage fuel folder)
    (named : path.text ≠ "") : ∃ more, trail cwd folder = trail cwd path ++ more ∧
      segments folder.text = segments path.text ++ more := by
  -- By induction on the lineage: every step up takes the last segments away.
  induction fuel generalizing folder with
  | zero => cases member
  | succ fuel ih =>
    rw [lineage_succ, List.mem_cons] at member
    rcases member with rfl | member
    · exact ⟨[], by simp, by simp⟩
    cases parent : folder.parent? with
    | none =>
      rw [parent] at member
      cases member
    | some above =>
      rw [parent] at member
      obtain ⟨more, trails, texts⟩ := ih member
      obtain ⟨last, -, trailsToo, textsToo⟩ := Path.trail_parent cwd parent fun empty =>
        named (eq_empty_of_mem_lineage member empty)
      exact ⟨more ++ last, by rw [trailsToo, trails, List.append_assoc],
        by rw [textsToo, texts, List.append_assoc]⟩

/-- A directory is there once it has been made. -/
theorem isDirectoryAt_of_does (does : disk.Does (.makeDirectory path) tree changed) :
    changed.isDirectoryAt disk.setting.cwd path = true := by
  -- The directory that was made is found by its path, as the way to it is unchanged.
  obtain ⟨folder, name, parent, short, free, rfl⟩ := makeDirectory_eq_ok.mp does.performed
  have opened := opened_of_resolveParent parent
  have sets : SetAt tree _ (folder ++ [name]) .directory :=
    setAt_put entries_empty (by simp [free]) opened
  have framed : Framed tree (put empty (folder ++ [name]) tree) :=
    framed_put rfl opened (by simp [free]) (by simp [free])
  obtain ⟨es, found⟩ := stat_of_name (framed.resolveParent parent) short (by rw [sets _ (by simp), if_pos rfl])
  exact isDirectoryAt_iff.mpr ⟨_, es, found⟩

/-- A directory that is not there and cannot be made is not made, unless those above it can. -/
theorem makeAll_of_unmade (rest : List Path) (named : path.text ≠ "")
    (unmade : ∀ changed, ¬ disk.Does (.makeDirectory path) tree changed)
    (isMissing : tree.isDirectoryAt disk.setting.cwd path = false)
    (above : disk.perform (.makeDirectory path) tree = ⟨.error .noEntry, tree, []⟩ →
      (makeAll disk rest tree).tree = tree) :
    (∃ e, (makeAll disk (path :: rest) tree).result = .error e) ∧
      (makeAll disk (path :: rest) tree).tree = tree := by
  -- Of all ends only those without a directory remain, and they leave the tree alone.
  cases making_makeAll disk named rest tree with
  | made does => exact absurd does (unmade _)
  | settled _ _ leaves ends =>
    rw [isMissing] at ends
    exact ⟨⟨_, ends⟩, leaves⟩
  | blocked missing _ leaves fails => exact ⟨⟨_, fails⟩, leaves.trans (above missing)⟩
  | madeBehind missing _ does =>
    rw [above missing] at does
    exact absurd does (unmade _)
  | settledBehind missing _ _ leaves ends =>
    rw [above missing, isMissing] at ends
    exact ⟨⟨_, ends⟩, leaves.trans (above missing)⟩

/-- What cannot be carried out is not done. -/
theorem not_does_of_fails {operation : Operation}
    (fails : disk.perform operation tree = ⟨.error e, tree, []⟩) (changed : FileTree) :
    ¬ disk.Does operation tree changed := by
  -- A step that takes effect is one that reports success.
  intro does
  rw [does.perform] at fails
  cases fails

/-- Directories that are there are not made. -/
theorem makeAll_of_isDirectoryAt (rooted : tree.kind = .directory) {fuel : Nat}
    (isDirectory : tree.isDirectoryAt disk.setting.cwd path = true) :
    (makeAll disk (lineage fuel path) tree).result = .ok () ∧
      (makeAll disk (lineage fuel path) tree).tree = tree := by
  -- The induction goes up to the parents, as a disk may refuse a directory as if something was missing.
  induction fuel generalizing path with
  -- No way up is left to be made.
  | zero => exact ⟨rfl, rfl⟩
  | succ fuel ih =>
    obtain ⟨e, other, fails⟩ := makeDirectory_of_isDirectoryAt disk.setting isDirectory
    have notMade {tree' : FileTree} (does : disk.Does (.makeDirectory path) tree tree') : False := by
      have made := does.performed
      rw [FileTree.perform, fails] at made
      cases made
    -- The directory is there, so nothing makes it again.
    rw [lineage_succ]
    by_cases named : path.text = ""
    · rw [makeAll_empty disk _ named]
      exact ⟨rfl, rfl⟩
    obtain ⟨opens, same⟩ : (makeAll disk ((path.parent?.map (lineage fuel)).getD []) tree).result = .ok () ∧
        (makeAll disk ((path.parent?.map (lineage fuel)).getD []) tree).tree = tree := by
      rcases lineage_above fuel path with none | ⟨above, rest, parent, some, whole, -⟩
      · rw [none]
        exact ⟨rfl, rfl⟩
      · rw [whole]
        exact ih (isDirectoryAt_parent rooted parent some isDirectory)
    -- Whichever way it ends, the directory is looked for in the same tree.
    cases making_makeAll disk named ((path.parent?.map (lineage fuel)).getD []) tree with
    -- What is there is not made.
    | made does => exact (notMade does).elim
    | settled _ _ leaves ends =>
      rw [isDirectory, if_pos rfl] at ends
      exact ⟨ends, leaves⟩
    | blocked _ blocks =>
      -- The parents are there, and nothing stands in the way.
      rw [opens] at blocks
      cases blocks
    | madeBehind _ _ does =>
      rw [same] at does
      exact (notMade does).elim
    | settledBehind _ _ _ leaves ends =>
      rw [same, isDirectory, if_pos rfl] at ends
      exact ⟨ends, leaves.trans same⟩

/-- Whether a directory is there decides the end, if it is looked for at last. -/
theorem looked_iff {result : Except Errno Unit} {isDirectory : Bool}
    (ends : result = if isDirectory then .ok () else .error e) : result = .ok () ↔ isDirectory = true := by
  cases isDirectory <;> simp [ends]

/-- Without its parent a path leads to no directory, and none can be made. -/
theorem unmade_of_above (rooted : tree.kind = .directory) (parent : path.parent? = some above)
    (some : above.text ≠ "") (isMissing : tree.isDirectoryAt disk.setting.cwd above = false) :
    tree.isDirectoryAt disk.setting.cwd path = false ∧
      ∀ changed, ¬ disk.Does (.makeDirectory path) tree changed := by
  -- A directory at the path would need one at its parent.
  constructor
  · rw [← Bool.not_eq_true]
    intro isDirectory
    rw [isDirectoryAt_parent rooted parent some isDirectory] at isMissing
    cases isMissing
  · intro changed does
    obtain ⟨folder, name, found, -⟩ := makeDirectory_eq_ok.mp does.performed
    rw [isDirectoryAt_of_resolveParent rooted parent some found] at isMissing
    cases isMissing

/-- Once the directories of a path have been made, it leads to one. -/
theorem isDirectoryAt_of_makeAll (named : path.text ≠ "")
    (opens : (makeAll disk (path :: rest) tree).result = .ok ()) :
    (makeAll disk (path :: rest) tree).tree.isDirectoryAt disk.setting.cwd path = true := by
  -- Either the directory was made, or it was looked for.
  cases making_makeAll disk named rest tree with
  | made does => exact isDirectoryAt_of_does does
  | settled _ _ leaves ends =>
    rw [leaves]
    exact (looked_iff ends).mp opens
  | blocked _ _ _ fails =>
    rw [opens] at fails
    cases fails
  | madeBehind _ _ does => exact isDirectoryAt_of_does does
  | settledBehind _ _ _ leaves ends =>
    rw [leaves]
    exact (looked_iff ends).mp opens

end Making

/-- A disk that goes on as another one does: it starts from the same directory, numbers temporary files by
as many digits, and refuses the same changes of its own accord. -/
structure Disk.Repeats (again disk : Disk) : Prop where
  cwd : again.setting.cwd = disk.setting.cwd
  digits : (Nat.toDigits 10 again.processId).length = (Nat.toDigits 10 disk.processId).length
  makes (path : Path) : again.refuses (.makeDirectory path) = disk.refuses (.makeDirectory path)
  creates (target : Path) : again.refuses (.create (temporaryPath again.processId target)) =
    disk.refuses (.create (temporaryPath disk.processId target))
  fills (target : Path) (bytes : List UInt8) :
    again.refuses (.fill (temporaryPath again.processId target) bytes) =
      disk.refuses (.fill (temporaryPath disk.processId target) bytes)
  moves (target : Path) : again.refuses (.rename (temporaryPath again.processId target) target) =
    disk.refuses (.rename (temporaryPath disk.processId target) target)
  removes (target : Path) : again.refuses (.remove (temporaryPath again.processId target)) =
    disk.refuses (.remove (temporaryPath disk.processId target))

section Again

variable {again disk : Disk} {tree left : FileTree} {path : Path} {e : Errno}

/-- A directory that was not made is not made again, for the same reason. -/
theorem Disk.Repeats.perform_makeDirectory (repeats : again.Repeats disk) (alike : Alike tree left)
    (fails : disk.perform (.makeDirectory path) tree = ⟨.error e, tree, []⟩) :
    again.perform (.makeDirectory path) left = ⟨.error e, left, []⟩ := by
  -- A refusal of the disk is repeated, and so is one of a tree that is alike.
  rw [Disk.perform] at fails ⊢
  rw [repeats.makes]
  cases willing : disk.refuses (.makeDirectory path) with
  | some e' =>
    rw [willing] at fails
    cases fails
    rfl
  | none =>
    rw [willing] at fails
    dsimp only at fails
    split at fails
    · cases fails
    · rename_i e' failed
      have same : e' = e := Except.error.inj (congrArg Passage.result fails)
      subst same
      have failsToo : FileTree.perform again.setting (.makeDirectory path) left = .error e' :=
        alike.makeDirectory repeats.cwd failed
      simp only [failsToo]

/-- Where directories could not be made, they cannot be made in the tree that was left. -/
theorem Disk.Repeats.makeAll (repeats : again.Repeats disk) {fuel : Nat}
    (fails : (FileTree.makeAll disk (lineage fuel path) tree).result = .error e)
    (alike : Alike (FileTree.makeAll disk (lineage fuel path) tree).tree left)
    (rooted : left.kind = .directory) :
    (∃ e', (FileTree.makeAll again (lineage fuel path) left).result = .error e') ∧
      (FileTree.makeAll again (lineage fuel path) left).tree = left ∧
      left.isDirectoryAt disk.setting.cwd path = false := by
  -- The induction goes up to the parents, none of which can be passed by.
  induction fuel generalizing path tree e with
  | zero => cases fails
  | succ fuel ih =>
    rw [lineage_succ] at fails alike ⊢
    by_cases named : path.text = ""
    · rw [makeAll_empty disk _ named] at fails
      cases fails
    have cwd := repeats.cwd
    generalize above_eq : (path.parent?.map (lineage fuel)).getD [] = rest at fails alike ⊢
    cases making_makeAll disk named rest tree with
    | made _ succeeds =>
      -- A directory that was made is no failure.
      rw [succeeds] at fails
      cases fails
    | madeBehind _ _ _ succeeds =>
      rw [succeeds] at fails
      cases fails
    | settled refused other leaves ends =>
      -- It failed for another reason, and does so again.
      rw [leaves] at alike
      have isMissing : left.isDirectoryAt disk.setting.cwd path = false := by
        rw [alike.isDirectoryAt, Bool.eq_false_iff, ne_eq, ← looked_iff ends, fails]
        simp
      have refusedToo := repeats.perform_makeDirectory alike refused
      obtain ⟨failsToo, same⟩ := makeAll_of_unmade rest named (not_does_of_fails refusedToo)
        (by rwa [cwd]) fun missing => by
          rw [refusedToo] at missing
          cases missing
          exact absurd rfl other
      exact ⟨failsToo, same, isMissing⟩
    | blocked missing blocks leaves _ =>
      -- A parent could not be made, and so it is not there, nor is anything below it.
      rw [leaves] at alike
      rcases lineage_above fuel path with none | ⟨above, more, parent, some, whole, -⟩
      · rw [← above_eq, none] at blocks
        cases blocks
      obtain rfl := whole.symm.trans above_eq
      obtain ⟨-, same, isMissing⟩ := ih blocks alike
      rw [← cwd] at isMissing ⊢
      obtain ⟨notThere, unmade⟩ := unmade_of_above rooted parent some isMissing
      obtain ⟨failsToo, sameToo⟩ := makeAll_of_unmade _ named unmade notThere fun _ => same
      exact ⟨failsToo, sameToo, notThere⟩
    | @settledBehind e' missing opens refused leaves ends =>
      -- The parents are there, and it fails for another reason.
      rw [leaves] at alike
      have isMissing : left.isDirectoryAt disk.setting.cwd path = false := by
        rw [alike.isDirectoryAt, Bool.eq_false_iff, ne_eq, ← looked_iff ends, fails]
        simp
      have refusedToo := repeats.perform_makeDirectory alike refused
      have same : (FileTree.makeAll again rest left).tree = left := by
        rcases lineage_above fuel path with none | ⟨above, more, parent, some, whole, first⟩
        · rw [← above_eq, none]
          rfl
        · -- The parent was made, and is still there.
          obtain rfl := whole.symm.trans above_eq
          rw [first] at opens alike
          have there := isDirectoryAt_of_makeAll some opens
          rw [← alike.isDirectoryAt, ← cwd] at there
          exact (makeAll_of_isDirectoryAt rooted there).2
      obtain ⟨failsToo, sameToo⟩ := makeAll_of_unmade rest named (not_does_of_fails refusedToo)
        (by rwa [cwd]) fun _ => same
      exact ⟨failsToo, sameToo, isMissing⟩

end Again

end TemplateFacts.FileTree
