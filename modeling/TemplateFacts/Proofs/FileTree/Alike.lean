import TemplateFacts.Proofs.FileTree.Operation

/-!
Trees that differ in the bytes and the times of files only: paths lead to the same places in them, or
nowhere for the same reason, and no directory is made in the one that cannot be made in the other.
-/

namespace TemplateFacts.FileTree

/-- The same stands everywhere in two trees, but for the bytes of files. -/
def Alike (root changed : FileTree) : Prop :=
  ∀ place, (changed.standing place).shape = (root.standing place).shape

variable {root changed : FileTree} {cwd path : Path} {place : List String}

theorem Alike.symm (alike : Alike root changed) : Alike changed root := fun place => (alike place).symm

/-- What stands in both of two trees that are alike. -/
inductive Alike.Both : Standing → Standing → Prop
  | nothing : Both .nothing .nothing
  | directory : Both .directory .directory
  | link (target : String) : Both (.link target) (.link target)
  | file (bytes others : List UInt8) : Both (.file bytes) (.file others)

/-- What stands at a place of two trees that are alike. -/
theorem Alike.both (alike : Alike root changed) (place : List String) :
    Both (root.standing place) (changed.standing place) := by
  -- Trees that are alike show the same kind everywhere, and the same target for a link.
  have same := alike place
  generalize root.standing place = old, changed.standing place = new at same
  cases old <;> cases new <;> simp only [Standing.shape, reduceCtorEq, Standing.link.injEq] at same
  · exact .nothing
  · exact .file _ _
  · exact same ▸ .link _
  · exact .directory

theorem Alike.nothing_iff (alike : Alike root changed) :
    changed.standing place = .nothing ↔ root.standing place = .nothing := by
  -- In each kind that both can be, nothing stands in both trees or in neither.
  have both := alike.both place
  generalize root.standing place = old, changed.standing place = new at both
  cases both <;> simp

theorem Alike.directory_iff (alike : Alike root changed) :
    changed.standing place = .directory ↔ root.standing place = .directory := by
  -- In each kind that both can be, a directory stands in both trees or in neither.
  have both := alike.both place
  generalize root.standing place = old, changed.standing place = new at both
  cases both <;> simp

/-- A tree that is like a directory is one. -/
theorem Alike.rooted (alike : Alike root changed) (rooted : root.kind = .directory) :
    changed.kind = .directory := by
  -- The root is the place with no names.
  rw [← standing_nil] at rooted ⊢
  exact alike.directory_iff.mpr rooted

/-- Trees that are alike have the same directories and links. -/
theorem Alike.framed (alike : Alike root changed) : Framed root changed where
  -- Directories and links are just what two trees that are alike have in common.
  directory stands := alike.directory_iff.mpr stands
  link := by
    intro folder name target stands
    have both := alike.both (folder ++ [name])
    rw [stands] at both
    generalize changed.standing (folder ++ [name]) = new at both
    cases both
    rfl

/-- A path leads to a directory in both of two trees that are alike, or in none. -/
theorem Alike.isDirectoryAt (alike : Alike root changed) :
    changed.isDirectoryAt cwd path = root.isDirectoryAt cwd path :=
  Bool.eq_iff_iff.mpr ⟨alike.symm.framed.isDirectoryAt, alike.framed.isDirectoryAt⟩

section Following

variable {followLast slash : Bool} {here segments : List String}

/-- Going along segments ends at the same place, given that it does so behind links. -/
theorem names_goAlong {onLink onLinkToo : List String → String → List String → Except Errno Spot}
    (alike : Alike root changed)
    (behind : ∀ here target rest, (onLinkToo here target rest).map Spot.names =
      (onLink here target rest).map Spot.names) :
    (goAlong changed followLast onLinkToo slash here segments).map Spot.names =
      (goAlong root followLast onLink slash here segments).map Spot.names := by
  induction segments generalizing here with
  | nil => rfl
  | cons segment rest ih =>
    rw [goAlong, goAlong]
    split
    · exact ih
    split
    · exact ih
    split
    · rfl
    -- The same stands there in both trees, but for the bytes of a file.
    have both := alike.both (here ++ [segment])
    cases part : root.at? (here ++ [segment]) with
    | none =>
      -- The way ends at a free place, or fails there.
      rw [standing_eq_nothing.mpr part] at both
      generalize stands : changed.standing (here ++ [segment]) = new at both
      cases both
      simp only [part, standing_eq_nothing.mp stands]
    | some child =>
      cases child with
      | directory es =>
        -- Names are looked up below both directories.
        rw [standing_eq_directory.mpr ⟨es, part⟩] at both
        generalize stands : changed.standing (here ++ [segment]) = new at both
        cases both
        obtain ⟨es', there⟩ := standing_eq_directory.mp stands
        simp only [part, there]
        exact ih
      | link target =>
        -- Both links lead on to the same target.
        rw [standing_eq_link.mpr part] at both
        generalize stands : changed.standing (here ++ [segment]) = new at both
        cases both
        simp only [part, standing_eq_link.mp stands]
        split
        · rfl
        · exact behind _ _ _
      | file bytes modified =>
        -- A file is where a way ends, whatever its bytes.
        rw [standing_eq_file.mpr ⟨modified, part⟩] at both
        generalize stands : changed.standing (here ++ [segment]) = new at both
        cases both
        obtain ⟨modified', there⟩ := standing_eq_file.mp stands
        simp only [part, there]
        split <;> rfl

/-- Segments lead to the same place in trees that are alike, or nowhere for the same reason. -/
theorem names_goFollowing {links : Nat} (alike : Alike root changed) :
    (goFollowing changed followLast links slash here segments).map Spot.names =
      (goFollowing root followLast links slash here segments).map Spot.names := by
  -- The names do not depend on what a file holds; the induction is on the links still allowed.
  induction links generalizing slash here segments with
  | zero => exact names_goAlong alike fun _ _ _ => rfl
  | succ links ih => exact names_goAlong alike fun _ _ _ => ih

end Following

/-- The directory of a path is the same in trees that are alike, or missing for the same reason. -/
theorem Alike.resolveParent (alike : Alike root changed) :
    changed.resolveParent cwd path = root.resolveParent cwd path := by
  rw [FileTree.resolveParent, FileTree.resolveParent]
  split
  · rfl
  dsimp only
  split
  · rfl
  rename_i last isLast
  generalize (segments (cwd.join path).text).dropLast = before
  have names := @names_goFollowing _ _ true true [] before greatestLinks alike
  cases ends : goFollowing root true greatestLinks true [] before with
  | error e =>
    -- The same failure is met in both trees.
    cases endsToo : goFollowing changed true greatestLinks true [] before with
    | error e' =>
      rw [ends, endsToo] at names
      cases names
      rfl
    | ok spot => simp [ends, endsToo, Except.map] at names
  | ok spot =>
    cases endsToo : goFollowing changed true greatestLinks true [] before with
    | error e' => simp [ends, endsToo, Except.map] at names
    | ok spotToo =>
      simp only [ends, endsToo, Except.map, Except.ok.injEq] at names
      -- Either something is at the end in both trees, or in none.
      have there := at?_of_goFollowing ends
      have thereToo := at?_of_goFollowing endsToo
      rw [names] at thereToo
      obtain ⟨place, part⟩ := spot
      obtain ⟨placeToo, partToo⟩ := spotToo
      dsimp only at names there thereToo
      subst names
      have free : changed.standing placeToo = .nothing ↔ root.standing placeToo = .nothing := alike.nothing_iff
      rw [standing_eq_nothing, standing_eq_nothing, ← there, ← thereToo] at free
      cases part with
      | none =>
        rw [free.mpr rfl]
      | some part =>
        cases partToo with
        -- The tree at the end would have something where the other one has nothing.
        | none => cases free.mp rfl
        | some partToo => rfl

/-- A directory that cannot be made in a tree cannot be made in one that is alike, for the same reason. -/
theorem Alike.makeDirectory {setting settingToo : Setting} {e : Errno} (alike : Alike root changed)
    (cwd : settingToo.cwd = setting.cwd) (fails : FileTree.makeDirectory setting path root = .error e) :
    FileTree.makeDirectory settingToo path changed = .error e := by
  rw [FileTree.makeDirectory] at fails ⊢
  rw [cwd, alike.resolveParent]
  cases parent : root.resolveParent setting.cwd path with
  | error e' =>
    -- The way to the parent fails in both trees alike.
    rw [parent] at fails
    cases fails
    rfl
  | ok found =>
    rw [parent] at fails
    obtain ⟨folder, last⟩ := found
    cases last with
    | root => exact fails
    | dots => exact fails
    | name name =>
      rw [bind_of_ok rfl] at fails ⊢
      dsimp only at fails ⊢
      split
      · rename_i long
        rw [if_pos long] at fails
        exact fails
      · rename_i short
        rw [if_neg short] at fails
        -- The name is taken in both trees, or in none.
        have free : changed.standing (folder ++ [name]) = .nothing ↔
            root.standing (folder ++ [name]) = .nothing := alike.nothing_iff
        rw [standing_eq_nothing, standing_eq_nothing] at free
        cases part : root.at? (folder ++ [name]) with
        | none =>
          -- A free name would be taken, and no failure met.
          rw [part] at fails
          cases fails
        | some part' =>
          cases partToo : changed.at? (folder ++ [name]) with
          | none =>
            rw [free.mp partToo] at part
            cases part
          | some partToo =>
            rw [part] at fails
            exact fails

end TemplateFacts.FileTree
