import TemplateFacts.Proofs.FileTree.Way
import TemplateFacts.Proofs.Path.Trail

/-!
What is found under a path, told by its way: the directory of a path and what a path leads to are the same
in every tree with the directories and the links of the first one.
-/

namespace TemplateFacts.FileTree

variable {root changed : FileTree} {cwd path : Path} {followLast : Bool} {folder names : List String}
  {name : String} {part : FileTree}

/-- Something is at a place in which names are looked up. -/
theorem Opened.isSome (opened : root.Opened folder) : ∃ part, root.at? folder = some part := by
  -- A folder is the root or a directory that stands somewhere, and both hold something.
  rcases opened with rfl | directory
  · exact ⟨root, rfl⟩
  · obtain ⟨es, there⟩ := standing_eq_directory.mp directory
    exact ⟨_, there⟩

theorem standing_ne_nothing : root.standing names ≠ .nothing ↔ ∃ part, root.at? names = some part := by
  rw [ne_eq, standing_eq_nothing, ← ne_eq, Option.ne_none_iff_exists']

/-- A path leads to what is at the end of its way. -/
theorem stat_eq_ok : root.stat cwd path followLast = .ok (names, part) ↔ refusal? path = none ∧
    (∃ left, Way root followLast greatestLinks (endsInSlash (cwd.join path).text) [] (trail cwd path) names
      left) ∧ root.at? names = some part := by
  rw [stat, resolve]
  cases refusal? path with
  | some e => simp
  | none =>
    simp only [true_and]
    -- The walk finds the part at its end, or nothing, or fails.
    constructor
    · intro found
      split at found
      · cases found
      · rename_i ends
        cases found
        exact ⟨way_of_goFollowing ends, (at?_of_goFollowing ends).symm⟩
      · cases found
    · rintro ⟨⟨left, way⟩, there⟩
      have ends := way.goFollowing
      rw [there] at ends
      rw [trail] at ends
      rw [ends]

/-- What a path leads to is at the place it leads to. -/
theorem at?_of_stat (leads : root.stat cwd path followLast = .ok (names, part)) : root.at? names = some part :=
  (stat_eq_ok.mp leads).2.2

/-- The directory of a path is at the end of the way of its segments but the last, which is a name. -/
theorem resolveParent_eq_ok : root.resolveParent cwd path = .ok (folder, .name name) ↔
    refusal? path = none ∧ ∃ before left, trail cwd path = before ++ [name] ∧ IsName name ∧
      Way root true greatestLinks true [] before folder left ∧ root.Opened folder := by
  constructor
  · -- The last segment is a name, and what is found before it is not a file.
    intro found
    rw [resolveParent] at found
    split at found
    · cases found
    rename_i looked
    refine ⟨looked, ?_⟩
    dsimp only at found
    split at found
    · cases found
    · rename_i last isLast
      split at found
      · cases found
      · cases found
      · rename_i part ends
        split at found
        · cases found
        · rename_i noDots
          cases found
          obtain ⟨left, way⟩ := way_of_goFollowing ends
          obtain ⟨before, whole⟩ := List.getLast?_eq_some_iff.mp isLast
          rw [whole, List.dropLast_concat] at way
          have there := (at?_of_goFollowing ends).symm
          have opened := way.opened (.inl rfl) (standing_ne_nothing.mpr ⟨_, there⟩)
          exact ⟨before, left, whole, by simpa [IsName] using noDots, way, opened⟩
  · -- The way to the directory is taken as it is.
    rintro ⟨looked, before, left, whole, isName, way, opened⟩
    obtain ⟨part, there⟩ := opened.isSome
    have ends := way.goFollowing
    rw [there] at ends
    rw [trail] at whole
    rw [resolveParent, looked]
    simp only [whole, List.getLast?_concat, List.dropLast_concat, ends]
    simp [isName.1, isName.2]

/-- The directory of a path that is found is one in which names are looked up. -/
theorem opened_of_resolveParent (leads : root.resolveParent cwd path = .ok (folder, .name name)) :
    root.Opened folder := by
  obtain ⟨-, -, -, -, -, -, opened⟩ := resolveParent_eq_ok.mp leads
  exact opened

/-- The directory of a path is the same in every tree with the directories and the links of the first. -/
theorem Framed.resolveParent (framed : Framed root changed)
    (found : root.resolveParent cwd path = .ok (folder, .name name)) :
    changed.resolveParent cwd path = .ok (folder, .name name) := by
  -- Only directories and links are passed on the way, and these are kept.
  rw [resolveParent_eq_ok] at found ⊢
  obtain ⟨looked, before, left, whole, isName, way, opened⟩ := found
  exact ⟨looked, before, left, whole, isName, way.transfer_opened framed opened, opened.transfer framed⟩

/-- The place of the name that a path ends with, in the directory that it leads to. -/
def placeOf (root : FileTree) (cwd path : Path) : Option (List String) :=
  match root.resolveParent cwd path with
  | .ok (folder, .name name) => some (folder ++ [name])
  | _ => none

theorem placeOf_eq_some {place : List String} : root.placeOf cwd path = some place ↔
    ∃ folder name, root.resolveParent cwd path = .ok (folder, .name name) ∧ place = folder ++ [name] := by
  -- A place is there exactly when the path ends in a name.
  rw [placeOf]
  split
  · rename_i folder name leads
    simp only [leads, Option.some.injEq, Except.ok.injEq, Prod.mk.injEq, Last.name.injEq]
    constructor
    · rintro rfl
      exact ⟨folder, name, ⟨rfl, rfl⟩, rfl⟩
    · rintro ⟨_, _, ⟨rfl, rfl⟩, here⟩
      exact here.symm
  · rename_i other
    simp only [reduceCtorEq, false_iff, not_exists, not_and]
    exact fun folder name leads => absurd leads (other folder name)

/-- The place of a path is the same in every tree with the directories and the links of the first one. -/
theorem Framed.placeOf {place : List String} (framed : Framed root changed) (leads : root.placeOf cwd path = some place) :
    changed.placeOf cwd path = some place := by
  -- The place is the end of a way, and that way is kept.
  obtain ⟨folder, name, found, rfl⟩ := placeOf_eq_some.mp leads
  exact placeOf_eq_some.mpr ⟨folder, name, framed.resolveParent found, rfl⟩

/-- A tree with the directories of another one is a directory, if the other one is. -/
theorem Framed.rooted (framed : Framed root changed) (rooted : root.kind = .directory) :
    changed.kind = .directory := by
  -- The root is the place with no names.
  rw [← standing_nil] at rooted ⊢
  exact framed.directory rooted

/-- What a path leads to is at the same place in every tree with the directories and the links of the first
one, if the same stands there. -/
theorem Framed.stat {partToo : FileTree} (framed : Framed root changed)
    (found : root.stat cwd path followLast = .ok (names, part))
    (stands : names ≠ [] → (changed.standing names).shape = (root.standing names).shape)
    (there : changed.at? names = some partToo) : changed.stat cwd path followLast = .ok (names, partToo) := by
  -- The way ends at the same names, and what is there now is found there.
  rw [stat_eq_ok] at found ⊢
  obtain ⟨looked, ⟨left, way⟩, -⟩ := found
  exact ⟨looked, ⟨left, way.transfer framed stands⟩, there⟩

/-- A path leads to a directory if its way ends at one. -/
theorem isDirectoryAt_iff : root.isDirectoryAt cwd path = true ↔
    ∃ names es, root.stat cwd path true = .ok (names, .directory es) := by
  -- The lookup has one result, and only a directory counts.
  rw [isDirectoryAt]
  split
  · rename_i names es found
    simp [found]
  · rename_i other
    simp only [Bool.false_eq_true, false_iff, not_exists]
    exact fun names es found => other names es found

/-- A path leads to a directory in every tree with the directories and the links of the first one. -/
theorem Framed.isDirectoryAt (framed : Framed root changed)
    (isDirectory : root.isDirectoryAt cwd path = true) : changed.isDirectoryAt cwd path = true := by
  -- A directory is kept, and the way to it leads through directories and links.
  rw [isDirectoryAt_iff] at isDirectory ⊢
  obtain ⟨names, es, found⟩ := isDirectory
  have directory : root.standing names = .directory := standing_eq_directory.mpr ⟨es, at?_of_stat found⟩
  have still := framed.directory directory
  obtain ⟨es', there⟩ := standing_eq_directory.mp still
  exact ⟨names, es', framed.stat found (fun _ => by rw [still, directory]) there⟩

/-- A path leads to a directory if its name is that of one. -/
theorem stat_of_name (found : root.resolveParent cwd path = .ok (folder, .name name))
    (short : IsShort name) (directory : root.standing (folder ++ [name]) = .directory) :
    ∃ es, root.stat cwd path true = .ok (folder ++ [name], .directory es) := by
  obtain ⟨looked, before, left, whole, isName, way, opened⟩ := resolveParent_eq_ok.mp found
  obtain ⟨es, there⟩ := standing_eq_directory.mp directory
  refine ⟨es, stat_eq_ok.mpr ⟨looked, ?_, there⟩⟩
  -- Behind the directory of the path, its name is entered.
  have last : Way root true left (endsInSlash (cwd.join path).text) folder [name] (folder ++ [name]) left :=
    .enter isName short directory (.done ..)
  have ends : goFollowing root true greatestLinks _ [] (before ++ [name]) = _ :=
    way.goFollowing_append (endsInSlash (cwd.join path).text) opened (List.cons_ne_nil name [])
  rw [last.goFollowing] at ends
  rw [whole]
  exact way_of_goFollowing ends

section Above

variable {above : Path} (rooted : root.kind = .directory)

include rooted

/-- A place in which names are looked up is that of a directory. -/
theorem Opened.directory (opened : root.Opened folder) : root.standing folder = .directory := by
  -- The root is a directory, so even the empty folder is one.
  rcases opened with rfl | directory
  · exact rooted
  · exact directory

/-- Where the way of a path begins with that of another one, the other one leads to a directory. -/
theorem isDirectoryAt_of_way {more there : List String} {slash : Bool} {left : Nat}
    (way : Way root followLast greatestLinks slash [] (trail cwd above ++ more) there left) (some : more ≠ [])
    (looked : refusal? above = none) : root.isDirectoryAt cwd above = true := by
  -- A way that goes on behind a part has stopped in between at a directory.
  obtain ⟨folder, middle, early, opened, -⟩ := way.split (.inl rfl) some
  obtain ⟨es, there⟩ := standing_eq_directory.mp (opened.directory rooted)
  exact isDirectoryAt_iff.mpr ⟨folder, es, stat_eq_ok.mpr ⟨looked, ⟨middle, early.asking opened _⟩, there⟩⟩

/-- The parent of a path to a directory leads to one. -/
theorem isDirectoryAt_parent (parent : path.parent? = some above) (some : above.text ≠ "")
    (isDirectory : root.isDirectoryAt cwd path = true) : root.isDirectoryAt cwd above = true := by
  -- The way to a directory leads through its parent.
  obtain ⟨names, es, found⟩ := isDirectoryAt_iff.mp isDirectory
  obtain ⟨looked, ⟨left, way⟩, -⟩ := stat_eq_ok.mp found
  obtain ⟨more, others, whole, -⟩ := Path.trail_parent cwd parent some
  rw [whole] at way
  exact isDirectoryAt_of_way rooted way others (refusal?_parent parent some looked)

/-- The parent of a path leads to a directory if that of the path is found. -/
theorem isDirectoryAt_of_resolveParent (parent : path.parent? = some above) (some : above.text ≠ "")
    (found : root.resolveParent cwd path = .ok (folder, .name name)) :
    root.isDirectoryAt cwd above = true := by
  obtain ⟨looked, before, left, whole, -, way, opened⟩ := resolveParent_eq_ok.mp found
  obtain ⟨more, others, split, -⟩ := Path.trail_parent cwd parent some
  have looked := refusal?_parent parent some looked
  rw [whole] at split
  -- The segments of the parent are all but the last one, or fewer.
  rcases List.eq_nil_or_concat more with rfl | ⟨init, last, rfl⟩
  · exact absurd rfl others
  rw [List.concat_eq_append, ← List.append_assoc] at split
  obtain ⟨before_eq, -⟩ := List.append_inj' split rfl
  rw [before_eq] at way
  by_cases none : init = []
  · rw [none, List.append_nil] at way
    obtain ⟨es, there⟩ := standing_eq_directory.mp (opened.directory rooted)
    exact isDirectoryAt_iff.mpr ⟨folder, es, stat_eq_ok.mpr ⟨looked, ⟨left, way.asking opened _⟩, there⟩⟩
  · exact isDirectoryAt_of_way rooted way none looked

/-- A way to a file ends with its name, unless a link is followed at the end. -/
theorem Way.name_of_file {links left : Nat} {slash : Bool} {here path there : List String}
    {bytes : List UInt8} (way : Way root false links slash here path there left) (opened : root.Opened here)
    (isFile : root.standing there = .file bytes) :
    ∃ before folder name, path = before ++ [name] ∧ there = folder ++ [name] ∧ IsName name := by
  induction way with
  | done links slash here =>
    rw [opened.directory rooted] at isFile
    cases isFile
  | missing _ _ _ _ stands =>
    rw [stands] at isFile
    cases isFile
  | file _ isName => exact ⟨[], _, _, rfl, rfl, isName⟩
  | link _ _ _ stands =>
    rw [stands] at isFile
    cases isFile
  | dot _ ih =>
    obtain ⟨before, folder, name, rfl, there, isName⟩ := ih opened isFile
    exact ⟨"." :: before, folder, name, rfl, there, isName⟩
  | up _ ih =>
    obtain ⟨before, folder, name, rfl, there, isName⟩ := ih opened.above isFile
    exact ⟨".." :: before, folder, name, rfl, there, isName⟩
  | @enter links left slash here rest there segment isName short stands way ih =>
    obtain ⟨before, folder, name, rfl, there, isName⟩ := ih (.inr stands) isFile
    exact ⟨segment :: before, folder, name, rfl, there, isName⟩
  | @follow links left slash here rest there segment target isName short stands follows way ih =>
    obtain ⟨before, folder, name, whole, there, isName⟩ := ih (opened.startOf _) isFile
    rcases List.eq_nil_or_concat rest with rfl | ⟨init, last, rfl⟩
    · -- A link at the end is followed only where a directory is asked for.
      have asks : slash = true := by simpa using follows
      subst asks
      have ends := way.opened (opened.startOf _) (by rw [isFile]; simp)
      rw [ends.directory rooted] at isFile
      cases isFile
    · rw [List.concat_eq_append, ← List.append_assoc] at whole
      obtain ⟨-, same⟩ := List.append_inj' whole rfl
      obtain rfl : last = name := by simpa using same
      exact ⟨segment :: init, folder, last, by simp, there, isName⟩

/-- The last name of a path to a file is that of the file, unless a link is followed at the end. -/
theorem name_of_stat {bytes : List UInt8} {modified : Timestamp.Instant}
    (found : root.stat cwd path false = .ok (names, .file bytes modified)) :
    ∃ folder name, names = folder ++ [name] ∧ path.fileName? = some name := by
  -- A file never ends a way that asks for a directory, so the last segment is a name.
  obtain ⟨looked, ⟨left, way⟩, there⟩ := stat_eq_ok.mp found
  obtain ⟨before, folder, name, whole, here, isName⟩ :=
    way.name_of_file rooted (.inl rfl) (standing_eq_file.mpr ⟨modified, there⟩)
  exact ⟨folder, name, here,
    Path.fileName?_of_trail (refusal?_eq_none.mp looked).2.1 whole isName.1 isName.2⟩

end Above

end TemplateFacts.FileTree
