import TemplateFacts.FileTree.Operation
import TemplateFacts.Proofs.FileTree.Lookup
import TemplateFacts.Proofs.Outcome

/-!
When each change of a tree succeeds, and which tree it gives: exactly one part is set or removed, at the
place of a name in the directory that a path leads to, and a move frees another place.
-/

namespace TemplateFacts

/-- A path that ends in a plain name ends in no slash. -/
theorem Path.EndsIn.noSlash {path : Path} {name : String} (ends : path.EndsIn name)
    (plain : (Component.name name).IsPlain) : FileTree.endsInSlash path.text = false := by
  -- The path's last character is the name's, which has no slash in it.
  obtain ⟨front, text, -⟩ := ends
  rw [FileTree.endsInSlash, beq_eq_false_iff_ne, text, String.toList_append, List.getLast?_append]
  have some : name.toList ≠ [] := fun none => plain.1 (String.toList_eq_nil_iff.mp none)
  rw [List.getLast?_eq_some_getLast some, Option.some_or, ne_eq, Option.some.injEq]
  intro slash
  exact plain.2.2.2 (slash ▸ List.getLast_mem some)

/-- A path that ends in a plain name is found under it. -/
theorem Path.EndsIn.name {root : FileTree} {cwd path : Path} {ending name : String} {folder : List String}
    (ends : path.EndsIn ending) (plain : (Component.name ending).IsPlain)
    (leads : root.resolveParent cwd path = .ok (folder, .name name)) : ending = name := by
  -- The last segment of a path that ends in the name is that name.
  obtain ⟨-, before, -, whole, -⟩ := FileTree.resolveParent_eq_ok.mp leads
  obtain ⟨before', whole'⟩ := (ends.join cwd).segments plain
  obtain ⟨-, last⟩ := List.append_inj' (whole'.symm.trans whole) rfl
  simpa using last

namespace FileTree

/-- One tree becomes another by what stands at one place, the root set aside. -/
def SetAt (tree changed : FileTree) (place : List String) (stands : Standing) : Prop :=
  ∀ other, other ≠ [] → changed.standing other = if other = place then stands else tree.standing other

/-- What is no directory holds nothing. -/
theorem bare_of_standing {tree : FileTree} {place : List String} (free : tree.standing place ≠ .directory) :
    tree.Bare place := by
  -- Only a directory holds anything.
  intro part there
  cases part with
  | file bytes modified => rfl
  | link target => rfl
  | directory es => exact absurd (standing_eq_directory.mpr ⟨es, there⟩) free

/-- Putting something that holds nothing sets what stands at its place. -/
theorem setAt_put {part tree : FileTree} {above : List String} {name : String} (holds : part.entries = [])
    (free : tree.standing (above ++ [name]) ≠ .directory) (opened : tree.Opened above) :
    SetAt tree (put part (above ++ [name]) tree) (above ++ [name]) part.kind :=
  fun _ below => standing_put holds (bare_of_standing free) opened below

/-- Removing something that holds nothing leaves nothing at its place. -/
theorem setAt_erase {tree : FileTree} {above : List String} {name : String}
    (free : tree.standing (above ++ [name]) ≠ .directory) (opened : tree.Opened above) :
    SetAt tree (erase (above ++ [name]) tree) (above ++ [name]) .nothing :=
  fun _ below => standing_erase (bare_of_standing free) opened below

section Framed

variable {part tree : FileTree} {above : List String} {name : String}

/-- What something is set in is a directory. -/
theorem kind_put (part tree : FileTree) (above : List String) (name : String) :
    (put part (above ++ [name]) tree).kind = .directory := by
  cases above <;> rfl

/-- Setting a place keeps directories and links, if none stood there. -/
theorem SetAt.framed {changed : FileTree} {place : List String} {stands : Standing}
    (sets : SetAt tree changed place stands)
    (rooted : tree.kind = .directory → changed.kind = .directory)
    (noDirectory : tree.standing place ≠ .directory)
    (noLink : ∀ target, tree.standing place ≠ .link target) : Framed tree changed := by
  -- Directories and links stand elsewhere, where nothing changed.
  refine .of_kept rooted fun other below isFrame => ?_
  have elsewhere : other ≠ place := by
    rintro rfl
    exact Standing.not_isFrame noDirectory noLink isFrame
  rw [sets other below, if_neg elsewhere]

/-- Setting a part keeps directories and links, if it takes the place of none. -/
theorem framed_put (holds : part.entries = []) (opened : tree.Opened above)
    (noDirectory : tree.standing (above ++ [name]) ≠ .directory)
    (noLink : ∀ target, tree.standing (above ++ [name]) ≠ .link target) :
    Framed tree (put part (above ++ [name]) tree) :=
  (setAt_put holds noDirectory opened).framed (fun _ => kind_put ..) noDirectory noLink

/-- Removing a part keeps directories and links, if it is none. -/
theorem framed_erase (opened : tree.Opened above)
    (noDirectory : tree.standing (above ++ [name]) ≠ .directory)
    (noLink : ∀ target, tree.standing (above ++ [name]) ≠ .link target) :
    Framed tree (erase (above ++ [name]) tree) :=
  (setAt_erase noDirectory opened).framed (fun rooted => kind_erase rooted _) noDirectory noLink

end Framed

variable {setting : Setting} {path : Path} {tree changed : FileTree} {bytes : List UInt8}

/-- A directory is made under a name that is not too long, where nothing is. -/
theorem makeDirectory_eq_ok : makeDirectory setting path tree = .ok changed ↔ ∃ folder name,
    tree.resolveParent setting.cwd path = .ok (folder, .name name) ∧ IsShort name ∧
      tree.standing (folder ++ [name]) = .nothing ∧ changed = put empty (folder ++ [name]) tree := by
  rw [makeDirectory]
  constructor
  · intro makes
    -- Each check that stands in the way has been passed.
    obtain ⟨⟨folder, last⟩, parent, makes⟩ := ok_of_bind makes
    dsimp only at makes
    split at makes
    · rename_i name
      split at makes
      · cases makes
      rename_i long
      split at makes
      · cases makes
      · rename_i free
        refine ⟨folder, name, parent, Nat.le_of_not_lt long, ?_, (Except.ok.inj makes).symm⟩
        rw [standing_eq_nothing]
        simpa using free
    · cases makes
  · -- A short name that is free passes every check.
    rintro ⟨folder, name, parent, short, free, rfl⟩
    rw [standing_eq_nothing] at free
    rw [bind_of_ok parent]
    dsimp only
    rw [if_neg (Nat.not_lt_of_le short), free]
    rfl

/-- A directory is made where nothing was. -/
theorem setAt_makeDirectory (makes : makeDirectory setting path tree = .ok changed) :
    ∃ place, tree.standing place = .nothing ∧ SetAt tree changed place .directory := by
  obtain ⟨folder, name, leads, -, free, rfl⟩ := makeDirectory_eq_ok.mp makes
  exact ⟨_, free, setAt_put rfl (by simp [free]) (opened_of_resolveParent leads)⟩

/-- No directory is made where one is, and that is not because anything is missing. -/
theorem makeDirectory_of_isDirectoryAt (setting : Setting)
    (isDirectory : tree.isDirectoryAt setting.cwd path = true) :
    ∃ e, e ≠ .noEntry ∧ makeDirectory setting path tree = .error e := by
  obtain ⟨names, es, found⟩ := isDirectoryAt_iff.mp isDirectory
  obtain ⟨looked, ⟨left, way⟩, there⟩ := stat_eq_ok.mp found
  rw [makeDirectory, resolveParent, looked]
  -- Either there is no segment at all, or there is a last one in a folder.
  rcases List.eq_nil_or_concat (trail setting.cwd path) with none | ⟨before, last, whole⟩
  · -- The path is that of the root.
    rw [trail] at none
    rw [none]
    exact ⟨.exists, by decide, rfl⟩
  rw [List.concat_eq_append] at whole
  rw [whole] at way
  obtain ⟨folder, middle, early, opened, late⟩ := way.split (.inl rfl) (List.cons_ne_nil _ _)
  -- The way to the last segment is taken in a directory.
  obtain ⟨part, inside⟩ := opened.isSome
  have ends := early.goFollowing
  rw [inside] at ends
  rw [trail] at whole
  simp only [whole, List.getLast?_concat, List.dropLast_concat, ends]
  cases dots : last == "." || last == ".." with
  -- A path that ends in dots is that of something that is there.
  | true => exact ⟨.exists, by decide, rfl⟩
  | false =>
    rw [Bool.or_eq_false_iff, beq_eq_false_iff_ne, beq_eq_false_iff_ne] at dots
    -- The name is that of a directory, or of a link.
    obtain ⟨part, taken⟩ : ∃ part, tree.at? (folder ++ [last]) = some part := by
      rw [← standing_ne_nothing]
      generalize endsInSlash (setting.cwd.join path).text = slash at late
      cases late with
      | missing _ _ _ _ stands =>
        rw [standing_eq_nothing, there] at stands
        cases stands
      | file _ _ _ stands => simp [stands]
      | link _ _ _ stands => simp [stands]
      | dot => exact absurd rfl dots.1
      | up => exact absurd rfl dots.2
      | enter _ _ stands => simp [stands]
      | follow _ _ stands => simp [stands]
    show ∃ e, _ ∧ (if last.utf8ByteSize > greatestName then _ else _) = _
    rw [taken]
    -- A name that is too long is refused before it is looked up.
    split
    · exact ⟨.nameTooLong, by decide, rfl⟩
    · exact ⟨.exists, by decide, rfl⟩

section SetFile

variable {before : List String} {name : String} (ends : path.EndsIn name)
  (plain : (Component.name name).IsPlain) (whole : trail setting.cwd path = before ++ [name])
  (noLink : ∀ folder, tree.resolveParent setting.cwd path = .ok (folder, .name name) →
    ∀ target, tree.standing (folder ++ [name]) ≠ .link target)

include ends plain whole noLink

/-- A path to a name that is no link's leads to the place of the name in the directory of the path. -/
theorem resolve_eq_ok {spot : Spot} : tree.resolve setting.cwd path true = .ok spot ↔ ∃ folder,
    tree.resolveParent setting.cwd path = .ok (folder, .name name) ∧ IsShort name ∧
      spot = ⟨folder ++ [name], tree.at? (folder ++ [name])⟩ := by
  have isName : IsName name := ⟨plain.2.1, plain.2.2.1⟩
  have noSlash := (ends.join setting.cwd).noSlash plain
  rw [resolve]
  constructor
  · intro found
    -- The path is looked at before it is walked.
    split at found
    · cases found
    rename_i looked
    dsimp only at found
    rw [trail] at whole
    rw [noSlash, whole] at found
    have there := at?_of_goFollowing found
    obtain ⟨left, way⟩ := way_of_goFollowing found
    obtain ⟨folder, middle, early, opened, late⟩ := way.split (.inl rfl) (List.cons_ne_nil _ _)
    have parent : tree.resolveParent setting.cwd path = .ok (folder, .name name) :=
      resolveParent_eq_ok.mpr ⟨looked, before, middle, whole, isName, early, opened⟩
    -- The last segment is a name and no link, so that the way ends at its place.
    obtain ⟨short, place⟩ : IsShort name ∧ spot.names = folder ++ [name] := by
      generalize spot.names = names at late
      cases late with
      | missing _ _ _ short => exact ⟨short, rfl⟩
      | file _ _ short => exact ⟨short, rfl⟩
      | link _ _ _ stands => exact absurd stands (noLink folder parent _)
      | dot => exact absurd rfl isName.1
      | up => exact absurd rfl isName.2
      | enter _ short _ way =>
        cases way
        exact ⟨short, rfl⟩
      | follow _ _ stands => exact absurd stands (noLink folder parent _)
    exact ⟨folder, parent, short, by rw [← place, ← there]⟩
  · -- The way to the folder goes on by the name, whatever stands under it.
    rintro ⟨folder, parent, short, rfl⟩
    obtain ⟨looked, before', left, whole', -, way, opened⟩ := resolveParent_eq_ok.mp parent
    have last : Way tree true left false folder [name] (folder ++ [name]) left := by
      cases stands : tree.standing (folder ++ [name]) with
      | nothing => exact .missing left false isName short stands
      | file bytes => exact .file left isName short stands
      | link target => exact absurd stands (noLink folder parent target)
      | directory => exact .enter isName short stands (.done ..)
    have found : goFollowing tree true greatestLinks false [] (before' ++ [name]) = _ :=
      way.goFollowing_append false opened (List.cons_ne_nil name [])
    rw [last.goFollowing, ← whole', trail] at found
    rw [looked]
    simp only [noSlash, found]

/-- The bytes of a file under a name that is no link's are set where no directory is. -/
theorem setFile_eq_ok : setFile setting path bytes tree = .ok changed ↔ ∃ folder,
    tree.resolveParent setting.cwd path = .ok (folder, .name name) ∧ IsShort name ∧
      tree.standing (folder ++ [name]) ≠ .directory ∧
      changed = put (.file bytes setting.now) (folder ++ [name]) tree := by
  have noSlash := ends.noSlash plain
  rw [setFile]
  constructor
  · intro sets
    -- A file is set where a file is, or nothing at all.
    obtain ⟨spot, found, sets⟩ := ok_of_bind sets
    obtain ⟨folder, parent, short, rfl⟩ := (resolve_eq_ok ends plain whole noLink).mp found
    refine ⟨folder, parent, short, ?_, ?_⟩
    · rw [ne_eq, standing_eq_directory]
      rintro ⟨es, directory⟩
      rw [directory] at sets
      cases sets
    · split at sets
      · cases sets
      · exact (Except.ok.inj sets).symm
      · split at sets
        · cases sets
        · exact (Except.ok.inj sets).symm
  · -- Where no directory stands, the file is put.
    rintro ⟨folder, parent, short, free, rfl⟩
    rw [bind_of_ok ((resolve_eq_ok ends plain whole noLink).mpr ⟨folder, parent, short, rfl⟩)]
    dsimp only
    split
    · rename_i es there
      exact absurd (standing_eq_directory.mpr ⟨es, there⟩) free
    · rfl
    · rw [noSlash]
      rfl

/-- The bytes of a file are set at the place of its path, if no link is there. -/
theorem setAt_setFile (sets : setFile setting path bytes tree = .ok changed) :
    ∃ folder, tree.resolveParent setting.cwd path = .ok (folder, .name name) ∧
      tree.standing (folder ++ [name]) ≠ .directory ∧
      SetAt tree changed (folder ++ [name]) (.file bytes) := by
  -- The file is put at the place its path leads to, and a file holds no entries.
  obtain ⟨folder, leads, -, free, rfl⟩ := (setFile_eq_ok ends plain whole noLink).mp sets
  have opened := opened_of_resolveParent leads
  exact ⟨folder, leads, free, setAt_put (entries_file bytes setting.now) free opened⟩

end SetFile

/-- Something is moved to a place under a name that is not too long, where no directory is. -/
theorem rename_eq_ok {source target : Path} : rename setting source target tree = .ok changed ↔
    ∃ fromFolder fromName toFolder toName moved,
      tree.resolveParent setting.cwd source = .ok (fromFolder, .name fromName) ∧
      tree.resolveParent setting.cwd target = .ok (toFolder, .name toName) ∧
      tree.at? (fromFolder ++ [fromName]) = some moved ∧ IsShort toName ∧
      (endsInSlash target.text && !moved.isDirectory) = false ∧
      tree.standing (toFolder ++ [toName]) ≠ .directory ∧
      changed = put moved (toFolder ++ [toName]) (erase (fromFolder ++ [fromName]) tree) := by
  rw [rename]
  constructor
  · intro moves
    -- Both paths end in names; each check that stands in the way has been passed.
    obtain ⟨⟨fromFolder, fromLast⟩, parent, moving⟩ := ok_of_bind moves
    obtain ⟨⟨toFolder, toLast⟩, parentToo, moved⟩ := ok_of_bind moving
    match fromLast, toLast with
    | .name fromName, .name toName =>
      dsimp only at moved
      split at moved
      · cases moved
      rename_i part there
      split at moved
      · cases moved
      rename_i long
      split at moved
      · cases moved
      rename_i noSlash
      split at moved
      · cases moved
      · rename_i free
        refine ⟨fromFolder, fromName, toFolder, toName, part, parent, parentToo, there,
          Nat.le_of_not_lt long, Bool.eq_false_iff.mpr noSlash, ?_, (Except.ok.inj moved).symm⟩
        rw [ne_eq, standing_eq_directory]
        rintro ⟨es, directory⟩
        exact free es directory
    | .root, _ => cases moved
    | .dots, _ => cases moved
    | .name _, .root => cases moved
    | .name _, .dots => cases moved
  · -- With all this no check stands in the way.
    rintro ⟨fromFolder, fromName, toFolder, toName, moved, parent, parentToo, there, short, noSlash, free,
      rfl⟩
    rw [bind_of_ok parent]
    dsimp only
    rw [bind_of_ok parentToo]
    dsimp only
    rw [there]
    dsimp only
    rw [if_neg (Nat.not_lt_of_le short), noSlash, if_neg Bool.false_ne_true]
    split
    · rename_i es directory
      exact absurd (standing_eq_directory.mpr ⟨es, directory⟩) free
    · rfl

/-- A file is moved to a place where no directory is, and is gone from where it was. -/
theorem standing_rename {source target : Path} (moves : rename setting source target tree = .ok changed) :
    ∃ fromFolder fromName toFolder toName,
      tree.resolveParent setting.cwd source = .ok (fromFolder, .name fromName) ∧
      tree.resolveParent setting.cwd target = .ok (toFolder, .name toName) ∧
      ∀ bytes, tree.standing (fromFolder ++ [fromName]) = .file bytes →
        ∀ other, other ≠ [] → changed.standing other =
          if other = toFolder ++ [toName] then .file bytes
          else if other = fromFolder ++ [fromName] then .nothing else tree.standing other := by
  obtain ⟨fromFolder, fromName, toFolder, toName, moved, leads, reaches, there, -, -, free, rfl⟩ :=
    rename_eq_ok.mp moves
  refine ⟨fromFolder, fromName, toFolder, toName, leads, reaches, fun bytes isFile other below => ?_⟩
  obtain ⟨modified, isMoved⟩ := standing_eq_file.mp isFile
  obtain rfl := Option.some.inj (isMoved.symm.trans there)
  have opened := opened_of_resolveParent leads
  -- First the file is removed from where it was, and then it is put to the target.
  have erased : SetAt tree (erase (fromFolder ++ [fromName]) tree) (fromFolder ++ [fromName]) .nothing :=
    setAt_erase (by simp [isFile]) opened
  have framed : Framed tree (erase (fromFolder ++ [fromName]) tree) :=
    framed_erase opened (by simp [isFile]) (by simp [isFile])
  have freeToo : (erase (fromFolder ++ [fromName]) tree).standing (toFolder ++ [toName]) ≠ .directory := by
    rw [erased _ (by simp)]
    split
    · simp
    · exact free
  have sets : SetAt _ _ (toFolder ++ [toName]) (.file bytes) :=
    setAt_put (entries_file bytes modified) freeToo ((opened_of_resolveParent reaches).transfer framed)
  rw [sets other below, erased other below]

/-- A file or a link is removed. -/
theorem remove_eq_ok : remove setting path tree = .ok changed ↔ ∃ folder name,
    tree.resolveParent setting.cwd path = .ok (folder, .name name) ∧
      tree.standing (folder ++ [name]) ≠ .nothing ∧ tree.standing (folder ++ [name]) ≠ .directory ∧
      changed = erase (folder ++ [name]) tree := by
  rw [remove]
  constructor
  · intro removes
    -- Each check that stands in the way has been passed.
    obtain ⟨⟨folder, last⟩, parent, removes⟩ := ok_of_bind removes
    dsimp only at removes
    split at removes
    · rename_i name
      split at removes
      · cases removes
      · cases removes
      · rename_i part free there
        refine ⟨folder, name, parent, standing_ne_nothing.mpr ⟨part, there⟩, ?_,
          (Except.ok.inj removes).symm⟩
        rw [ne_eq, standing_eq_directory]
        rintro ⟨es, directory⟩
        exact free es (Option.some.inj (there.symm.trans directory))
    · cases removes
  · -- What is neither nothing nor a directory is removed.
    rintro ⟨folder, name, parent, something, free, rfl⟩
    obtain ⟨part, there⟩ := standing_ne_nothing.mp something
    rw [bind_of_ok parent]
    dsimp only
    rw [there]
    cases part with
    | directory es => exact absurd (standing_eq_directory.mpr ⟨es, there⟩) free
    | file bytes modified => rfl
    | link target => rfl

/-- A file or a link is removed from its place. -/
theorem setAt_remove (removes : remove setting path tree = .ok changed) :
    ∃ folder name, tree.resolveParent setting.cwd path = .ok (folder, .name name) ∧
      SetAt tree changed (folder ++ [name]) .nothing := by
  -- What is removed is no directory, so nothing stood below it.
  obtain ⟨folder, name, leads, -, free, rfl⟩ := remove_eq_ok.mp removes
  exact ⟨folder, name, leads, fun other below =>
    standing_erase (bare_of_standing free) (opened_of_resolveParent leads) below⟩

end FileTree

end TemplateFacts
