import TemplateFacts.Proofs.Scan.Found

/-!
A scan finds the same sources after facts have been written, and each source is read as before: neither the
names of facts files nor those of temporary files are names of sources, directories and links stay where they
are, and so the files with the name of a source are the same ones.
-/

namespace TemplateFacts

namespace Text

/-- The case of what comes last is removed apart from what is in front of it. -/
theorem exists_lowerAfter_append (before first more : List Char) :
    ∃ front, lowerAfter before (first ++ more) = front ++ lowerAfter (first.reverse ++ before) more := by
  -- Lowering a letter looks only at what stands before it.
  induction first generalizing before with
  | nil => exact ⟨[], rfl⟩
  | cons c first ih =>
    obtain ⟨front, rest⟩ := ih (c :: before)
    rw [List.cons_append, lowerAfter, rest, ← List.append_assoc, List.reverse_cons,
      List.append_assoc first.reverse, List.singleton_append]
    exact ⟨_, rfl⟩

end Text

namespace SourceFile

/-- A name with an ending that neither ends that of sources nor ends in it is not that of a source. -/
theorem isSourceName_append {ending : String} (name : String)
    (lowers : ∀ before, Text.lowerAfter before ending.toList = ending.toList)
    (longer : ¬ sourceEnding.toList <:+ ending.toList) (shorter : ¬ ending.toList <:+ sourceEnding.toList) :
    isSourceName (name ++ ending) = false := by
  -- The name ends in both endings, so the shorter of them would end the longer.
  obtain ⟨front, whole⟩ := Text.exists_lowerAfter_append [] name.toList ending.toList
  rw [isSourceName, Text.endsWith, Text.lower, String.toList_ofList, String.toList_append, whole, lowers,
    ← Bool.not_eq_true, List.isSuffixOf_iff_suffix]
  intro source
  exact (List.suffix_or_suffix_of_suffix source (List.suffix_append front _)).elim longer shorter

/-- The name of a facts file is not that of a source. -/
theorem isSourceName_facts (stem : String) : isSourceName (stem ++ factsEnding) = false :=
  isSourceName_append stem (fun _ => rfl) (by decide) (by decide)

/-- The name of a temporary file is not that of a source. -/
theorem isSourceName_temporary (processId : Nat) (name : String) :
    isSourceName (FileTree.temporaryName processId name) = false := by
  -- The name ends in `.tmp`, whatever stands before.
  have whole : FileTree.temporaryName processId name =
      String.ofList ('.' :: name.toList ++ '.' :: Nat.toDigits 10 processId) ++ ".tmp" := by
    rw [← String.toList_inj, FileTree.toList_temporaryName]
    simp
  rw [whole]
  exact isSourceName_append _ (fun _ => rfl) (by decide) (by decide)

end SourceFile

namespace FileTree

/-- The files with the name of a source are the same in two trees, with their times. -/
def SameSources (tree changed : FileTree) : Prop :=
  ∀ folder name bytes modified, SourceFile.isSourceName name = true →
    (changed.at? (folder ++ [name]) = some (.file bytes modified) ↔
      tree.at? (folder ++ [name]) = some (.file bytes modified))

section SameSources

variable {disk : Disk} {target : Path} {tree between changed : FileTree} {earlier : List FileTree}
  {facts : String}

theorem SameSources.refl (tree : FileTree) : SameSources tree tree := fun _ _ _ _ _ => Iff.rfl

theorem SameSources.trans (first : SameSources tree between) (second : SameSources between changed) :
    SameSources tree changed :=
  fun folder name bytes modified isSource =>
    (second folder name bytes modified isSource).trans (first folder name bytes modified isSource)

/-- The changes of a replacement leave the sources alone, if the name of its target is not that of one. -/
theorem Change.sameSources (change : Change disk target tree changed) (ends : target.EndsIn facts)
    (plain : (Component.name facts).IsPlain) (other : SourceFile.isSourceName facts = false) :
    SameSources tree changed := by
  intro folder name bytes modified isSource
  -- The temporary file has a name of its own, which is no source's.
  have spare : name ≠ spareOf disk.processId target := by
    rintro rfl
    rw [spareOf, SourceFile.isSourceName_temporary] at isSource
    cases isSource
  rw [← faceAt_eq_file, ← faceAt_eq_file]
  rcases change.fate (List.concat_ne_nil name folder) with kept | fate
  · rw [kept]
  generalize changed.faceAt (folder ++ [name]) = now at fate
  cases fate with
  | made _ _ _ free =>
    -- There was no file before, and there is none now.
    rw [faceAt_eq_file, standing_eq_nothing.mp free]
    simp
  | used named => exact absurd (by simpa using named) spare
  | gone named => exact absurd (by simpa using named) spare
  | reached reaches here =>
    -- The target is no source either.
    have same := ends.name plain reaches
    obtain ⟨-, last⟩ := List.append_inj' here rfl
    obtain rfl : name = facts := by simpa [same] using last
    rw [other] at isSource
    cases isSource

/-- A replacement leaves the sources alone, if the name of its target is not that of one. -/
theorem Passes.sameSources (passes : Passes disk target tree changed earlier) (ends : target.EndsIn facts)
    (plain : (Component.name facts).IsPlain) (other : SourceFile.isSourceName facts = false) :
    SameSources tree changed := by
  -- Each change keeps the sources, so the whole way does.
  induction passes with
  | stay => exact SameSources.refl tree
  | change _ change ih => exact ih.trans (change.sameSources ends plain other)

end SameSources

end FileTree

namespace Scan

open FileTree (Framed SameSources)

section Start

variable {root changed part : FileTree} {cwd path file : Path} {excluded files : List Path}
  {names : List String}

/-- What a scan starts from, and where it is. -/
inductive Start (root : FileTree) (cwd path : Path) (names : List String) : FileTree → Prop
  | file {bytes : List UInt8} {modified : Timestamp.Instant}
    (leads : root.stat cwd path false = .ok (names, .file bytes modified)) :
    Start root cwd path names (.file bytes modified)
  | folder {es : List (String × FileTree)} (leads : root.stat cwd path false = .ok (names, .directory es)) :
    Start root cwd path names (.directory es)
  /-- A link at the beginning is followed to a directory. -/
  | behindLink {place : List String} {link : String} {es : List (String × FileTree)}
    (isLink : root.stat cwd path false = .ok (place, .link link))
    (leads : root.stat cwd path true = .ok (names, .directory es)) : Start root cwd path names (.directory es)

/-- A scan finds what is in the tree that it starts from. -/
theorem sources_of_start (start : Start root cwd path names part) :
    sources root cwd path excluded = .ok (sortedIn excluded path part) := by
  -- Each kind of start is one branch of the walk's beginning.
  rw [sources.eq_def]
  cases start with
  | file leads => simp only [leads, sortedIn]
  | folder leads => simp only [leads, sortedIn]
  | behindLink isLink leads => simp only [isLink, leads, sortedIn]

/-- A scan that finds anything has started somewhere. -/
theorem start_of_sources (scanned : sources root cwd path excluded = .ok files) (some : files ≠ []) :
    ∃ names part, Start root cwd path names part ∧ files = sortedIn excluded path part := by
  rw [sources.eq_def] at scanned
  dsimp only at scanned
  -- By what stands at the path: a link is followed once more, and anything else is where it starts.
  split at scanned
  · cases scanned
  · rename_i isLink
    split at scanned
    · cases scanned
    · rename_i leads
      exact ⟨_, _, .behindLink isLink leads, (Except.ok.inj scanned).symm⟩
    · exact absurd (Except.ok.inj scanned).symm some
  · rename_i part noLink leads
    have found := (Except.ok.inj scanned).symm
    cases part with
    | file bytes modified => exact ⟨_, _, .file leads, found⟩
    | directory es => exact ⟨_, _, .folder leads, found⟩
    | link link => exact absurd rfl (noLink link)

/-- What a scan starts from is there. -/
theorem Start.at? (start : Start root cwd path names part) : root.at? names = some part := by
  -- Each kind of start is a lookup that found the part.
  cases start with
  | file leads => exact FileTree.at?_of_stat leads
  | folder leads => exact FileTree.at?_of_stat leads
  | behindLink _ leads => exact FileTree.at?_of_stat leads

/-- The last name of the path to what lies below another one. -/
theorem fileName?_below (path : Path) {folders : List String} {name : String}
    (plain : ∀ segment ∈ folders ++ [name], (Component.name segment).IsPlain) :
    (below path (folders ++ [name])).fileName? = some name := by
  rw [Path.fileName?, components_below path plain, List.map_append, List.map_singleton, ← List.append_assoc,
    List.getLast?_concat]

variable (rooted : root.kind = .directory)

include rooted

/-- A scan starts from a file only if it has the last name of the path. -/
theorem Start.name {bytes : List UInt8} {modified : Timestamp.Instant}
    (start : Start root cwd path names (.file bytes modified)) :
    root.stat cwd path false = .ok (names, .file bytes modified) ∧
      ∃ folder name, names = folder ++ [name] ∧ path.fileName? = some name := by
  -- A start that holds a file is no folder, with or without a link before it.
  cases start with
  | file leads => exact ⟨leads, FileTree.name_of_stat rooted leads⟩

/-- A scan that started from a source or a directory starts from it in every tree with the same sources. -/
theorem Start.transfer (start : Start root cwd path names part) (framed : Framed root changed)
    (same : SameSources root changed) (source : part.isDirectory = false → IsSource path) :
    ∃ part', Start changed cwd path names part' ∧ part'.isDirectory = part.isDirectory := by
  have stays {es : List (String × FileTree)} (there : root.at? names = some (.directory es)) :
      ∃ es', changed.at? names = some (.directory es') ∧ changed.standing names = root.standing names := by
    have directory : root.standing names = .directory := FileTree.standing_eq_directory.mpr ⟨es, there⟩
    obtain ⟨es', there'⟩ := FileTree.standing_eq_directory.mp (framed.directory directory)
    exact ⟨es', there', by rw [directory, framed.directory directory]⟩
  cases start with
  | @file bytes modified leads =>
    -- A file the scan starts from is a source, and so it stays.
    obtain ⟨folder, name, rfl, named⟩ := FileTree.name_of_stat rooted leads
    have isSource : SourceFile.isSourceName name = true := by
      have whole := source rfl
      rwa [IsSource, named, Option.getD_some] at whole
    have there := (same folder name bytes modified isSource).mpr (FileTree.at?_of_stat leads)
    refine ⟨_, .file (framed.stat leads (fun _ => ?_) there), rfl⟩
    rw [FileTree.standing_eq_file.mpr ⟨modified, there⟩,
      FileTree.standing_eq_file.mpr ⟨modified, FileTree.at?_of_stat leads⟩]
  | folder leads =>
    obtain ⟨es', there, stands⟩ := stays (FileTree.at?_of_stat leads)
    exact ⟨_, .folder (framed.stat leads (fun _ => by rw [stands]) there), rfl⟩
  | @behindLink place link es isLink leads =>
    obtain ⟨es', there, stands⟩ := stays (FileTree.at?_of_stat leads)
    -- The link is not the root, and stays where it is.
    have linkThere : root.standing place = .link link :=
      FileTree.standing_eq_link.mpr (FileTree.at?_of_stat isLink)
    have linkStays : changed.standing place = .link link := by
      rcases List.eq_nil_or_concat place with rfl | ⟨folder, name, rfl⟩
      · rw [FileTree.standing_nil, rooted] at linkThere
        cases linkThere
      · rw [List.concat_eq_append] at linkThere ⊢
        exact framed.link linkThere
    exact ⟨_, .behindLink
      (framed.stat isLink (fun _ => by rw [linkThere, linkStays]) (FileTree.standing_eq_link.mp linkStays))
      (framed.stat leads (fun _ => by rw [stands]) there), rfl⟩

/-- A file that a scan takes for a source has the name of one. -/
theorem Start.source {inner : List String} {bytes : List UInt8} {modified : Timestamp.Instant}
    (start : Start root cwd path names part) (proper : root.Proper)
    (there : part.at? inner = some (.file bytes modified)) (isSource : IsSource (below path inner)) :
    ∃ folder name, names ++ inner = folder ++ [name] ∧ SourceFile.isSourceName name = true ∧
      root.at? (folder ++ [name]) = some (.file bytes modified) := by
  have whole : root.at? (names ++ inner) = some (.file bytes modified) := by
    rw [FileTree.at?_append, start.at?, Option.bind_some, there]
  rcases List.eq_nil_or_concat inner with rfl | ⟨folders, name, rfl⟩
  · -- The scan starts from the file.
    obtain rfl := Option.some.inj there
    obtain ⟨-, folder, name, rfl, named⟩ := start.name rooted
    rw [IsSource, below, List.foldl_nil, named, Option.getD_some] at isSource
    exact ⟨folder, name, List.append_nil _, isSource, start.at?⟩
  · rw [List.concat_eq_append] at there isSource whole ⊢
    have plain := ((proper.piece start.at?).1.piece there).2
    rw [IsSource, fileName?_below path plain, Option.getD_some] at isSource
    rw [← List.append_assoc] at whole ⊢
    exact ⟨names ++ folders, name, rfl, isSource, whole⟩

/-- A scan finds the same in every proper tree with the directories, the links and the sources of the
first one. -/
theorem sources_unchanged (proper : root.Proper) (properToo : changed.Proper) (framed : Framed root changed)
    (same : SameSources root changed) (scanned : sources root cwd path excluded = .ok files)
    (some : files ≠ []) : sources changed cwd path excluded = .ok files := by
  obtain ⟨names, part, start, rfl⟩ := start_of_sources scanned some
  have source (noDirectory : part.isDirectory = false) : IsSource path := by
    cases part with
    | directory es => cases noDirectory
    | link link => cases start
    | file bytes modified =>
      -- Nothing would be found otherwise.
      by_contra other
      rw [IsSource] at other
      rw [sortedIn, sourcesIn, if_neg other] at some
      exact some List.mergeSort_nil
  have rootedToo : changed.kind = .directory := by
    rw [← FileTree.standing_nil] at rooted ⊢
    exact framed.directory rooted
  obtain ⟨part', start', -⟩ := start.transfer rooted framed same source
  rw [sources_of_start start',
    sortedIn_congr (proper.piece start.at?).1 (properToo.piece start'.at?).1 fun inner isSource => ?_]
  -- A source that was there is one of the tree, and those stay.
  constructor
  · rintro ⟨bytes, modified, there⟩
    obtain ⟨folder, name, place, named, whole⟩ := start.source rooted proper there isSource
    refine ⟨bytes, modified, ?_⟩
    have stays := (same folder name bytes modified named).mpr whole
    rwa [← place, FileTree.at?_append, start'.at?] at stays
  · -- The other way round a source that is there now was there before.
    rintro ⟨bytes, modified, there⟩
    obtain ⟨folder, name, place, named, whole⟩ := start'.source rootedToo properToo there isSource
    refine ⟨bytes, modified, ?_⟩
    have stood := (same folder name bytes modified named).mp whole
    rwa [← place, FileTree.at?_append, start.at?] at stood

omit rooted in
/-- The way to the directory that a scan starts from. -/
theorem Start.way {es : List (String × FileTree)} (start : Start root cwd path names (.directory es)) :
    root.Opened names ∧ ∃ left, FileTree.Way root true FileTree.greatestLinks true [] (FileTree.trail cwd path)
      names left := by
  -- A directory is entered when it is reached, so a slash behind it asks nothing more.
  have directory : root.standing names = .directory := FileTree.standing_eq_directory.mpr ⟨es, start.at?⟩
  refine ⟨.inr directory, ?_⟩
  cases start with
  | folder leads =>
    obtain ⟨-, ⟨left, way⟩, -⟩ := FileTree.stat_eq_ok.mp leads
    exact ⟨left, (way.following (by simp [directory])).asking (.inr directory) true⟩
  | behindLink _ leads =>
    obtain ⟨-, ⟨left, way⟩, -⟩ := FileTree.stat_eq_ok.mp leads
    exact ⟨left, way.asking (.inr directory) true⟩

omit rooted in
/-- From a directory a file is found by its names, unless one of them is too long. -/
theorem goFollowing_inner {links : Nat} {here inner : List String} {bytes : List UInt8}
    {modified : Timestamp.Instant} (some : inner ≠ [])
    (plain : ∀ name ∈ inner, (Component.name name).IsPlain)
    (there : root.at? (here ++ inner) = .some (.file bytes modified)) :
    FileTree.goFollowing root true links false here inner =
      if inner.all fun name => decide (name.utf8ByteSize ≤ FileTree.greatestName) then
        .ok ⟨here ++ inner, .some (.file bytes modified)⟩
      else .error .nameTooLong := by
  -- By induction on the names, each of which is looked up in the directory reached so far.
  induction inner generalizing here with
  | nil => exact absurd rfl some
  | cons name inner ih =>
    obtain ⟨⟨-, noDot, noClimb, -⟩, rest⟩ := List.forall_mem_cons.mp plain
    rw [FileTree.goFollowing_eq, FileTree.goAlong, if_neg (by simpa using noDot),
      if_neg (by simpa using noClimb)]
    split
    · rename_i long
      simp [Nat.not_le.mpr long]
    · rename_i short
      have short : name.utf8ByteSize ≤ FileTree.greatestName := Nat.le_of_not_lt short
      by_cases last : inner = []
      · subst last
        simp [there, short]
      · -- Something is below the name, so that it is that of a directory.
        obtain ⟨next, more, rfl⟩ := List.exists_cons_of_ne_nil last
        have through : here ++ name :: next :: more = (here ++ [name]) ++ next :: more := by simp
        rw [through] at there
        obtain ⟨es, directory⟩ := FileTree.standing_eq_directory.mp
          (FileTree.standing_above (FileTree.standing_ne_nothing.mpr ⟨_, there⟩))
        have inside := ih (by simp) rest there
        rw [FileTree.goFollowing_eq] at inside
        simp [directory, inside, short]

omit rooted in
/-- The way to a part below a path goes on by the names of the part. -/
theorem trail_below (cwd path : Path) {inner : List String}
    (plain : ∀ name ∈ inner, (Component.name name).IsPlain) :
    FileTree.trail cwd (below path inner) = FileTree.trail cwd path ++ inner := by
  -- Each name is one more segment.
  induction inner generalizing path with
  | nil => simp [below]
  | cons name inner ih =>
    obtain ⟨first, rest⟩ := List.forall_mem_cons.mp plain
    rw [below_cons, ih _ rest, Path.trail_join cwd path first, List.append_assoc, List.singleton_append]

omit rooted in
/-- A path that goes on by plain names does not end in a slash. -/
theorem endsInSlash_below (cwd path : Path) {inner : List String} (some : inner ≠ [])
    (plain : ∀ name ∈ inner, (Component.name name).IsPlain) :
    FileTree.endsInSlash (cwd.join (below path inner)).text = false := by
  -- The last segment is a plain name, and the slash is before it.
  rcases List.eq_nil_or_concat inner with rfl | ⟨folders, name, rfl⟩
  · exact absurd rfl some
  · rw [List.concat_eq_append] at plain ⊢
    rw [below, List.foldl_append]
    exact ((Path.endsIn_join (below path folders) name).join cwd).noSlash (plain name (by simp))

omit rooted in
/-- How the file is read that is found from a directory by its names. -/
theorem fileAt_below {inner : List String} {left : Nat} {bytes : List UInt8} {modified : Timestamp.Instant}
    (opened : root.Opened names)
    (way : FileTree.Way root true FileTree.greatestLinks true [] (FileTree.trail cwd path) names left)
    (some : inner ≠ []) (plain : ∀ name ∈ inner, (Component.name name).IsPlain)
    (there : root.at? (names ++ inner) = .some (.file bytes modified)) :
    root.fileAt cwd (below path inner) = match FileTree.refusal? (below path inner) with
      | .some e => .error e
      | none => if inner.all fun name => decide (name.utf8ByteSize ≤ FileTree.greatestName) then
          .ok (bytes, modified)
        else .error .nameTooLong := by
  have noSlash := endsInSlash_below cwd path some plain
  rw [FileTree.fileAt, FileTree.stat, FileTree.resolve]
  cases FileTree.refusal? (below path inner) with
  | some e => rfl
  | none =>
    -- The walk goes the way to the directory first, and then by the names.
    have whole := trail_below cwd path plain
    rw [FileTree.trail] at whole
    simp only [noSlash, whole]
    rw [way.goFollowing_append false opened some, goFollowing_inner some plain there]
    cases inner.all fun name => decide (name.utf8ByteSize ≤ FileTree.greatestName) with
    | true => rfl
    | false => rfl

/-- A source that a scan finds is read as before in every proper tree with the directories, the links and
the sources of the first one. -/
theorem fileAt_unchanged (proper : root.Proper) (framed : Framed root changed)
    (same : SameSources root changed) (scanned : sources root cwd path excluded = .ok files)
    (member : file ∈ files) : changed.fileAt cwd file = root.fileAt cwd file := by
  obtain ⟨names, part, start, rfl⟩ := start_of_sources scanned (List.ne_nil_of_mem member)
  obtain ⟨properPart, -⟩ := proper.piece start.at?
  obtain ⟨inner, bytes, modified, there, -, rfl, isSource⟩ :=
    (mem_sourcesIn_iff properPart).mp (List.mem_mergeSort.mp member)
  obtain ⟨folder, name, place, named, whole⟩ := start.source rooted proper there isSource
  have stays := (same folder name bytes modified named).mpr whole
  -- Below the same start the same file is read, before and after.
  rw [← place] at whole stays
  cases part with
  | link link => cases start
  | directory es =>
    obtain ⟨opened, left, way⟩ := start.way
    have some : inner ≠ [] := by
      rintro rfl
      cases there
    have plain := (properPart.piece there).2
    -- The way to the directory is the same, and so is what is below it.
    rw [fileAt_below opened way some plain whole,
      fileAt_below (opened.transfer framed) (way.transfer_opened framed opened) some plain stays]
  | file _ _ =>
    -- The scan started from the file itself.
    cases inner with
    | cons => simp [FileTree.at?_cons, FileTree.entries] at there
    | nil =>
      cases there
      obtain ⟨leads, -⟩ := start.name rooted
      rw [List.append_nil] at whole stays
      obtain ⟨looked, ⟨left, way⟩, -⟩ := FileTree.stat_eq_ok.mp leads
      have isFile := FileTree.standing_eq_file.mpr ⟨modified, whole⟩
      have found : root.stat cwd path true = .ok (names, .file bytes modified) :=
        FileTree.stat_eq_ok.mpr ⟨looked, ⟨left, way.following (by simp [isFile])⟩, whole⟩
      have foundToo := framed.stat found (fun _ => by
        rw [isFile, FileTree.standing_eq_file.mpr ⟨modified, stays⟩]) stays
      rw [below, List.foldl_nil, FileTree.fileAt, FileTree.fileAt, found, foundToo]

end Start

end Scan

end TemplateFacts
