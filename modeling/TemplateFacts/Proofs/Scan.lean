import TemplateFacts.Proofs.FileTree.Lookup
import TemplateFacts.Proofs.SourceFile
import TemplateFacts.Scan

/-!
Which sources of a scan have the same facts file: a scan finds names whatever the case of their ending,
and the ending is cut only when it is written in small letters, so that a name with a second ending is
cut to one that is left whole.
-/

namespace TemplateFacts

/-- The names in a tree are such that each is a component of a path. -/
inductive FileTree.PlainNames : FileTree → Prop
  | file (bytes : List UInt8) (modified : Timestamp.Instant) : PlainNames (.file bytes modified)
  | link (target : String) : PlainNames (.link target)
  | directory {es : List (String × FileTree)} (named : ∀ e ∈ es, (Component.name e.1).IsPlain)
    (inside : ∀ e ∈ es, PlainNames e.2) : PlainNames (.directory es)

/-- The names in a part of a tree are names in the tree. -/
theorem FileTree.PlainNames.part {tree part : FileTree} {names : List String} (plain : tree.PlainNames)
    (there : tree.at? names = some part) : part.PlainNames := by
  -- The induction goes down along the names.
  induction names generalizing tree with
  | nil =>
    obtain rfl := Option.some.inj there
    exact plain
  | cons name names ih =>
    rw [FileTree.at?_cons] at there
    cases plain with
    | file => simp [FileTree.entries] at there
    | link => simp [FileTree.entries] at there
    | @directory es named inside =>
      obtain ⟨entry, found, inEntry⟩ := Option.bind_eq_some_iff.mp there
      rw [FileTree.entries_directory, List.lookup_eq_some_iff] at found
      obtain ⟨before, after, rfl, -⟩ := found
      exact ih (inside (name, entry) (by simp)) inEntry

namespace Scan

/-- The path of what lies below another one by the given names. -/
def below (path : Path) (names : List String) : Path := names.foldl (fun path name => path.join ⟨name⟩) path

/-- What lies below a path has its names as further components. -/
theorem components_below (path : Path) {names : List String}
    (plain : ∀ name ∈ names, (Component.name name).IsPlain) :
    (below path names).components = path.components ++ names.map .name := by
  -- Each name is joined as a plain component.
  have plainToo : ∀ c ∈ names.map Component.name, c.IsPlain := by simpa using plain
  have joined := Path.components_foldl_join path plainToo
  rw [List.foldl_map] at joined
  exact joined

/-- The sources among entries are those in each of them. -/
theorem mem_sourcesAmong {excluded : List Path} {source path : Path} {es : List (String × FileTree)} :
    source ∈ sourcesAmong excluded path es ↔ ∃ e ∈ es, source ∈ sourcesOfEntry excluded path e := by
  -- The recursion through the entries, as membership in one of them.
  induction es with
  | nil => simp [sourcesAmong]
  | cons e es ih => simp [sourcesAmong, ih]

/-- A source in an entry lies below it, or is the entry itself. -/
theorem of_mem_sourcesIn {excluded : List Path} {source path : Path} {tree : FileTree}
    (plain : tree.PlainNames) (member : source ∈ sourcesIn excluded path tree) :
    ∃ names, (∀ name ∈ names, (Component.name name).IsPlain) ∧ source = below path names ∧
      (names = [] → tree.isDirectory = false) := by
  -- The induction is on the tree, with the path that leads to it.
  induction plain generalizing path with
  | file bytes modified =>
    rw [sourcesIn] at member
    split at member
    · exact ⟨[], by simp, by simpa [below] using member, fun _ => rfl⟩
    · cases member
  | link target => simp [sourcesIn] at member
  | @directory es named inside ih =>
    rw [sourcesIn, mem_sourcesAmong] at member
    obtain ⟨⟨name, tree⟩, isEntry, member⟩ := member
    rw [sourcesOfEntry] at member
    split at member
    · cases member
    · obtain ⟨names, plain, same, -⟩ := ih (name, tree) isEntry member
      exact ⟨name :: names, List.forall_mem_cons.mpr ⟨named (name, tree) isEntry, plain⟩, same, by simp⟩

/-- The sources of a scan are those in what is at its root. -/
theorem sources_eq_ok {root : FileTree} {cwd path : Path} {excluded files : List Path}
    (scanned : sources root cwd path excluded = .ok files) :
    files = [] ∨ ∃ names tree, root.at? names = some tree ∧
      ∀ source, source ∈ files ↔ source ∈ sourcesIn excluded path tree := by
  rw [sources.eq_def] at scanned
  dsimp only at scanned
  -- Sorting neither adds nor loses a source, whether or not a link was followed first.
  split at scanned
  · cases scanned
  · split at scanned
    · cases scanned
    · rename_i leads
      obtain rfl := Except.ok.inj scanned
      exact .inr ⟨_, _, FileTree.at?_of_stat leads, fun source => List.mem_mergeSort⟩
    · exact .inl (Except.ok.inj scanned).symm
  · rename_i leads
    obtain rfl := Except.ok.inj scanned
    exact .inr ⟨_, _, FileTree.at?_of_stat leads, fun source => List.mem_mergeSort⟩

/-- A source in a directory stands in a folder below it, under its name. -/
theorem exists_name_of_mem {excluded : List Path} {source path : Path} {tree : FileTree}
    (plain : tree.PlainNames) (isDirectory : tree.isDirectory = true)
    (member : source ∈ sourcesIn excluded path tree) :
    ∃ folders name, (∀ folder ∈ folders, (Component.name folder).IsPlain) ∧
      (Component.name name).IsPlain ∧ source = below path (folders ++ [name]) := by
  obtain ⟨names, plainNames, same, inner⟩ := of_mem_sourcesIn plain member
  -- A directory is no source itself, so that there is a last name.
  rcases List.eq_nil_or_concat names with none | ⟨folders, name, rfl⟩
  · rw [inner none] at isDirectory
    cases isDirectory
  · rw [List.concat_eq_append] at plainNames same
    obtain ⟨above, last⟩ := List.forall_mem_append.mp plainNames
    exact ⟨folders, name, above, last name List.mem_cons_self, same⟩

/-- A file stands beside another one, and its name is cut to that of the other one. -/
def Beside (longer file : Path) : Prop :=
  ∃ folder longerName name, longer.components = folder ++ [.name longerName] ∧
    file.components = folder ++ [.name name] ∧ SourceFile.CutTo longerName name

section Below

variable {path : Path} {folders folders' : List String} {name name' : String}

/-- The components of a source in a folder below a path. -/
theorem components_source (plain : ∀ folder ∈ folders, (Component.name folder).IsPlain)
    (named : (Component.name name).IsPlain) :
    (below path (folders ++ [name])).components =
      path.components ++ (folders.map Component.name ++ [.name name]) := by
  rw [components_below path (List.forall_mem_append.mpr ⟨plain, List.forall_mem_singleton.mpr named⟩),
    List.map_append, List.map_singleton]

/-- The facts about a source in a folder below the root are in that folder below the output directory. -/
theorem components_facts (plain : ∀ folder ∈ folders, (Component.name folder).IsPlain)
    (named : (Component.name name).IsPlain) (outDir : Option Path) :
    (SourceFile.outputPath (below path (folders ++ [name])) path outDir).components =
      (outDir.getD path).components ++ (folders.map Component.name ++
        [.name (SourceFile.stripEnding name ++ SourceFile.factsEnding)]) :=
  SourceFile.components_outputPath (by simpa using plain) named (components_source plain named)

/-- Names in folders are the same when the folders and the names are. -/
theorem folders_concat_inj {front : List Component} :
    front ++ (folders.map Component.name ++ [.name name]) =
      front ++ (folders'.map Component.name ++ [.name name']) ↔ folders = folders' ∧ name = name' := by
  -- Cutting the common front off leaves the folders and the name as names.
  constructor
  · intro same
    obtain ⟨above, last⟩ := List.append_inj' (List.append_cancel_left same) rfl
    exact ⟨(List.map_inj_right fun _ _ equal => Component.name.inj equal).mp above, by simpa using last⟩
  · rintro ⟨rfl, rfl⟩
    rfl

/-- A source stands beside another one if both are in one folder and its name is cut to that of the
other one. -/
theorem beside_below_iff (plain : ∀ folder ∈ folders, (Component.name folder).IsPlain)
    (plain' : ∀ folder ∈ folders', (Component.name folder).IsPlain)
    (named : (Component.name name).IsPlain) (named' : (Component.name name').IsPlain) :
    Beside (below path (folders ++ [name])) (below path (folders' ++ [name'])) ↔
      folders = folders' ∧ SourceFile.CutTo name name' := by
  rw [Beside, components_source plain named, components_source plain' named']
  constructor
  · -- The last components are the names, and those in front of them the folders.
    rintro ⟨folder, longerName, shorterName, longer, shorter, cut⟩
    rw [← List.append_assoc] at longer shorter
    obtain ⟨above, last⟩ := List.append_inj' longer rfl
    obtain ⟨above', last'⟩ := List.append_inj' shorter rfl
    obtain rfl : name = longerName := by simpa using last
    obtain rfl : name' = shorterName := by simpa using last'
    rw [← above'] at above
    exact ⟨(List.map_inj_right fun _ _ equal => Component.name.inj equal).mp
      (List.append_cancel_left above), cut⟩
  · rintro ⟨rfl, cut⟩
    exact ⟨path.components ++ folders.map Component.name, name, name', by simp, by simp, cut⟩

end Below

/-- Two sources of a scan have the same facts file exactly if they are the same, or stand in one folder
and the name of one is that of the other with the ending of sources behind it, the other being left
whole. -/
theorem facts_shared_iff {root : FileTree} {cwd path : Path} {excluded files : List Path}
    (plain : root.PlainNames) (scanned : sources root cwd path excluded = .ok files)
    (outDir : Option Path) {file other : Path} (found : file ∈ files) (foundToo : other ∈ files) :
    (SourceFile.outputPath file path outDir).components =
        (SourceFile.outputPath other path outDir).components ↔
      file = other ∨ Beside file other ∨ Beside other file := by
  obtain none | ⟨names, tree, there, member⟩ := sources_eq_ok scanned
  · rw [none] at found
    cases found
  rw [member] at found foundToo
  cases isDirectory : tree.isDirectory with
  | false =>
    -- What is no directory is its only source.
    have alone {source : Path} (found : source ∈ sourcesIn excluded path tree) : source = path := by
      cases tree with
      | directory es => cases isDirectory
      | link target => simp [sourcesIn] at found
      | file bytes modified =>
        rw [sourcesIn] at found
        split at found
        · exact List.mem_singleton.mp found
        · cases found
    simp [alone found, alone foundToo]
  | true =>
    have inside := plain.part there
    obtain ⟨folders, name, plain, named, rfl⟩ := exists_name_of_mem inside isDirectory found
    obtain ⟨folders', name', plain', named', rfl⟩ := exists_name_of_mem inside isDirectory foundToo
    rw [components_facts plain named, components_facts plain' named', folders_concat_inj,
      beside_below_iff plain plain' named named', beside_below_iff plain' plain named' named]
    have sameFile : below path (folders ++ [name]) = below path (folders' ++ [name']) ↔
        folders = folders' ∧ name = name' := by
      constructor
      · intro same
        apply folders_concat_inj.mp
        rw [← components_source plain named, ← components_source plain' named', same]
      · rintro ⟨rfl, rfl⟩
        rfl
    have sameFacts : SourceFile.stripEnding name ++ SourceFile.factsEnding =
        SourceFile.stripEnding name' ++ SourceFile.factsEnding ↔
          name = name' ∨ SourceFile.CutTo name' name ∨ SourceFile.CutTo name name' := by
      rw [String.append_left_inj]
      exact SourceFile.stripEnding_eq_iff named.1 named'.1
    rw [sameFile, sameFacts]
    -- Sources of different folders share nothing, on either side.
    grind

/-- A repository with two sources, the name of one being that of the other with the ending behind it. -/
def twins : FileTree :=
  .directory [("repo", .directory [
    ("main.BICEP", .file [] default), ("main.BICEP.bicep", .file [] default)])]

/-- Both sources are found. -/
theorem twins_scanned : ∃ files, sources twins ⟨"/"⟩ ⟨"/repo"⟩ [] = .ok files ∧
    ⟨"/repo/main.BICEP"⟩ ∈ files ∧ ⟨"/repo/main.BICEP.bicep"⟩ ∈ files := by
  have leads : twins.stat ⟨"/"⟩ ⟨"/repo"⟩ false = .ok (["repo"], .directory [
      ("main.BICEP", .file [] default), ("main.BICEP.bicep", .file [] default)]) := rfl
  have found : sourcesIn [] ⟨"/repo"⟩ (.directory [
      ("main.BICEP", .file [] default), ("main.BICEP.bicep", .file [] default)]) =
        [⟨"/repo/main.BICEP"⟩, ⟨"/repo/main.BICEP.bicep"⟩] := by decide +kernel
  -- The order that they are sorted into does not matter.
  rw [sources.eq_def, leads]
  exact ⟨_, rfl, List.mem_mergeSort.mpr (by simp [found]), List.mem_mergeSort.mpr (by simp [found])⟩

/-- The two sources of the repository share their facts file, as the one stands beside the other. -/
theorem facts_shared_iff_twins : twins.PlainNames ∧ ∃ files,
    sources twins ⟨"/"⟩ ⟨"/repo"⟩ [] = .ok files ∧
    ⟨"/repo/main.BICEP.bicep"⟩ ∈ files ∧ ⟨"/repo/main.BICEP"⟩ ∈ files ∧
    (SourceFile.outputPath ⟨"/repo/main.BICEP.bicep"⟩ ⟨"/repo"⟩ (some ⟨"/out"⟩)).components =
      (SourceFile.outputPath ⟨"/repo/main.BICEP"⟩ ⟨"/repo"⟩ (some ⟨"/out"⟩)).components := by
  have plain : twins.PlainNames := by
    refine .directory (by simp [Component.IsPlain]) (List.forall_mem_singleton.mpr ?_)
    exact .directory (by simp [Component.IsPlain]) (by simp [FileTree.PlainNames.file])
  obtain ⟨files, scanned, first, second⟩ := twins_scanned
  refine ⟨plain, files, scanned, second, first, ?_⟩
  -- The longer name is the other one with the ending of sources behind it.
  refine (facts_shared_iff plain scanned (some ⟨"/out"⟩) second first).mpr (.inr (.inl ?_))
  exact ⟨[.root, .name "repo"], "main.BICEP.bicep", "main.BICEP", by decide +kernel, by decide +kernel,
    rfl, by decide +kernel⟩

/-- Two sources found by one scan may have one facts file: the second one to be written replaces the
first. -/
theorem facts_lost_to_twin : ∃ files, sources twins ⟨"/"⟩ ⟨"/repo"⟩ [] = .ok files ∧
    ∃ file ∈ files, ∃ other ∈ files, file ≠ other ∧
      SourceFile.outputPath file ⟨"/repo"⟩ none = SourceFile.outputPath other ⟨"/repo"⟩ none := by
  -- Both files are found by the scan, and their paths are evaluated.
  obtain ⟨files, scanned, first, second⟩ := twins_scanned
  exact ⟨files, scanned, _, first, _, second, by decide, by decide +kernel⟩

end Scan

end TemplateFacts
