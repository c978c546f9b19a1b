import TemplateFacts.Proofs.FileTree.Relisted
import TemplateFacts.Proofs.Scan.Rescan

/-!
What a scan of a directory finds, told without the walk: the files below it with the name of a source, but
for those with an ignored directory on the way or an excluded path at the front. They are found in the order
of the bytes of their paths, in whatever order directories list their entries.
-/

namespace TemplateFacts.Scan

variable {excluded : List Path} {path source : Path} {tree : FileTree} {names : List String}

/-- A scan enters by some names if no directory on the way is ignored and no excluded path is at the front
of where they lead. -/
theorem entered_iff (plain : ∀ name ∈ names, (Component.name name).IsPlain) :
    Entered excluded path names ↔ (∀ name ∈ names.dropLast, name ∉ ignoredNames) ∧
      (names ≠ [] → ∀ e ∈ excluded, ¬ e.components <+: (below path names).components) := by
  -- The induction goes down along the names, with the path that leads to them.
  induction names generalizing path with
  | nil => simp [Entered]
  | cons name names ih =>
    obtain ⟨-, later⟩ := List.forall_mem_cons.mp plain
    have included : excluded.any (path.join ⟨name⟩).startsWith = false ↔
        ∀ e ∈ excluded, ¬ e.components <+: (path.join ⟨name⟩).components := by
      simp [Path.startsWith]
    rw [Entered, included, ih later, below_cons]
    cases names with
    | nil => simp [below]
    | cons next names =>
      -- What is at the front of a directory is at the front of all that is below it.
      have onward {e : Path} (front : e.components <+: (path.join ⟨name⟩).components) :
          e.components <+: (below (path.join ⟨name⟩) (next :: names)).components := by
        rw [components_below _ later]
        exact front.trans (List.prefix_append _ _)
      rw [List.dropLast_cons_cons, List.forall_mem_cons]
      simp only [ne_eq, reduceCtorEq, not_false_eq_true, forall_const]
      constructor
      · rintro ⟨busy, -, others, outside⟩
        exact ⟨⟨busy, others⟩, outside⟩
      · rintro ⟨⟨busy, others⟩, outside⟩
        exact ⟨busy, fun e member front => outside e member (onward front), others, outside⟩

/-- A source below a directory, as a scan that starts there finds it: a file with the name of a source, with
no directory of an ignored name on the way, and no excluded path at the front of its own. -/
def IsFound (excluded : List Path) (path : Path) (es : List (String × FileTree)) (source : Path) : Prop :=
  ∃ folders name bytes modified,
    (FileTree.directory es).at? (folders ++ [name]) = some (.file bytes modified) ∧
    source = below path (folders ++ [name]) ∧ SourceFile.isSourceName name = true ∧
    (∀ folder ∈ folders, folder ∉ ignoredNames) ∧ ∀ e ∈ excluded, ¬ e.components <+: source.components

/-- The walk of a scan through a directory finds just what is to be found. -/
theorem mem_sourcesIn_directory {es : List (String × FileTree)} (proper : (FileTree.directory es).Proper) :
    source ∈ sourcesIn excluded path (.directory es) ↔ IsFound excluded path es source := by
  rw [mem_sourcesIn_iff proper]
  constructor
  · rintro ⟨names, bytes, modified, there, entered, rfl, isSource⟩
    rcases List.eq_nil_or_concat names with rfl | ⟨folders, name, rfl⟩
    · -- A directory is no file itself.
      cases there
    · rw [List.concat_eq_append] at there entered isSource ⊢
      have plain := (proper.piece there).2
      obtain ⟨busy, outside⟩ := (entered_iff plain).mp entered
      rw [List.dropLast_concat] at busy
      rw [IsSource, fileName?_below path plain, Option.getD_some] at isSource
      exact ⟨folders, name, bytes, modified, there, rfl, isSource, busy, outside (by simp)⟩
  · rintro ⟨folders, name, bytes, modified, there, rfl, isSource, busy, outside⟩
    have plain := (proper.piece there).2
    refine ⟨folders ++ [name], bytes, modified, there, ?_, rfl, ?_⟩
    · rw [entered_iff plain, List.dropLast_concat]
      exact ⟨busy, fun _ => outside⟩
    · rwa [IsSource, fileName?_below path plain, Option.getD_some]

/-- The paths of what a scan finds increase by their bytes. -/
theorem increasing_sortedIn (proper : tree.Proper) : (sortedIn excluded path tree).Pairwise fun a b =>
    Utf8.encode a.text < Utf8.encode b.text := increasing_mergeSort (nodup_texts proper)

variable {root relisted : FileTree} {cwd : Path} {es : List (String × FileTree)}

/-- A scan that starts from a directory finds the same in whatever order directories list their entries. -/
theorem sources_relisted (proper : root.Proper) (leads : root.stat cwd path false = .ok (names, .directory es))
    (same : root.Relisted relisted) : sources relisted cwd path excluded = sources root cwd path excluded := by
  have there := FileTree.at?_of_stat leads
  have stands := same.standing proper names
  have directory : root.standing names = .directory := FileTree.standing_eq_directory.mpr ⟨es, there⟩
  obtain ⟨es', thereToo⟩ := FileTree.standing_eq_directory.mp (stands.trans directory)
  -- The path leads to the directory in both trees.
  have leadsToo : relisted.stat cwd path false = .ok (names, .directory es') :=
    (same.alike proper).framed.stat leads (fun _ => by rw [stands]) thereToo
  have files {tree : FileTree} {part : FileTree} (there : tree.at? names = some part) (inner : List String) :
      (∃ bytes modified, part.at? inner = some (.file bytes modified)) ↔
        ∃ bytes, tree.standing (names ++ inner) = .file bytes := by
    simp only [FileTree.standing_eq_file, FileTree.at?_append, there, Option.bind_some]
  rw [sources_of_start (.folder leads), sources_of_start (.folder leadsToo),
    sortedIn_congr (proper.piece there).1 ((same.proper proper).piece thereToo).1 fun inner _ => ?_]
  rw [files there, files thereToo, same.standing proper]

/--
A scan of a directory finds just its sources. Let the names in a tree be those that directories hold, each
of them once in its directory, and let a path lead to a directory without a link at its end. Then the scan
succeeds, and finds a file exactly if it has the name of a source in any case of letters, no directory
below the path and on the way to the file has an ignored name, and no excluded path has all its components
at the front of those of the file. The files are in the strict order of the bytes of their paths; and they
are the same in whatever order the directories of the tree list their entries.
-/
theorem sources_exact (proper : root.Proper) (leads : root.stat cwd path false = .ok (names, .directory es))
    (excluded : List Path) : ∃ files, sources root cwd path excluded = .ok files ∧
      (∀ source, source ∈ files ↔ IsFound excluded path es source) ∧
      (files.Pairwise fun a b => Utf8.encode a.text < Utf8.encode b.text) ∧
      ∀ relisted, root.Relisted relisted → sources relisted cwd path excluded = .ok files := by
  -- The files found are the walk's, sorted; what the walk finds is told by the tree's entries alone.
  have properToo := (proper.piece (FileTree.at?_of_stat leads)).1
  have found : sources root cwd path excluded = .ok (sortedIn excluded path (.directory es)) :=
    sources_of_start (.folder leads)
  refine ⟨_, found, fun source => ?_, increasing_sortedIn properToo, fun relisted same => ?_⟩
  · rw [sortedIn, List.mem_mergeSort]
    exact mem_sourcesIn_directory properToo
  · rw [sources_relisted proper leads same, found]

/-- What a root of an ignored name holds: a folder, and another one whose name begins with that of the first. -/
def outputEntries : List (String × FileTree) :=
  [("out", .directory [("a.bicep", .file [] default)]), ("output", .directory [("b.BICEP", .file [] default)])]

/-- The root is entered whatever its name, and with one of the folders the other one is not excluded. -/
theorem sources_exact_beside :
    let root : FileTree := .directory [("node_modules", .directory outputEntries)]
    (root.Proper ∧ root.stat ⟨"/"⟩ ⟨"/node_modules"⟩ false = .ok (["node_modules"], .directory outputEntries)) ∧
      ∃ files, sources root ⟨"/"⟩ ⟨"/node_modules"⟩ [⟨"/node_modules/out"⟩] = .ok files ∧
        ⟨"/node_modules/output/b.BICEP"⟩ ∈ files ∧ ⟨"/node_modules/out/a.bicep"⟩ ∉ files := by
  intro root
  have proper : root.Proper := by
    refine .directory (by simp [Component.IsPlain]) (by simp) (List.forall_mem_singleton.mpr ?_)
    refine .directory (by simp [outputEntries, Component.IsPlain]) (by decide) ?_
    simp only [outputEntries, List.forall_mem_cons, List.not_mem_nil, false_implies, implies_true, and_true]
    constructor
    · exact .directory (by simp [Component.IsPlain]) (by simp) (List.forall_mem_singleton.mpr (.file ..))
    · exact .directory (by simp [Component.IsPlain]) (by simp) (List.forall_mem_singleton.mpr (.file ..))
  have leads : root.stat ⟨"/"⟩ ⟨"/node_modules"⟩ false = .ok (["node_modules"], .directory outputEntries) := rfl
  obtain ⟨files, scanned, found, -, -⟩ := sources_exact proper leads [⟨"/node_modules/out"⟩]
  refine ⟨⟨proper, leads⟩, files, scanned, (found _).mpr ?_, fun member => ?_⟩
  · exact ⟨["output"], "b.BICEP", [], default, rfl, by decide, by decide +kernel, by decide, by decide +kernel⟩
  · -- The folder of the file is excluded.
    obtain ⟨-, -, -, -, -, -, -, -, outside⟩ := (found _).mp member
    exact outside ⟨"/node_modules/out"⟩ List.mem_cons_self (by decide +kernel)

end TemplateFacts.Scan
