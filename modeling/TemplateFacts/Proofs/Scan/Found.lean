import TemplateFacts.Proofs.Facts.Order
import TemplateFacts.Proofs.FileTree.Proper

/-!
What a scan finds, told by places: a file with the name of a source is found unless it, or a directory on
the way to it, is passed over. Each is found once, so that trees with the same sources at the same places
give the same scan.
-/

namespace TemplateFacts.Scan

/-- A scan enters by these names from a path: no directory on the way is ignored by its name, and nothing
is excluded by its path. -/
def Entered (excluded : List Path) (path : Path) : List String → Prop
  | [] => True
  | name :: names => (names ≠ [] → name ∉ ignoredNames) ∧ excluded.any (path.join ⟨name⟩).startsWith = false ∧
    Entered excluded (path.join ⟨name⟩) names

/-- A file is taken for a source by the last name of its path. -/
def IsSource (path : Path) : Prop := SourceFile.isSourceName (path.fileName?.getD path.text) = true

section Found

variable {excluded : List Path} {path source : Path} {tree : FileTree} {names : List String}

theorem below_cons (path : Path) (name : String) (names : List String) :
    below path (name :: names) = below (path.join ⟨name⟩) names := rfl

/-- An entry of a directory is passed over if it is the last of the names, or one on the way, that a scan
does not enter. -/
theorem isPruned_iff {name : String} {entry : FileTree} (there : (entry.at? names).isSome)
    (holds : names = [] → entry.isDirectory = false) :
    isPruned excluded (path.join ⟨name⟩) name entry = false ↔
      (names ≠ [] → name ∉ ignoredNames) ∧ excluded.any (path.join ⟨name⟩).startsWith = false := by
  rw [isPruned, Bool.or_eq_false_iff]
  refine and_congr_left fun _ => ?_
  cases names with
  | nil => simp [holds rfl]
  | cons next names =>
    -- Something is below the entry, so that it is a directory.
    have isDirectory : entry.isDirectory = true := by
      cases entry with
      | directory es => rfl
      | file bytes modified => simp [FileTree.at?_cons, FileTree.entries] at there
      | link target => simp [FileTree.at?_cons, FileTree.entries] at there
    simp [isDirectory]

/-- What a scan finds in a tree are the files with the name of a source that it enters to. -/
theorem mem_sourcesIn_iff (proper : tree.Proper) : source ∈ sourcesIn excluded path tree ↔
    ∃ names bytes modified, tree.at? names = some (.file bytes modified) ∧ Entered excluded path names ∧
      source = below path names ∧ IsSource source := by
  -- The induction is on the tree, with the path that leads to it.
  induction proper generalizing path with
  | file bytes modified =>
    rw [sourcesIn]
    constructor
    · intro member
      split at member
      · rename_i isSource
        obtain rfl := List.mem_singleton.mp member
        exact ⟨[], bytes, modified, rfl, trivial, rfl, isSource⟩
      · cases member
    · rintro ⟨names, _, _, there, -, rfl, isSource⟩
      cases names with
      | nil => exact (if_pos isSource) ▸ List.mem_singleton_self _
      | cons name names => simp [FileTree.at?_cons, FileTree.entries] at there
  | link target =>
    rw [sourcesIn]
    constructor
    · intro member
      cases member
    · rintro ⟨names, _, _, there, -⟩
      cases names with
      | nil => cases there
      | cons name names => simp [FileTree.at?_cons, FileTree.entries] at there
  | @directory es named apart inside ih =>
    rw [sourcesIn, mem_sourcesAmong]
    constructor
    · rintro ⟨⟨name, entry⟩, isEntry, member⟩
      rw [sourcesOfEntry] at member
      split at member
      · cases member
      · rename_i kept
        obtain ⟨names, bytes, modified, there, entered, rfl, isSource⟩ := (ih _ isEntry).mp member
        have there : entry.at? names = some (.file bytes modified) := there
        have holds : names = [] → entry.isDirectory = false := by
          rintro rfl
          rw [Option.some.inj there]
          rfl
        obtain ⟨busy, included⟩ := (isPruned_iff (by rw [there]; rfl) holds).mp (Bool.eq_false_iff.mpr kept)
        refine ⟨name :: names, bytes, modified, ?_, ⟨busy, included, entered⟩, rfl, isSource⟩
        rw [FileTree.at?_cons, FileTree.entries_directory, Json.lookup_of_mem apart isEntry]
        exact there
    · rintro ⟨names, bytes, modified, there, entered, rfl, isSource⟩
      cases names with
      | nil => cases there
      | cons name names =>
        obtain ⟨busy, included, entered⟩ := entered
        rw [FileTree.at?_cons, FileTree.entries_directory] at there
        obtain ⟨entry, found, there⟩ := Option.bind_eq_some_iff.mp there
        have isEntry := Json.mem_of_lookup found
        have holds : names = [] → entry.isDirectory = false := by
          rintro rfl
          rw [Option.some.inj there]
          rfl
        refine ⟨(name, entry), isEntry, ?_⟩
        rw [sourcesOfEntry, (isPruned_iff (by rw [there]; rfl) holds).mpr ⟨busy, included⟩]
        exact (ih _ isEntry).mpr ⟨names, bytes, modified, there, entered, rfl, isSource⟩

/-- The sources in an entry lie below its path. -/
theorem prefix_of_mem_sourcesOfEntry {name : String} (plain : (Component.name name).IsPlain)
    (inside : tree.Proper) (member : source ∈ sourcesOfEntry excluded path (name, tree)) :
    path.components ++ [.name name] <+: source.components := by
  -- The source is reached through the entry, and below it by plain names.
  rw [sourcesOfEntry] at member
  split at member
  · cases member
  · obtain ⟨names, plainNames, rfl, -⟩ := of_mem_sourcesIn inside.plainNames member
    rw [components_below _ plainNames]
    have joined := Path.components_join_plain path plain
    rw [Component.text] at joined
    rw [joined]
    exact List.prefix_append _ _

/-- A scan finds each source once. -/
theorem nodup_sourcesIn (proper : tree.Proper) : (sourcesIn excluded path tree).Nodup := by
  -- The induction is on the tree; sources of different entries differ in the names of these.
  induction proper generalizing path with
  | file bytes modified =>
    rw [sourcesIn]
    split <;> simp
  | link target => simp [sourcesIn]
  | @directory es named apart inside ih =>
    rw [sourcesIn]
    induction es with
    | nil => simp [sourcesAmong]
    | cons e es ihes =>
      obtain ⟨name, entry⟩ := e
      obtain ⟨first, others⟩ := List.forall_mem_cons.mp named
      obtain ⟨new, apart⟩ := List.nodup_cons.mp apart
      obtain ⟨properFirst, properOthers⟩ := List.forall_mem_cons.mp inside
      obtain ⟨ihFirst, ihOthers⟩ := List.forall_mem_cons.mp ih
      rw [sourcesAmong, List.nodup_append]
      refine ⟨?_, ihes others apart properOthers ihOthers, fun a here b there same => ?_⟩
      · rw [sourcesOfEntry]
        split
        · simp
        · exact ihFirst
      · subst same
        obtain ⟨⟨name', entry'⟩, isEntry, inOther⟩ := mem_sourcesAmong.mp there
        have front := prefix_of_mem_sourcesOfEntry first properFirst here
        have front' := prefix_of_mem_sourcesOfEntry (others _ isEntry) (properOthers _ isEntry) inOther
        -- Both names stand at the same place among the components.
        have same := List.prefix_of_prefix_length_le front front' (by simp)
        have names := (List.prefix_append_right_inj _).mp same
        have sameName : name = name' := by simpa using names
        exact new (sameName ▸ List.mem_map.mpr ⟨_, isEntry, rfl⟩)

/-- The texts of the paths to sources are distinct. -/
theorem nodup_texts (proper : tree.Proper) : ((sourcesIn excluded path tree).map Path.text).Nodup :=
  (nodup_sourcesIn proper).map fun a b text => by
    cases a
    cases b
    exact congrArg Path.mk text

/-- The sources in a tree in the order of their paths. -/
def sortedIn (excluded : List Path) (path : Path) (tree : FileTree) : List Path :=
  (sourcesIn excluded path tree).mergeSort fun a b => decide (a.text ≤ b.text)

/-- Trees with sources at the same places give the same scan. -/
theorem sortedIn_congr {changed : FileTree} (proper : tree.Proper) (properToo : changed.Proper)
    (same : ∀ names, IsSource (below path names) →
      ((∃ bytes modified, tree.at? names = some (.file bytes modified)) ↔
        ∃ bytes modified, changed.at? names = some (.file bytes modified))) :
    sortedIn excluded path changed = sortedIn excluded path tree := by
  -- The two walks find the same files, and sorting files with distinct texts gives one list.
  have member (source : Path) :
      source ∈ sourcesIn excluded path changed ↔ source ∈ sourcesIn excluded path tree := by
    rw [mem_sourcesIn_iff proper, mem_sourcesIn_iff properToo]
    refine exists_congr fun names => ?_
    constructor
    · rintro ⟨bytes, modified, there, entered, rfl, isSource⟩
      obtain ⟨bytes, modified, there⟩ := (same names isSource).mpr ⟨bytes, modified, there⟩
      exact ⟨bytes, modified, there, entered, rfl, isSource⟩
    · rintro ⟨bytes, modified, there, entered, rfl, isSource⟩
      obtain ⟨bytes, modified, there⟩ := (same names isSource).mp ⟨bytes, modified, there⟩
      exact ⟨bytes, modified, there, entered, rfl, isSource⟩
  exact mergeSort_perm_eq ((List.perm_ext_iff_of_nodup (nodup_sourcesIn properToo)
    (nodup_sourcesIn proper)).mpr member) (nodup_texts properToo)

end Found

end TemplateFacts.Scan
