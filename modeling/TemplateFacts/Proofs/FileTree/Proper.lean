import TemplateFacts.Proofs.FileTree.Passes
import TemplateFacts.Proofs.Json.Record
import TemplateFacts.Proofs.Scan

/-!
Trees whose directories hold one entry of a name, each name being a component of a path. Such are all trees
of files, and they stay so whatever a replacement makes of them.
-/

namespace TemplateFacts.FileTree

/-- Every directory of a tree holds one entry of a name, and each name is a component of a path. -/
inductive Proper : FileTree → Prop
  | file (bytes : List UInt8) (modified : Timestamp.Instant) : Proper (.file bytes modified)
  | link (target : String) : Proper (.link target)
  | directory {es : List (String × FileTree)} (named : ∀ e ∈ es, (Component.name e.1).IsPlain)
    (apart : (es.map Prod.fst).Nodup) (inside : ∀ e ∈ es, Proper e.2) : Proper (.directory es)

section Proper

variable {tree part : FileTree} {es : List (String × FileTree)} {name : String} {names : List String}

/-- The names in a proper tree are components of paths. -/
theorem Proper.plainNames (proper : tree.Proper) : tree.PlainNames := by
  -- Plain names are one of the three things that a proper directory has.
  induction proper with
  | file bytes modified => exact .file bytes modified
  | link target => exact .link target
  | directory named _ _ ih => exact .directory named ih

/-- What a proper tree holds, be it a directory or not. -/
theorem Proper.entries (proper : tree.Proper) : (∀ e ∈ tree.entries, (Component.name e.1).IsPlain) ∧
    (tree.entries.map Prod.fst).Nodup ∧ ∀ e ∈ tree.entries, Proper e.2 := by
  -- A file and a link have no entries.
  cases proper with
  | file => simp [FileTree.entries]
  | link => simp [FileTree.entries]
  | directory named apart inside => exact ⟨named, apart, inside⟩

/-- An entry of a proper tree is proper. -/
theorem Proper.lookup (proper : tree.Proper) (found : tree.entries.lookup name = some part) : part.Proper :=
  proper.entries.2.2 _ (Json.mem_of_lookup found)

/-- A part of a proper tree is proper, and its names are components of paths. -/
theorem Proper.piece (proper : tree.Proper) (there : tree.at? names = some part) :
    part.Proper ∧ ∀ name ∈ names, (Component.name name).IsPlain := by
  -- The induction goes down along the names.
  induction names generalizing tree with
  | nil =>
    obtain rfl := Option.some.inj there
    exact ⟨proper, by simp⟩
  | cons name names ih =>
    rw [at?_cons] at there
    obtain ⟨entry, found, inEntry⟩ := Option.bind_eq_some_iff.mp there
    obtain ⟨proper', plain⟩ := ih (proper.lookup found) inEntry
    exact ⟨proper', List.forall_mem_cons.mpr ⟨proper.entries.1 _ (Json.mem_of_lookup found), plain⟩⟩

/-- An entry that is set is there, beside others that were there before. -/
theorem mem_setEntry {e : String × FileTree} (member : e ∈ setEntry name part es) :
    e = (name, part) ∨ e ∈ es := by
  -- The entry of that name is replaced, or the new one comes last.
  induction es with
  | nil => exact .inl (List.mem_singleton.mp member)
  | cons first es ih =>
    obtain ⟨other, kept⟩ := first
    rw [setEntry] at member
    split at member
    · exact (List.mem_cons.mp member).imp id (List.mem_cons_of_mem _)
    · rcases List.mem_cons.mp member with rfl | later
      · exact .inr List.mem_cons_self
      · exact (ih later).imp id (List.mem_cons_of_mem _)

/-- A name comes last when its entry is set, unless it is there already. -/
theorem names_setEntry (name : String) (part : FileTree) (es : List (String × FileTree)) :
    (setEntry name part es).map Prod.fst =
      if name ∈ es.map Prod.fst then es.map Prod.fst else es.map Prod.fst ++ [name] := by
  -- By induction on the entries, of which the one with the name keeps its place.
  induction es with
  | nil => rfl
  | cons first es ih =>
    obtain ⟨other, kept⟩ := first
    rw [setEntry]
    by_cases here : other = name
    · simp [here]
    · rw [if_neg (by simpa using here), List.map_cons, ih]
      by_cases there : name ∈ es.map Prod.fst
      · simp [there]
      · simp [there, Ne.symm here]

/-- A proper tree stays so when an entry is set. -/
theorem Proper.setEntry (proper : tree.Proper) (proper' : part.Proper)
    (plain : (Component.name name).IsPlain) : Proper (.directory (setEntry name part tree.entries)) := by
  obtain ⟨named, apart, inside⟩ := proper.entries
  -- A new name comes behind the others, and is none of them.
  refine .directory (fun e member => ?_) ?_ fun e member => ?_
  · rcases mem_setEntry member with rfl | old
    · exact plain
    · exact named e old
  · rw [names_setEntry]
    split
    · exact apart
    · rename_i new
      exact List.nodup_append.mpr ⟨apart, by simp, fun other old last set differs => by
        rw [List.mem_singleton.mp set] at differs
        exact new (differs ▸ old)⟩
  · rcases mem_setEntry member with rfl | old
    · exact proper'
    · exact inside e old

/-- A proper tree stays so when a proper part is set. -/
theorem Proper.put (proper : tree.Proper) (proper' : part.Proper)
    (plain : ∀ name ∈ names, (Component.name name).IsPlain) : (put part names tree).Proper := by
  -- The induction goes down to the place of the part, through directories that may be new.
  induction names generalizing tree with
  | nil => exact proper'
  | cons name names ih =>
    obtain ⟨first, rest⟩ := List.forall_mem_cons.mp plain
    refine proper.setEntry (ih ?_ rest) first
    cases found : tree.entries.lookup name with
    | none => exact .directory (by simp) (by simp) (by simp)
    | some entry => exact proper.lookup found

/-- A proper tree stays so when a part is removed. -/
theorem Proper.erase (proper : tree.Proper) (names : List String) : (erase names tree).Proper := by
  -- By induction on the way to the part; the directories on it get the entry with the part removed.
  induction names generalizing tree with
  | nil => exact proper
  | cons name names ih =>
    obtain ⟨named, apart, inside⟩ := proper.entries
    by_cases last : names = []
    · subst last
      have fewer {e : String × FileTree} (member : e ∈ dropEntry name tree.entries) : e ∈ tree.entries :=
        (List.mem_filter.mp member).1
      exact .directory (fun e member => named e (fewer member))
        (apart.sublist (List.filter_sublist.map Prod.fst)) fun e member => inside e (fewer member)
    · rw [erase_cons tree name last]
      split
      · rename_i entry found
        exact proper.setEntry (ih (proper.lookup found)) (named _ (Json.mem_of_lookup found))
      · exact proper

end Proper

section Change

variable {disk : Disk} {target : Path} {tree changed : FileTree} {earlier : List FileTree}

/-- The names of the directory that a path leads to are those of a proper tree. -/
theorem Proper.place {cwd path : Path} {folder : List String} {name : String} (proper : tree.Proper)
    (leads : tree.resolveParent cwd path = .ok (folder, .name name)) :
    ∀ segment ∈ folder ++ [name], (Component.name segment).IsPlain := by
  obtain ⟨-, before, -, whole, isName, -, opened⟩ := resolveParent_eq_ok.mp leads
  obtain ⟨part, there⟩ := opened.isSome
  refine List.forall_mem_append.mpr ⟨(proper.piece there).2, List.forall_mem_singleton.mpr ?_⟩
  -- The name is a segment of the path.
  have member : name ∈ segments (cwd.join path).text := by
    rw [trail] at whole
    simp [whole]
  obtain ⟨nonempty, noSlash⟩ := of_mem_segments member
  exact ⟨nonempty, isName.1, isName.2, noSlash⟩

/-- A proper tree stays so under the changes of a replacement. -/
theorem Change.proper (change : Change disk target tree changed) (proper : tree.Proper) : changed.Proper := by
  -- Each change puts a proper part under a name the lookup has read, or takes one away.
  cases change with
  | make above leads free => exact proper.put (.directory (by simp) (by simp) (by simp)) (proper.place leads)
  | use leads free => exact proper.put (.file _ _) (proper.place leads)
  | move leads there reaches free => exact (proper.erase _).put (.file _ _) (proper.place reaches)
  | drop leads there => exact proper.erase _

/-- A proper tree stays so, however many changes there are. -/
theorem Passes.proper (passes : Passes disk target tree changed earlier) (proper : tree.Proper) :
    changed.Proper :=
  passes.keeps (fun _ _ change => change.proper) proper

end Change

end TemplateFacts.FileTree
