import TemplateFacts.Proofs.Path.Components

/-!
Where the facts about a source are written: below the output directory, or below the root itself, in
the folder of the source. Two sources of one folder share their facts file when the name of one is
cut to that of the other.
-/

namespace TemplateFacts.SourceFile

/-- What is left in front of an ending, with the ending, is the whole. -/
theorem eq_append_of_dropEnd? {s ending stem : String} (cut : Text.dropEnd? s ending = some stem) :
    s = stem ++ ending := by
  rw [Text.dropEnd?] at cut
  split at cut
  · -- As many characters are taken as stand in front of the ending.
    rename_i ends
    obtain ⟨front, whole⟩ := List.isSuffixOf_iff_suffix.mp ends
    obtain rfl := Option.some.inj cut
    have length : s.length - ending.length = front.length := by
      rw [← String.length_toList, ← String.length_toList, ← whole, List.length_append]
      omega
    rw [← String.toList_inj, String.toList_append, String.toList_ofList, length, ← whole]
    simp
  · cases cut

/-- What is put in front of an ending is left in front of it. -/
theorem dropEnd?_append (stem ending : String) : Text.dropEnd? (stem ++ ending) ending = some stem := by
  -- The ending is there, and what is before it is as long as the stem.
  have ends : Text.endsWith (stem ++ ending) ending = true := by
    rw [Text.endsWith, List.isSuffixOf_iff_suffix, String.toList_append]
    exact List.suffix_append ..
  have length : (stem ++ ending).length - ending.length = stem.toList.length := by
    rw [String.length_append, String.length_toList]
    omega
  rw [Text.dropEnd?, if_pos ends, length, String.toList_append, List.take_left, String.ofList_toList]

/-- A name is what is left of it, or that with the ending of sources. -/
theorem stripEnding_cases (name : String) :
    stripEnding name = name ∨ name = stripEnding name ++ sourceEnding := by
  -- The ending is cut off unless nothing would be left.
  rw [stripEnding]
  split
  · rename_i stem cut
    split
    · exact .inl rfl
    · exact .inr (eq_append_of_dropEnd? cut)
  · exact .inl rfl

/-- The ending of sources is cut once. -/
theorem stripEnding_append {stem : String} (some : stem ≠ "") : stripEnding (stem ++ sourceEnding) = stem := by
  rw [stripEnding, dropEnd?_append]
  simp [some]

/-- A name is cut to another, which is itself left whole. -/
def CutTo (longer name : String) : Prop := longer = name ++ sourceEnding ∧ stripEnding name = name

/-- Two names leave the same when they are the same, or when one is cut to the other. -/
theorem stripEnding_eq_iff {name other : String} (some : name ≠ "") (others : other ≠ "") :
    stripEnding name = stripEnding other ↔ name = other ∨ CutTo other name ∨ CutTo name other := by
  constructor
  · -- Either name is left whole, or has the ending behind what is left.
    intro same
    rcases stripEnding_cases name with kept | cut <;> rcases stripEnding_cases other with kept' | cut'
    · exact .inl (kept.symm.trans (same.trans kept'))
    · exact .inr (.inl ⟨by rw [cut', ← same, kept], kept⟩)
    · exact .inr (.inr ⟨by rw [cut, same, kept'], kept'⟩)
    · exact .inl (by rw [cut, same, ← cut'])
  · rintro (rfl | ⟨rfl, kept⟩ | ⟨rfl, kept⟩)
    · rfl
    · rw [kept, stripEnding_append some]
    · rw [kept, stripEnding_append others]

/-- What is left of a name holds no slash that the name does not hold. -/
theorem noSlash_stripEnding {name : String} (noSlash : '/' ∉ name.toList) :
    '/' ∉ (stripEnding name).toList := by
  -- What is cut off holds no slash that the name did not.
  rcases stripEnding_cases name with kept | cut
  · rwa [kept]
  · intro slash
    refine noSlash ?_
    rw [cut, String.toList_append]
    exact List.mem_append_left _ slash

/-- The name of a facts file is a plain component. -/
theorem isPlain_factsName {name : String} (noSlash : '/' ∉ name.toList) :
    (Component.name (stripEnding name ++ factsEnding)).IsPlain := by
  -- The ending alone is longer than any name with a meaning of its own.
  refine Path.isPlain_of_length ?_ ?_
  · have ending : factsEnding.length = 11 := rfl
    rw [String.length_append, ending]
    omega
  · rw [String.toList_append, List.mem_append, not_or]
    exact ⟨noSlash_stripEnding noSlash, by decide⟩

/-- From the root, a source below it lies in a relative folder, which is made of the same folders. -/
theorem folder_below {file root : Path} {folders : List Component} {name : String}
    (plain : ∀ c ∈ folders, c.IsPlain) (named : (Component.name name).IsPlain)
    (below : file.components = root.components ++ (folders ++ [.name name])) :
    (Path.relativeTo root file).isAbsolute = false ∧
      ∃ folder, (Path.relativeTo root file).parent? = some folder ∧ folder.components = folders ∧
        folder.isAbsolute = false ∧ folder.startsAtDot = false := by
  have plainToo : ∀ c ∈ folders ++ [.name name], c.IsPlain :=
    List.forall_mem_append.mpr ⟨plain, List.forall_mem_singleton.mpr named⟩
  -- Seen from the root, the source has the folders and its name as components, and no others.
  have components : (Path.relativeTo root file).components = folders ++ [.name name] := by
    rw [Path.relativeTo_below plainToo below, Path.components_ofComponents plainToo]
  have relativeName : (Path.relativeTo root file).fileName? = some name := by
    rw [Path.fileName?, components, List.getLast?_concat]
  obtain ⟨folder, parent, split⟩ := Path.parent?_of_fileName? relativeName
  have same : folder.components = folders := by
    rw [components] at split
    exact (List.append_cancel_right split).symm
  obtain ⟨unrooted, undotted⟩ := @Path.relative_of_plain folder (by rwa [same])
  exact ⟨(Path.relative_of_plain (by rwa [components])).1, folder, parent, same, unrooted, undotted⟩

/-- The facts about a source below the root are written below the output directory, or below the
root if there is none, in the folders of the source, and under its name. -/
theorem components_outputPath {file root : Path} {outDir : Option Path} {folders : List Component}
    {name : String} (plain : ∀ c ∈ folders, c.IsPlain) (named : (Component.name name).IsPlain)
    (below : file.components = root.components ++ (folders ++ [.name name])) :
    (outputPath file root outDir).components =
      (outDir.getD root).components ++ (folders ++ [.name (stripEnding name ++ factsEnding)]) := by
  have noSlash : '/' ∉ name.toList := named.2.2.2
  have facts : (Component.name (stripEnding name ++ factsEnding)).IsPlain := isPlain_factsName noSlash
  have fileName : file.fileName? = some name := by
    rw [Path.fileName?, below, ← List.append_assoc, List.getLast?_concat]
  have written (folder : Path) : (folder.join ⟨stripEnding name ++ factsEnding⟩).components =
      folder.components ++ [.name (stripEnding name ++ factsEnding)] := by
    have joined := Path.components_join_plain folder facts
    rwa [Component.text] at joined
  rw [outputPath.eq_def, stem, fileName]
  cases outDir with
  | none =>
    -- The folder of the source is its parent.
    obtain ⟨folder, parent, components⟩ := Path.parent?_of_fileName? fileName
    have same : folder.components = root.components ++ folders := by
      rw [below, ← List.append_assoc] at components
      exact (List.append_cancel_right components).symm
    simp only [parent, Option.getD_none, Option.getD_some]
    rw [written, same, List.append_assoc]
  | some outDir =>
    -- The folder of the source, seen from the root, is joined to the output directory.
    obtain ⟨unrooted, folder, parent, same, folderUnrooted, undotted⟩ := folder_below plain named below
    simp only [unrooted, parent, Bool.false_eq_true, if_false, Option.getD_some]
    rw [written, Path.components_join outDir folderUnrooted undotted, same, List.append_assoc]

end TemplateFacts.SourceFile
