import TemplateFacts.Proofs.Path.Relative
import TemplateFacts.Proofs.SourceFile

/-!
Where facts lie when there is an output directory. The way from the root to the folder of the source is
walked from the output directory: below the root this repeats the folders of the source, and outside of
the root it climbs out of the output directory, from which it comes back only by the names that it left.
-/

namespace TemplateFacts.SourceFile

open TemplateFacts.Path

variable {file root outDir : Path}

/-- The name of the facts about a source. -/
def factsName (file : Path) : Component := .name (stem file ++ factsEnding)

/-- The name of facts is a plain component, even if the source has no name. -/
theorem isPlain_factsName_of (file : Path) : (factsName file).IsPlain := by
  refine isPlain_factsName ?_
  cases named : file.fileName? with
  | none => simp
  | some name =>
    -- A name is a component, and so it holds no slash.
    obtain ⟨folder, -, components⟩ := parent?_of_fileName? named
    have ends : file.components.getLast? = some (.name name) := by rw [components, List.getLast?_concat]
    have inside : .name name ∈ file.steps :=
      List.mem_filter.mpr ⟨List.mem_of_getLast? ends, by simp⟩
    rw [steps_eq] at inside
    have inBody : .name name ∈ file.bodyComponents := by
      split at inside
      · simpa using inside
      · exact inside
    exact (isPlain_of_mem_bodyComponents inBody).2.2.2

/-- The facts about a source are written where the way to its folder leads from the output directory. -/
theorem components_outputPath_way (from_ : root.Descends) (to_ : file.Descends) (outDir : Path) :
    (outputPath file root (some outDir)).components =
      outDir.components ++ ((way root file).dropLast ++ [factsName file]) := by
  have written (folder : Path) :
      (folder.join ⟨stem file ++ factsEnding⟩).components = folder.components ++ [factsName file] := by
    have joined := components_join_plain folder (isPlain_factsName_of file)
    simpa only [factsName, Component.text] using joined
  have seen := components_relativeTo from_ to_
  have plain := isPlain_way from_ to_
  have relative : (relativeTo root file).isAbsolute = false :=
    (relative_of_plain (by rwa [seen])).1
  rw [outputPath.eq_def]
  simp only [relative, Bool.false_eq_true, if_false]
  -- The way has a folder before its last name, or is that name alone.
  rcases parent?_relativeTo from_ to_ with ⟨none, noParent⟩ | ⟨folder, parent, components⟩
  · simp only [noParent]
    rw [written, none, List.dropLast_nil, List.nil_append]
  · have plainFolder : ∀ c ∈ folder.components, c.IsPlain := fun c member =>
      plain c (List.dropLast_subset _ (components ▸ member))
    obtain ⟨folderRelative, undotted⟩ := relative_of_plain plainFolder
    simp only [parent]
    rw [written, components_join outDir folderRelative undotted, components, List.append_assoc]

/-- Where facts lie once dots and climbing are resolved: the last names of the output directory are
climbed out of, and the folder of the source goes down from there. -/
theorem components_resolved (directory : Path) {names : List String} (from_ : root.Descends)
    (to_ : file.Descends) (plain : ∀ name ∈ names, (Component.name name).IsPlain)
    (out : outDir.components = .root :: names.map .name) :
    (absolutize directory (outputPath file root (some outDir))).components =
      .root :: ((names.take (names.length - climbs root file)).map .name ++
        (descents root file ++ [factsName file])) := by
  obtain ⟨down, same, plainDown⟩ := descents_eq_map from_ to_
  have ending : descents root file ++ [factsName file] =
      (down ++ [stem file ++ factsEnding]).map .name := by
    rw [same, List.map_append]
    rfl
  rw [ending]
  -- The path is the output directory, as many dots as the way climbs, and plain names behind them.
  refine components_absolutize directory ?_ ?_
  · rw [List.forall_mem_append, List.forall_mem_append, List.forall_mem_singleton]
    exact ⟨plain, plainDown, isPlain_factsName_of file⟩
  · rw [components_outputPath_way from_ to_, dropLast_way, out, List.append_assoc, ending]
    rfl

/-- A list that goes on with one more begins with another one, and more, exactly if what comes before
the last does. -/
theorem exists_append_iff {α : Type} {front xs ys : List α} {x : α} :
    (∃ more, more ≠ [] ∧ front ++ (xs ++ [x]) = front ++ ys ++ more) ↔ ys <+: xs := by
  -- Something is left behind `ys` because `x` stands behind `xs`.
  constructor
  · rintro ⟨more, some, whole⟩
    rw [List.append_assoc, List.append_cancel_left_eq] at whole
    obtain ⟨init, last, rfl⟩ := (List.eq_nil_or_concat more).resolve_left some
    rw [List.concat_eq_append, ← List.append_assoc] at whole
    exact ⟨init, (List.append_inj' whole rfl).1.symm⟩
  · rintro ⟨more, rfl⟩
    exact ⟨more ++ [x], by simp, by simp⟩

/-- Facts lie in the output directory exactly if the folder of the source goes down by the names that
were climbed out of. -/
theorem liesIn_outDir_iff (directory : Path) (from_ : root.Descends) (to_ : file.Descends)
    (out : outDir.Descends) :
    (absolutize directory (outputPath file root (some outDir))).LiesIn outDir ↔
      outDir.components.tail.drop (outDir.components.tail.length - climbs root file) <+:
        descents root file := by
  obtain ⟨names, components, plain⟩ := out.components
  have resolved := components_resolved directory from_ to_ plain components
  -- The names in front are kept on both sides.
  have split : outDir.components =
      (.root :: (names.take (names.length - climbs root file)).map .name) ++
        (names.drop (names.length - climbs root file)).map .name := by
    rw [components, List.cons_append, ← List.map_append, List.take_append_drop]
  rw [LiesIn, resolved, split, ← List.cons_append, exists_append_iff, ← split, components,
    List.tail_cons, List.length_map, List.map_drop]

/-- Below the root, the way to the folder of a source only goes down. -/
theorem way_below {below : List Component} (whole : file.components = root.components ++ below) :
    (way root file).dropLast = below.dropLast ∧ climbs root file = 0 := by
  -- A file below the root has the whole root in common, so no step goes up.
  have common : commonLength root.components file.components = root.components.length := by
    rw [whole, commonLength_append]
  constructor
  · rw [way, common, whole]
    simp
  · rw [climbs, common]
    split <;> omega

/-- Outside of the root, the way to the folder of a source is empty only if the root lies in the folder
that the source would have to be. -/
theorem dropLast_way_eq_nil (outside : ¬ root.components <+: file.components) :
    (way root file).dropLast = [] ↔ ∃ c, root.components = file.components ++ [c] := by
  have shorter : commonLength root.components file.components < root.components.length :=
    Nat.lt_of_not_le fun all => outside (prefix_of_commonLength all)
  constructor
  · intro none
    rw [dropLast_way, List.append_eq_nil_iff, List.replicate_eq_nil_iff] at none
    obtain ⟨noClimb, -⟩ := none
    rw [climbs] at noClimb
    split at noClimb
    · -- The source is in common, and the root has one component more.
      rename_i nothing
      have all := List.drop_eq_nil_iff.mp nothing
      have front : root.components.take (commonLength root.components file.components) =
          file.components := by
        rw [take_commonLength, List.take_of_length_le all]
      have last : (root.components.drop (commonLength root.components file.components)).length = 1 := by
        rw [List.length_drop]
        omega
      obtain ⟨c, one⟩ := List.length_eq_one_iff.mp last
      refine ⟨c, ?_⟩
      rw [← front, ← one, List.take_append_drop]
    · omega
  · rintro ⟨c, whole⟩
    have common : commonLength root.components file.components = file.components.length := by
      rw [whole, commonLength_append_left]
    rw [way, common, whole]
    simp

/--
Facts under an output directory. The facts about a source below the root are written in the folder of
the source below the output directory, and lie inside of it. About a source outside of the root they are
written right in the output directory only if the source stands where the folder of the root does; and
they lie inside of it only if the way to the folder of the source goes down by the names of the output
directory that it climbed out of.
-/
theorem facts_inside_iff (directory : Path) (to_ : file.Descends) (from_ : root.Descends)
    (out : outDir.Descends) :
    let written := outputPath file root (some outDir)
    let resolved := absolutize directory written
    (∀ below, file.components = root.components ++ below →
      written.components = outDir.components ++ (below.dropLast ++ [factsName file]) ∧
        resolved.LiesIn outDir) ∧
    (¬ root.components <+: file.components →
      (written.components = outDir.components ++ [factsName file] ↔
        ∃ c, root.components = file.components ++ [c]) ∧
      (resolved.LiesIn outDir ↔
        outDir.components.tail.drop (outDir.components.tail.length - climbs root file) <+:
          descents root file)) := by
  -- The name replaces the last step of the way, and the way is joined onto the output directory.
  intro written resolved
  have path : written.components = outDir.components ++ ((way root file).dropLast ++ [factsName file]) :=
    components_outputPath_way from_ to_ outDir
  have inside : resolved.LiesIn outDir ↔ _ := liesIn_outDir_iff directory from_ to_ out
  refine ⟨fun below whole => ?_, fun outside => ⟨?_, inside⟩⟩
  · obtain ⟨folder, noClimb⟩ := way_below whole
    rw [path, folder, inside, noClimb, Nat.sub_zero, List.drop_length]
    exact ⟨rfl, List.nil_prefix⟩
  · rw [path, List.append_cancel_left_eq, ← dropLast_way_eq_nil outside]
    exact List.append_left_eq_self

/-- A source outside of the root. -/
def strayFile : Path := ⟨"/repo/shared/net.bicep"⟩

/-- A root that the source is not below. -/
def strayRoot : Path := ⟨"/repo/infra"⟩

/-- Facts about a source outside of the root are written outside of the output directory. -/
theorem facts_outside_of_outDir :
    let written := outputPath strayFile strayRoot (some ⟨"/out"⟩)
    strayFile.Descends ∧ strayRoot.Descends ∧ (⟨"/out"⟩ : Path).Descends ∧
      ¬ strayRoot.components <+: strayFile.components ∧
      written = ⟨"/out/../shared/net.facts.json"⟩ ∧ written.components ≠
        (⟨"/out/net.facts.json"⟩ : Path).components ∧
      ¬ (absolutize ⟨"/"⟩ written).LiesIn ⟨"/out"⟩ := by
  -- The steps up are joined as they are, and the result is outside.
  refine ⟨by decide, by decide, by decide, by decide, by decide, by decide, ?_⟩
  rintro ⟨more, -, same⟩
  have lies : (absolutize ⟨"/"⟩ (outputPath strayFile strayRoot (some ⟨"/out"⟩))).components =
      [.root, .name "shared", .name "net.facts.json"] := by decide
  have folder : (⟨"/out"⟩ : Path).components = [.root, .name "out"] := by decide
  rw [lies, folder] at same
  simp at same

/-- A source beside the root, seen from an output directory of the same name as its folder. -/
theorem facts_inside_iff_homonyms :
    let file : Path := ⟨"/repo/shared/net.bicep"⟩
    let root : Path := ⟨"/repo/infra"⟩
    let outDir : Path := ⟨"/build/shared"⟩
    (file.Descends ∧ root.Descends ∧ outDir.Descends ∧ ¬ root.components <+: file.components) ∧
      (absolutize ⟨"/"⟩ (outputPath file root (some outDir))).LiesIn outDir := by
  -- The way goes up and into a folder of the same name as the output directory's own.
  intro file root outDir
  have to_ : file.Descends := by decide
  have from_ : root.Descends := by decide
  have out : outDir.Descends := by decide
  have outside : ¬ root.components <+: file.components := by decide
  exact ⟨⟨to_, from_, out, outside⟩,
    ((facts_inside_iff ⟨"/"⟩ to_ from_ out).2 outside).2.mpr (by decide)⟩

end TemplateFacts.SourceFile
