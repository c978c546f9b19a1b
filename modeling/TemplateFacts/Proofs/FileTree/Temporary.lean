import TemplateFacts.FileTree.Replace
import TemplateFacts.Proofs.SourceFile

/-!
The last segment of a path, however the path is put together, and the names of facts files and of
temporary files: both are names of their own, and none is the other.
-/

namespace TemplateFacts

namespace Path

/-- The path is written with a name at its end, alone or behind a slash. -/
def EndsIn (path : Path) (name : String) : Prop :=
  ∃ front, path.text = front ++ name ∧ (front = "" ∨ front.toList.getLast? = some '/')

variable {path : Path} {name : String}

/-- What is joined to a path ends it. -/
theorem EndsIn.join (cwd : Path) (ends : path.EndsIn name) : (cwd.join path).EndsIn name := by
  obtain ⟨front, text, slash⟩ := ends
  rw [Path.join]
  split
  · exact ⟨front, text, slash⟩
  -- Behind the directory the path has no other front than before, unless it had none.
  have behind (before : String) (opens : before = "" ∨ before.toList.getLast? = some '/') :
      Path.EndsIn ⟨before ++ path.text⟩ name := by
    refine ⟨before ++ front, by simp [text, String.append_assoc], ?_⟩
    rcases slash with rfl | slash
    · simpa using opens
    · right
      rw [String.toList_append, List.getLast?_append, slash]
      rfl
  split
  · rename_i opens
    refine behind cwd.text ?_
    simpa using opens
  · exact behind (cwd.text ++ "/") (.inr (by simp))

/-- A name that is joined to a path ends it. -/
theorem endsIn_join (cwd : Path) (name : String) : (cwd.join ⟨name⟩).EndsIn name :=
  EndsIn.join cwd ⟨"", by simp, .inl rfl⟩

/-- A name at the end of a path is its last segment. -/
theorem EndsIn.segments (ends : path.EndsIn name) (plain : (Component.name name).IsPlain) :
    ∃ before, FileTree.segments path.text = before ++ [name] := by
  obtain ⟨front, text, slash⟩ := ends
  obtain ⟨nonempty, -, -, noSlash⟩ := plain
  have alone : Text.splitChars (· == '/') name.toList = [name.toList] :=
    Text.splitChars_whole fun c member => beq_eq_false_iff_ne.mpr fun same => noSlash (same ▸ member)
  rw [FileTree.segments, Text.split, text, String.toList_append]
  -- In front of the name there is nothing, or a slash ends what is there.
  rcases slash with rfl | slash
  · exact ⟨[], by simp [alone, nonempty]⟩
  · obtain ⟨before, whole⟩ := List.getLast?_eq_some_iff.mp slash
    rw [whole, List.append_assoc, List.singleton_append, Text.splitChars_separator before (by rfl), alone]
    exact ⟨((Text.splitChars (· == '/') before).map String.ofList).filter (· != ""), by simp [nonempty]⟩

/-- The last name of a path is a plain component. -/
theorem isPlain_of_fileName? (named : path.fileName? = some name) : (Component.name name).IsPlain := by
  rw [fileName?] at named
  split at named
  · rename_i found last
    rw [Option.some.inj named] at last
    have member := List.mem_of_getLast? last
    -- Neither the root nor a dot is a name.
    have body : .name name ∈ path.bodyComponents := by
      rw [components] at member
      split at member
      · simpa using member
      · split at member
        · simpa using member
        · exact member
    exact isPlain_of_mem_bodyComponents body
  · cases named

/-- The last name of a path holds no slash, nor does the empty name of a path without one. -/
theorem noSlash_fileName (path : Path) : '/' ∉ (path.fileName?.getD "").toList := by
  -- A path without a last name gives the empty one.
  cases named : path.fileName? with
  | none => simp
  | some name => exact (isPlain_of_fileName? named).2.2.2

end Path

namespace SourceFile

/-- The name of the facts about a source is a plain component. -/
theorem isPlain_facts (file : Path) : (Component.name (stem file ++ factsEnding)).IsPlain :=
  isPlain_factsName (Path.noSlash_fileName file)

/-- The path of the facts about a source ends in their name. -/
theorem endsIn_outputPath (file root : Path) (outDir : Option Path) :
    (outputPath file root outDir).EndsIn (stem file ++ factsEnding) := by
  rw [outputPath.eq_def]
  -- The name is joined to some folder, or stands alone.
  have alone : Path.EndsIn ⟨stem file ++ factsEnding⟩ (stem file ++ factsEnding) :=
    ⟨"", by simp, .inl rfl⟩
  cases outDir with
  | none =>
    dsimp only
    split
    · exact Path.endsIn_join ..
    · exact alone
  | some outDir =>
    dsimp only
    split
    · exact Path.endsIn_join ..
    · split <;> exact Path.endsIn_join ..

end SourceFile

namespace FileTree

/-- The name of the temporary file for a target of a name. -/
def temporaryName (processId : Nat) (name : String) : String := s!".{name}.{processId}.tmp"

/-- The name of a temporary file as it is written. -/
theorem toList_temporaryName (processId : Nat) (name : String) :
    (temporaryName processId name).toList =
      '.' :: name.toList ++ '.' :: (Nat.toDigits 10 processId ++ ".tmp".toList) := by
  -- Both sides are the same pieces once the number's digits are spelt out.
  have digits : (toString processId).toList = Nat.toDigits 10 processId := Nat.toList_repr
  rw [temporaryName, ← digits]
  simp [toString, String.toList_append]

/-- The name of a temporary file is a plain component. -/
theorem isPlain_temporaryName (processId : Nat) {name : String} (noSlash : '/' ∉ name.toList) :
    (Component.name (temporaryName processId name)).IsPlain := by
  have noDigit : '/' ∉ Nat.toDigits 10 processId := by
    intro member
    have digit := Nat.isDigit_of_mem_toDigits (by decide) (by decide) member
    exact absurd digit (by decide)
  refine Path.isPlain_of_length ?_ ?_
  · -- The ending alone is longer than the dots.
    have ending : ".tmp".toList.length = 4 := rfl
    rw [← String.length_toList, toList_temporaryName]
    simp only [List.length_append, List.length_cons, ending]
    omega
  · rw [toList_temporaryName]
    simp [noSlash, noDigit]

/-- The name of a temporary file is not that of a facts file. -/
theorem temporaryName_ne (processId : Nat) (name stem : String) :
    temporaryName processId name ≠ stem ++ SourceFile.factsEnding := by
  intro same
  -- The last letters differ.
  have last := congrArg (fun s : String => s.toList.getLast?) same
  have letters : ".tmp".toList.getLast? = some 'p' := rfl
  have lettersToo : SourceFile.factsEnding.toList.getLast? = some 'n' := rfl
  rw [toList_temporaryName, String.toList_append, List.getLast?_append, List.getLast?_append,
    ← List.cons_append, List.getLast?_append, letters, lettersToo] at last
  cases last

/-- The path of a temporary file ends in its name. -/
theorem endsIn_temporaryPath (processId : Nat) (target : Path) :
    (temporaryPath processId target).EndsIn (temporaryName processId (target.fileName?.getD "")) := by
  -- With or without a folder the new name is the last one.
  have name : temporaryPath processId target =
      target.withFileName (temporaryName processId (target.fileName?.getD "")) := rfl
  rw [name, Path.withFileName]
  split <;> exact Path.endsIn_join _ _

/-- The name of the temporary file for a target is a plain component. -/
theorem isPlain_temporaryPath (processId : Nat) (target : Path) :
    (Component.name (temporaryName processId (target.fileName?.getD ""))).IsPlain :=
  isPlain_temporaryName processId (Path.noSlash_fileName target)

end FileTree

end TemplateFacts
