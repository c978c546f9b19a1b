import TemplateFacts.Proofs.FileTree.Temporary

/-!
The segments of paths from the root: those of a path that is joined to another one come behind its own,
and those of a parent in front of what it is the parent of.
-/

namespace TemplateFacts

namespace FileTree

/-- The pieces of two texts with a slash between them are those of both. -/
theorem segments_slash (first more : String) :
    segments (first ++ "/" ++ more) = segments first ++ segments more := by
  -- The slash ends a piece, so the pieces of both sides are cut apart.
  have chars : (first ++ "/" ++ more).toList = first.toList ++ '/' :: more.toList := by simp
  rw [segments, Text.split, chars, Text.splitChars_separator _ (by rfl), List.map_append, List.filter_append]
  rfl

/-- A segment is not empty, and holds no slash. -/
theorem of_mem_segments {text segment : String} (member : segment ∈ segments text) :
    segment ≠ "" ∧ '/' ∉ segment.toList := by
  obtain ⟨inside, nonempty⟩ := List.mem_filter.mp member
  exact ⟨by simpa using nonempty, Text.separator_notMem inside⟩

/-- A plain name is its own only segment. -/
theorem segments_plain {name : String} (plain : (Component.name name).IsPlain) : segments name = [name] := by
  -- A plain name is one piece, and that piece is not empty.
  have ends : Path.EndsIn ⟨name⟩ name := ⟨"", by simp, .inl rfl⟩
  have alone : Text.splitChars (· == '/') name.toList = [name.toList] :=
    Text.splitChars_whole fun c member =>
      beq_eq_false_iff_ne.mpr fun same => plain.2.2.2 (same ▸ member)
  simp [segments, Text.split, alone, plain.1]

end FileTree

namespace Path

/-- The text with a slash at its end, unless it is empty. -/
def separated (text : String) : String :=
  if text == "" || text.toList.getLast? == some '/' then text else text ++ "/"

/-- A relative path is written behind the one that it is joined to. -/
theorem join_text (path : Path) {other : Path} (relative : other.isAbsolute = false) :
    (path.join other).text = separated path.text ++ other.text := by
  -- Only an absolute path replaces the one before it.
  rw [join, if_neg (by simp [relative]), separated]
  split <;> rfl

/-- Behind a separated text come the segments of what follows. -/
theorem segments_separated (text more : String) :
    FileTree.segments (separated text ++ more) = FileTree.segments text ++ FileTree.segments more := by
  rw [separated]
  split
  · rename_i ends
    rw [Bool.or_eq_true, beq_iff_eq, beq_iff_eq] at ends
    rcases ends with rfl | slash
    · simp [FileTree.segments, Text.split, Text.splitChars]
    · -- The slash at the end is the separator.
      obtain ⟨front, chars⟩ := List.getLast?_eq_some_iff.mp slash
      obtain rfl : text = String.ofList front ++ "/" ++ "" := by
        rw [← String.toList_inj, chars]
        simp
      rw [FileTree.segments_slash]
      have whole : String.ofList front ++ "/" ++ "" ++ more = String.ofList front ++ "/" ++ more := by simp
      rw [whole, FileTree.segments_slash]
      simp [FileTree.segments, Text.split, Text.splitChars]
  · exact FileTree.segments_slash text more

end Path

namespace FileTree

/-- The segments of a path from the root. -/
def trail (cwd path : Path) : List String := segments (cwd.join path).text

/-- The segments of a path come behind those of the working directory, unless it starts over. -/
theorem trail_eq (cwd path : Path) :
    trail cwd path = (if path.isAbsolute then [] else segments cwd.text) ++ segments path.text := by
  -- An absolute path is joined as itself, a relative one behind the directory.
  rw [trail]
  cases absolute : path.isAbsolute with
  | true => simp [Path.join, absolute]
  | false => simp [Path.join_text cwd absolute, Path.segments_separated]

end FileTree

namespace Path

variable {path above : Path} {name : String}

/-- A plain name is no path from the root. -/
theorem isAbsolute_plain (plain : (Component.name name).IsPlain) : isAbsolute ⟨name⟩ = false := by
  -- A plain name has no slash, so none at its front.
  rw [isAbsolute, beq_eq_false_iff_ne]
  intro slash
  exact plain.2.2.2 (List.mem_of_mem_head? slash)

/-- What begins with the text of a path starts over where that does. -/
theorem isAbsolute_separated (tail : String) (some : path.text ≠ "") :
    isAbsolute ⟨separated path.text ++ tail⟩ = path.isAbsolute := by
  -- The first character is the old one, as there is one.
  have nonempty : path.text.toList ≠ [] := fun none => some (String.toList_eq_nil_iff.mp none)
  obtain ⟨c, cs, chars⟩ := List.exists_cons_of_ne_nil nonempty
  rw [isAbsolute, isAbsolute, separated]
  split <;> simp [chars]

/-- A relative path that is joined to another one starts over where that does. -/
theorem isAbsolute_join {other : Path} (relative : other.isAbsolute = false) :
    (path.join other).isAbsolute = path.isAbsolute := by
  have text := join_text path relative
  have whole : path.join other = ⟨separated path.text ++ other.text⟩ := congrArg Path.mk text
  by_cases empty : path.text = ""
  · -- The other path is the whole one.
    obtain rfl : path = ⟨""⟩ := congrArg Path.mk empty
    have same : (⟨separated "" ++ other.text⟩ : Path) = other := by simp [separated]
    rw [whole, same, relative]
    rfl
  · rw [whole, isAbsolute_separated _ empty]

/-- The segments of a path with a name behind it are its own and the name. -/
theorem trail_join (cwd path : Path) (plain : (Component.name name).IsPlain) :
    FileTree.trail cwd (path.join ⟨name⟩) = FileTree.trail cwd path ++ [name] := by
  -- A plain name is one more segment at the end.
  have relative := isAbsolute_plain plain
  rw [FileTree.trail_eq, FileTree.trail_eq, isAbsolute_join relative, join_text path relative,
    segments_separated, FileTree.segments_plain plain, List.append_assoc]

/-- A relative path that is not empty has a segment. -/
theorem segments_ne_nil (relative : path.isAbsolute = false) (some : path.text ≠ "") :
    FileTree.segments path.text ≠ [] := by
  have nonempty : path.text.toList ≠ [] := fun none => some (String.toList_eq_nil_iff.mp none)
  obtain ⟨c, cs, chars⟩ := List.exists_cons_of_ne_nil nonempty
  have first : (c == '/') = false := by
    rw [isAbsolute, chars, List.head?_cons, beq_eq_false_iff_ne, ne_eq, Option.some.injEq] at relative
    exact beq_eq_false_iff_ne.mpr relative
  -- The first piece begins with the first character, which is no slash.
  obtain ⟨piece, pieces, split⟩ : ∃ piece pieces,
      Text.splitChars (· == '/') path.text.toList = (c :: piece) :: pieces := by
    rw [chars, Text.splitChars, first]
    cases Text.splitChars (· == '/') cs with
    | nil => exact ⟨[], [], rfl⟩
    | cons piece pieces => exact ⟨piece, pieces, rfl⟩
  rw [FileTree.segments, Text.split, split]
  simp

/-- Only segments that are not empty count for the components. -/
theorem busyComponents_split (text : String) :
    busyComponents (Text.split '/' text) = busyComponents (FileTree.segments text) := by
  -- The empty segments are idle as well, so cutting them out first changes nothing.
  rw [busyComponents, busyComponents, FileTree.segments, List.filter_filter]
  congr 2
  funext segment
  by_cases empty : segment = "" <;> simp [empty, isIdle]

/-- The last segment of a path is its last name, unless it is a dot or climbs. -/
theorem fileName?_of_trail {cwd : Path} {before : List String} (written : path.text ≠ "")
    (whole : FileTree.trail cwd path = before ++ [name]) (noDot : name ≠ ".") (noClimb : name ≠ "..") :
    path.fileName? = some name := by
  -- The segment is one of the path itself.
  obtain ⟨init, last⟩ : ∃ init, FileTree.segments path.text = init ++ [name] := by
    rw [FileTree.trail_eq] at whole
    split at whole
    · exact ⟨before, whole⟩
    · rename_i relative
      rcases List.eq_nil_or_concat (FileTree.segments path.text) with none | ⟨init, last, own⟩
      · exact absurd none (segments_ne_nil (Bool.eq_false_iff.mpr relative) written)
      · rw [List.concat_eq_append] at own
        rw [own, ← List.append_assoc] at whole
        obtain ⟨-, same⟩ := List.append_inj' whole rfl
        exact ⟨init, own.trans (by rw [same])⟩
  -- A segment that is neither a dot nor a climb is a name.
  have component : busyComponents [name] = [.name name] := by
    have member : name ∈ FileTree.segments path.text := by simp [last]
    simp [busyComponents, isIdle, segmentComponent, (FileTree.of_mem_segments member).1, noDot, noClimb]
  rw [fileName?, components_eq, busyComponents_split, last, busyComponents_append, component, ← List.append_assoc,
    List.getLast?_concat]

/-- The parent of a path has the first segments of it, and those behind them are not idle. -/
theorem parts_of_parent? (parent : path.parent? = some above) (some : above.text ≠ "") :
    ∃ init tail, path.segments = init ++ tail ∧ above.text = path.front ++ Text.join "/" init ∧
      tail ≠ [] ∧ FileTree.segments (Text.join "/" tail) ≠ [] := by
  obtain ⟨cut, whole⟩ := dropIdleEnd_prefix path.segments
  delta parent? at parent
  cases end_eq : (dropIdleEnd path.segments).getLast? with
  | none =>
    -- There is nothing but the front.
    rw [List.getLast?_eq_none_iff.mp end_eq] at parent
    dsimp only at parent
    split at parent
    · obtain rfl := Option.some.inj parent
      exact absurd rfl some
    · cases parent
  | some last =>
    have busy : isIdle last = false := getLast?_dropIdleEnd path.segments last end_eq
    obtain ⟨init, ends⟩ := List.getLast?_eq_some_iff.mp end_eq
    -- The parent ends before the last segment that is busy.
    rw [ends] at parent whole
    obtain ⟨rest, begins⟩ := dropIdleEnd_prefix init
    have parts : path.segments = dropIdleEnd init ++ (rest ++ [last] ++ cut) := by
      rw [← whole, ← List.append_assoc, ← List.append_assoc, begins]
    have text : above.text = path.front ++ Text.join "/" (dropIdleEnd init) := by
      split at parent
      · rename_i none
        simp at none
      · rw [← Option.some.inj parent]
        simp
    -- The last segment is named by what is behind the parent.
    have member : last ∈ rest ++ [last] ++ cut := by simp
    have others : rest ++ [last] ++ cut ≠ [] := List.ne_nil_of_mem member
    refine ⟨dropIdleEnd init, rest ++ [last] ++ cut, parts, text, others, ?_⟩
    have apart : ∀ piece ∈ rest ++ [last] ++ cut, '/' ∉ piece.toList := fun piece inside =>
      Text.separator_notMem (by rw [← segments, parts]; exact List.mem_append_right _ inside)
    have nonempty : last ≠ "" := by
      rintro rfl
      exact absurd busy (by decide)
    rw [FileTree.segments, Text.split_join others apart]
    exact List.ne_nil_of_mem (List.mem_filter.mpr ⟨member, by simpa using nonempty⟩)

/-- What is written behind a slash stands behind the separated text. -/
theorem separated_behind {text more : String} (written : path.text = text ++ "/" ++ more)
    (named : FileTree.segments more ≠ []) :
    ∃ tail, path.text = separated text ++ tail ∧ FileTree.segments tail ≠ [] := by
  -- The slash between is part of the front, or of the rest when the front has one already.
  rw [separated]
  split
  · refine ⟨"/" ++ more, by rw [written, String.append_assoc], ?_⟩
    have whole : "/" ++ more = "" ++ "/" ++ more := by simp
    rw [whole, FileTree.segments_slash]
    simp [named]
  · exact ⟨more, written, named⟩

/-- The text of a path is that of its parent and something behind it that is not idle. -/
theorem text_of_parent? (parent : path.parent? = some above) (some : above.text ≠ "") :
    ∃ tail, path.text = separated above.text ++ tail ∧ FileTree.segments tail ≠ [] := by
  obtain ⟨init, tail, parts, text, others, named⟩ := parts_of_parent? parent some
  -- The parent is the front alone, or has segments of its own.
  by_cases none : init = []
  · rw [none] at text parts
    rw [List.nil_append] at parts
    have front : above.text = path.front := by simpa [Text.join] using text
    have whole : path.text = path.front ++ Text.join "/" tail := by rw [text_eq path, parts]
    rw [Path.front] at front whole
    split at front
    · -- The parent is the root.
      rename_i absolute
      rw [if_pos absolute] at whole
      refine ⟨Text.join "/" tail, ?_, named⟩
      rw [whole, front]
      simp [separated]
    · rename_i relative
      rw [if_neg relative] at whole
      -- In front of a relative path there is a dot, or nothing.
      split at front
      · -- The parent is a dot, and a slash follows it.
        rename_i dotted
        rw [if_pos dotted] at whole
        have first := segments_of_dotted (Bool.eq_false_iff.mpr relative) dotted
        rw [parts] at first
        obtain ⟨rest, rfl⟩ := List.head?_eq_some_iff.mp first
        have more : rest ≠ [] := by
          rintro rfl
          exact named (by decide)
        rw [Text.join_cons "" more] at whole named
        have text : path.text = above.text ++ "/" ++ Text.join "/" rest := by
          rw [whole, front, String.empty_append, String.append_assoc]
        refine separated_behind text ?_
        rw [FileTree.segments_slash] at named
        simpa [FileTree.segments, Text.split, Text.splitChars] using named
      · exact absurd front some
  · have text : path.text = above.text ++ "/" ++ Text.join "/" tail := by
      rw [text_eq path, parts, Text.join_append none others, text]
      simp [String.append_assoc]
    exact separated_behind text named

/-- The segments of a path are those of its parent and others behind them. -/
theorem trail_parent (cwd : Path) (parent : path.parent? = some above) (some : above.text ≠ "") :
    ∃ more, more ≠ [] ∧ FileTree.trail cwd path = FileTree.trail cwd above ++ more ∧
      FileTree.segments path.text = FileTree.segments above.text ++ more := by
  -- What the parent leaves behind is a text with a segment of its own.
  obtain ⟨tail, text, named⟩ := text_of_parent? parent some
  have absolute : path.isAbsolute = above.isAbsolute := by
    have whole : path = ⟨separated above.text ++ tail⟩ := congrArg Path.mk text
    rw [whole, isAbsolute_separated _ some]
  have segments := text ▸ segments_separated above.text tail
  refine ⟨FileTree.segments tail, named, ?_, segments⟩
  rw [FileTree.trail_eq, FileTree.trail_eq, absolute, segments, List.append_assoc]

end Path

namespace FileTree

/-- A path is looked up if it is not empty, not too long, and without a zero byte. -/
theorem refusal?_eq_none {path : Path} : refusal? path = none ↔
    '\x00' ∉ path.text.toList ∧ path.text ≠ "" ∧ path.text.utf8ByteSize ≤ greatestPath := by
  rw [refusal?]
  split
  · -- The three checks are made one after the other.
    rename_i zero
    simp at zero
    simp [zero]
  · rename_i noZero
    split
    · rename_i empty
      simp at empty
      simp [empty]
    · rename_i some
      split
      · rename_i long
        simp only [reduceCtorEq, false_iff, not_and]
        omega
      · rename_i short
        simp at noZero some short
        simp [noZero, some, short]

/-- The parent of a path that is looked up is so, too. -/
theorem refusal?_parent {path above : Path} (parent : path.parent? = some above) (some : above.text ≠ "")
    (looked : refusal? path = none) : refusal? above = none := by
  rw [refusal?_eq_none] at looked ⊢
  obtain ⟨noZero, -, short⟩ := looked
  obtain ⟨tail, text, -⟩ := Path.text_of_parent? parent some
  -- Whatever is in the parent is in the path.
  obtain ⟨more, whole⟩ : ∃ more, path.text = above.text ++ more := by
    rw [text, Path.separated]
    split
    · exact ⟨tail, rfl⟩
    · exact ⟨"/" ++ tail, String.append_assoc ..⟩
  rw [whole] at noZero short
  rw [String.utf8ByteSize_append] at short
  exact ⟨fun zero => noZero (by simp [zero]), some, by omega⟩

end FileTree

end TemplateFacts
