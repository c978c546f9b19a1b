import Mathlib.Data.List.Induction
import TemplateFacts.Proofs.Path.Relative
import TemplateFacts.Proofs.Path.Trail

/-!
The absolute form of a path is a normal form. It consists of the names that are left when the whole path is
read from the root, piece by piece, and it makes no difference whether a path is brought into this form
before something is joined to it, or only afterwards.
-/

namespace TemplateFacts.Path

/-- The names that are left of the pieces of a path when these are read from the root on. -/
inductive Leaves : (pieces names : List String) → Prop
  | start : Leaves [] []
  /-- Nothing between two slashes, and a dot, are skipped. -/
  | skip {pieces names : List String} {piece : String} (before : Leaves pieces names)
    (idle : piece = "" ∨ piece = ".") : Leaves (pieces ++ [piece]) names
  /-- Climbing removes the last name that is left, and nothing at the root. -/
  | climb {pieces names : List String} (before : Leaves pieces names) :
    Leaves (pieces ++ [".."]) names.dropLast
  | enter {pieces names : List String} {piece : String} (before : Leaves pieces names)
    (busy : piece ≠ "" ∧ piece ≠ ".") (noClimb : piece ≠ "..") : Leaves (pieces ++ [piece]) (names ++ [piece])

section Joining

variable {path other : Path}

/-- The text of a path is separated as a whole where its end is. -/
theorem separated_append (text more : String) :
    separated (separated text ++ more) = separated text ++ separated more := by
  by_cases empty : more = ""
  · -- A separated text needs no other slash.
    have nothing : separated "" = "" := rfl
    have settled : separated (separated text) = separated text := by
      by_cases closed : text = "" ∨ text.toList.getLast? = some '/'
      · have same : separated text = text := by simp [separated, closed]
        rw [same, same]
      · have longer : separated text = text ++ "/" := by simp [separated, closed]
        rw [longer]
        simp [separated]
    rw [empty, nothing, String.append_empty, settled]
  · have named : more.toList ≠ [] := mt String.toList_eq_nil_iff.mp empty
    have ends := List.getLast?_eq_some_getLast named
    -- Whatever stands in front, the end is that of the text behind it.
    have behind (front : String) : separated (front ++ more) = front ++ separated more := by
      have whole : front ++ more ≠ "" := fun none => empty (String.append_eq_empty_iff.mp none).2
      have closes : (front ++ more).toList.getLast? = more.toList.getLast? := by
        rw [String.toList_append, List.getLast?_append, ends, Option.some_or]
      rw [separated, separated, beq_eq_false_iff_ne.mpr whole, beq_eq_false_iff_ne.mpr empty, closes]
      split
      · rfl
      · exact String.append_assoc ..
    exact behind _

/-- It makes no difference which of three paths are joined first. -/
theorem join_join (directory path other : Path) :
    (directory.join path).join other = directory.join (path.join other) := by
  cases starts : other.isAbsolute with
  | true => simp [join, starts]
  | false =>
    -- A path in the middle that starts over hides what is in front of it.
    cases absolute : path.isAbsolute with
    | true =>
      have whole : (path.join other).isAbsolute = true := by rw [isAbsolute_join starts, absolute]
      rw [join.eq_def directory path, if_pos absolute, join.eq_def directory (path.join other), if_pos whole]
    | false =>
      have relative : (path.join other).isAbsolute = false := by rw [isAbsolute_join starts, absolute]
      rw [Path.mk.injEq, join_text _ starts, join_text _ absolute, join_text _ relative, join_text _ starts,
        separated_append, String.append_assoc]

/-- The components of a path from the root are those of its segments. -/
theorem components_of_isAbsolute (absolute : path.isAbsolute = true) :
    path.components = .root :: busyComponents (Text.split '/' path.text) := by
  rw [components_eq, frontComponents, if_pos absolute]
  rfl

/-- The components of what is joined to a path from the root come behind those of the path. -/
theorem components_join_of_isAbsolute (absolute : path.isAbsolute = true) (relative : other.isAbsolute = false) :
    (path.join other).components = path.components ++ busyComponents (Text.split '/' other.text) := by
  -- Joined, the text is one behind the other with a slash between, and only the first has a root.
  rw [components_of_isAbsolute (isAbsolute_join_left absolute other), components_of_isAbsolute absolute,
    busyComponents_split, join_text path relative, segments_separated, busyComponents_append,
    ← busyComponents_split, ← busyComponents_split, List.cons_append]

end Joining

section Resolving

variable {pieces names : List String} {directory path : Path}

/-- What comes first is resolved first. -/
theorem resolveOnto_append (kept first more : List Component) :
    resolveOnto kept (first ++ more) = resolveOnto (resolveOnto kept first).reverse more := by
  -- The recursion of the first list, with the second left over at its end.
  fun_induction resolveOnto kept first with
  | case1 kept => rw [List.nil_append, List.reverse_reverse]
  | case2 kept rest ih => rw [List.cons_append, resolveOnto, ih]
  | case3 rest name below ih => rw [List.cons_append, resolveOnto, ih]
  | case4 rest kept noName ih => rw [List.cons_append, resolveOnto.eq_4 _ _ noName, ih]
  | case5 kept component rest noDot noClimb ih =>
    rw [List.cons_append, resolveOnto.eq_5 _ _ _ noDot noClimb, ih]

/-- Names behind the root are resolved. -/
theorem resolveOnto_settled (names : List String) :
    resolveOnto [] (.root :: names.map .name) = .root :: names.map .name := by
  -- From the root on each name is entered and kept.
  have ending := resolveOnto_names [.root] names []
  rw [List.append_nil] at ending
  rw [resolveOnto_root, ending]
  simp [resolveOnto]

/-- Behind the root, resolving leaves the names that are left. -/
theorem Leaves.resolveOnto (leaves : Leaves pieces names) :
    resolveOnto [] (.root :: busyComponents pieces) = .root :: names.map .name := by
  induction leaves with
  | start => rfl
  | skip before idle ih =>
    rename_i piece
    have nothing : busyComponents [piece] = [] := by rcases idle with rfl | rfl <;> rfl
    rw [busyComponents_append, nothing, List.append_nil, ih]
  | @climb pieces names before ih =>
    have up : busyComponents [".."] = [.parent] := rfl
    rw [busyComponents_append, up, ← List.cons_append, resolveOnto_append, ih]
    -- The last name that is left is the nearest one.
    rcases List.eq_nil_or_concat names with rfl | ⟨init, last, rfl⟩
    · rfl
    · simp [Path.resolveOnto]
  | @enter pieces names piece before busy noClimb ih =>
    have down : busyComponents [piece] = [.name piece] := by
      simp [busyComponents, isIdle, segmentComponent, busy, noClimb]
    rw [busyComponents_append, down, ← List.cons_append, resolveOnto_append, ih]
    simp [Path.resolveOnto]

/-- Something is left of any pieces, be it no name. -/
theorem exists_leaves (pieces : List String) : ∃ names, Leaves pieces names := by
  -- The last piece is read last.
  induction pieces using List.reverseRecOn with
  | nil => exact ⟨[], .start⟩
  | append_singleton pieces piece ih =>
    obtain ⟨names, before⟩ := ih
    by_cases idle : piece = "" ∨ piece = "."
    · exact ⟨names, .skip before idle⟩
    · by_cases climbs : piece = ".."
      · exact ⟨names.dropLast, climbs ▸ .climb before⟩
      · exact ⟨names ++ [piece], .enter before (not_or.mp idle) climbs⟩

/-- The names that are left are pieces, and components of paths if no piece holds a slash. -/
theorem Leaves.plain (leaves : Leaves pieces names) (apart : ∀ piece ∈ pieces, '/' ∉ piece.toList) :
    ∀ name ∈ names, (Component.name name).IsPlain := by
  -- A name is entered only for a segment that is neither idle nor a climb.
  induction leaves with
  | start => simp
  | skip before idle ih => exact ih (List.forall_mem_append.mp apart).1
  | climb before ih =>
    exact fun name member => ih (List.forall_mem_append.mp apart).1 name (List.dropLast_subset _ member)
  | enter before busy noClimb ih =>
    obtain ⟨earlier, last⟩ := List.forall_mem_append.mp apart
    refine List.forall_mem_append.mpr ⟨ih earlier, List.forall_mem_singleton.mpr ?_⟩
    exact ⟨busy.1, busy.2, noClimb, last _ List.mem_cons_self⟩

/-- The absolute form of a path has the names that are left of the whole path, and no others. -/
theorem absolutize_of_leaves (absolute : directory.isAbsolute = true)
    (leaves : Leaves (Text.split '/' (directory.join path).text) names) :
    absolutize directory path = ofComponents (.root :: names.map .name) ∧
      (absolutize directory path).components = .root :: names.map .name := by
  -- Resolving gives the root and the names left, and these are read back from the joined text.
  have form : absolutize directory path = ofComponents (.root :: names.map .name) := by
    rw [absolutize, components_of_isAbsolute (isAbsolute_join_left absolute path), leaves.resolveOnto]
  refine ⟨form, ?_⟩
  rw [form]
  exact components_ofComponents_root (by simpa using leaves.plain fun _ => Text.separator_notMem)

/-- The names that are left of the whole path are those behind the root in its absolute form. -/
theorem leaves_iff (absolute : directory.isAbsolute = true) :
    Leaves (Text.split '/' (directory.join path).text) names ↔
      (absolutize directory path).components = .root :: names.map .name := by
  refine ⟨fun leaves => (absolutize_of_leaves absolute leaves).2, fun same => ?_⟩
  obtain ⟨left, leaves⟩ := exists_leaves (Text.split '/' (directory.join path).text)
  have read := (absolutize_of_leaves absolute leaves).2
  rw [same] at read
  -- There is one list of names for the components.
  have equal := (List.map_inj_right fun _ _ equal => Component.name.inj equal).mp (List.cons.inj read).2
  exact equal ▸ leaves

/-- A path from the root is resolved where it stands. -/
theorem absolutize_of_isAbsolute (directory : Path) (absolute : path.isAbsolute = true) :
    absolutize directory path = ofComponents (resolveOnto [] path.components) := by
  rw [absolutize, join, if_pos absolute]

/-- A path with names alone behind the root is resolved. -/
theorem Descends.resolveOnto (descends : path.Descends) :
    resolveOnto [] path.components = path.components := by
  -- Names alone are entered one by one, and none is left again.
  obtain ⟨names, components, -⟩ := descends.components
  rw [components, resolveOnto_settled]

/-- The absolute form of a path goes down from the root. -/
theorem descends_absolutize (absolute : directory.isAbsolute = true) (path : Path) :
    (absolutize directory path).Descends := by
  -- The components are the root and names, so there is no dot and no climb.
  obtain ⟨names, leaves⟩ := exists_leaves (Text.split '/' (directory.join path).text)
  obtain ⟨-, components⟩ := absolutize_of_leaves absolute leaves
  refine ⟨root_mem_components.mp (components ▸ List.mem_cons_self), fun c member => ?_⟩
  rw [components] at member
  rcases List.mem_cons.mp member with rfl | named
  · simp
  · obtain ⟨name, -, rfl⟩ := List.mem_map.mp named
    simp

/-- The components of the absolute form are the resolved ones of the whole path. -/
theorem components_absolutize_eq (absolute : directory.isAbsolute = true) (path : Path) :
    (absolutize directory path).components = Path.resolveOnto [] (directory.join path).components := by
  -- Both sides are the root and the names left.
  obtain ⟨names, leaves⟩ := exists_leaves (Text.split '/' (directory.join path).text)
  rw [(absolutize_of_leaves absolute leaves).2,
    components_of_isAbsolute (isAbsolute_join_left absolute path), leaves.resolveOnto]

end Resolving

/--
The absolute form of a path is a normal form. Seen from a directory whose path begins at the root, it
begins at the root, too, and has neither dots nor climbing in it; it is its own absolute form; what is
joined to it has the same absolute form as when it is joined to the path itself; and behind the root its
components are the names that are left when the whole path is read from the root.
-/
theorem absolutize_normal_form {directory : Path} (absolute : directory.isAbsolute = true) (path other : Path) :
    (absolutize directory path).Descends ∧
    absolutize directory (absolutize directory path) = absolutize directory path ∧
    absolutize directory ((absolutize directory path).join other) = absolutize directory (path.join other) ∧
    ∀ names, Leaves (Text.split '/' (directory.join path).text) names ↔
      (absolutize directory path).components = .root :: names.map .name := by
  have descends := descends_absolutize absolute path
  have components := components_absolutize_eq absolute path
  refine ⟨descends, ?_, ?_, fun names => leaves_iff absolute⟩
  · -- What goes down from the root is resolved already.
    rw [absolutize_of_isAbsolute directory descends.1, descends.resolveOnto, components, absolutize]
  · cases starts : other.isAbsolute with
    | true =>
      -- A path that starts over makes no use of what it is joined to.
      rw [join, if_pos starts, join, if_pos starts]
    | false =>
      -- The components of the other path are resolved last, onto the same names either way.
      have whole := isAbsolute_join_left descends.1 other
      have fromRoot := isAbsolute_join_left absolute path
      rw [absolutize_of_isAbsolute directory whole, components_join_of_isAbsolute descends.1 starts,
        resolveOnto_append, descends.resolveOnto, components, ← resolveOnto_append,
        ← components_join_of_isAbsolute fromRoot starts, join_join, ← absolutize]

/-- A path that climbs over the root, seen from a directory that is written with dots itself. -/
theorem absolutize_over_root :
    let directory : Path := ⟨"/repo/./infra"⟩
    let path : Path := ⟨"../../..//./a/b/../c/"⟩
    directory.isAbsolute = true ∧ (absolutize directory path).Descends ∧
      absolutize directory ((absolutize directory path).join ⟨"../d"⟩) = ⟨"/a/d"⟩ ∧
      Leaves (Text.split '/' (directory.join path).text) ["a", "c"] := by
  -- The climbs go above the root and stay there; the names left are found by evaluation.
  intro directory path
  have absolute : directory.isAbsolute = true := by decide
  obtain ⟨descends, -, joins, leaves⟩ := absolutize_normal_form absolute path ⟨"../d"⟩
  exact ⟨absolute, descends, joins.trans (by decide), (leaves _).mpr (by decide)⟩

end TemplateFacts.Path
