import TemplateFacts.Proofs.Path

/-!
The components of paths under joining and climbing: what is joined to a path comes behind its
components, and the parent of a path that ends in a name has all of them but that name.
-/

namespace TemplateFacts

namespace Text

/-- Texts that do not hold a slash are what their join is split into. -/
theorem split_join {pieces : List String} (some : pieces ≠ [])
    (apart : ∀ piece ∈ pieces, '/' ∉ piece.toList) : split '/' (join "/" pieces) = pieces :=
  split_join_singleton some apart

/-- A text is the join of its pieces between slashes. -/
theorem join_split (s : String) : join "/" (split '/' s) = s := join_singleton_split '/' s

/-- The first of several texts is joined to the others by a separator. -/
theorem join_cons (piece : String) {others : List String} (some : others ≠ []) :
    join "/" (piece :: others) = piece ++ "/" ++ join "/" others := by
  obtain ⟨next, others, rfl⟩ := List.exists_cons_of_ne_nil some
  rw [join, join, String.intercalate_cons_cons]

/-- A join of two lists of texts has one more separator between the two. -/
theorem join_append {first more : List String} (some : first ≠ []) (others : more ≠ []) :
    join "/" (first ++ more) = join "/" first ++ "/" ++ join "/" more := by
  induction first with
  | nil => exact absurd rfl some
  | cons piece first ih =>
    rw [List.cons_append, join_cons piece (by simp [others])]
    -- The last of the first texts is the one in front of the new separator.
    by_cases last : first = []
    · simp [last, join]
    · rw [ih last, join_cons piece last]
      simp [String.append_assoc]

end Text

namespace Path

/-- The components that segments name, idle ones being left out. -/
def busyComponents (segments : List String) : List Component :=
  (segments.filter fun s => !isIdle s).map segmentComponent

@[simp] theorem busyComponents_append (first more : List String) :
    busyComponents (first ++ more) = busyComponents first ++ busyComponents more := by
  simp [busyComponents]

/-- Idle segments at the end name nothing. -/
theorem busyComponents_dropIdleEnd (segments : List String) :
    busyComponents (dropIdleEnd segments) = busyComponents segments := by
  -- The segments that are dropped are all idle.
  have whole : segments = dropIdleEnd segments ++ (segments.reverse.takeWhile isIdle).reverse := by
    rw [dropIdleEnd, ← List.reverse_append, List.takeWhile_append_dropWhile, List.reverse_reverse]
  have idle : busyComponents (segments.reverse.takeWhile isIdle).reverse = [] := by
    simp only [busyComponents, List.map_eq_nil_iff, List.filter_eq_nil_iff, List.mem_reverse]
    intro segment member
    simp [List.all_eq_true.mp List.all_takeWhile segment member]
  calc busyComponents (dropIdleEnd segments)
      = busyComponents (dropIdleEnd segments ++ (segments.reverse.takeWhile isIdle).reverse) := by
        rw [busyComponents_append, idle, List.append_nil]
    _ = busyComponents segments := by rw [← whole]

/-- The root or the dot in front of a path, as a component. -/
def frontComponents (path : Path) : List Component :=
  if path.isAbsolute then [.root] else if path.startsAtDot then [.current] else []

/-- The front of a path is no part of its components behind it, however it is cut off. -/
theorem bodyComponents_eq (path : Path) :
    path.bodyComponents = busyComponents (Text.split '/' path.text) := by
  have pieces (cs : List Char) : Text.split '/' (String.ofList ('/' :: cs)) =
      "" :: Text.split '/' (String.ofList cs) := by
    simp [Text.split, Text.splitChars]
  rw [bodyComponents, segments, front]
  show busyComponents _ = _
  -- The pieces of the whole text have an idle one more where the front was.
  by_cases absolute : path.isAbsolute = true
  · -- The slash in front makes an empty piece.
    obtain ⟨cs, chars⟩ : ∃ cs, path.text.toList = '/' :: cs := by
      rw [isAbsolute, beq_iff_eq] at absolute
      exact List.head?_eq_some_iff.mp absolute
    have text : path.text = String.ofList ('/' :: cs) := by rw [← chars, String.ofList_toList]
    have behind : List.drop "/".length ('/' :: cs) = cs := rfl
    rw [if_pos absolute, chars, text, pieces, behind]
    simp [busyComponents, isIdle]
  · rw [if_neg absolute]
    by_cases dotted : path.startsAtDot = true
    · rw [if_pos dotted]
      rw [startsAtDot] at dotted
      split at dotted
      · -- The path is a single dot, and has no piece behind it.
        rename_i chars
        have text : path.text = "." := by rw [← String.toList_inj, chars]; rfl
        rw [chars, text]
        decide
      · -- The dot in front is a piece that is idle.
        rename_i cs chars
        have text : path.text = String.ofList ('.' :: '/' :: cs) := by
          rw [← chars, String.ofList_toList]
        have behind : List.drop ".".length ('.' :: '/' :: cs) = '/' :: cs := rfl
        rw [chars, text, behind]
        simp [busyComponents, isIdle, Text.split, Text.splitChars]
      · cases dotted
    · rw [if_neg dotted]
      simp

/-- The components of a path are its front and those behind it. -/
theorem components_eq (path : Path) : path.components =
    path.frontComponents ++ busyComponents (Text.split '/' path.text) := by
  -- In each case of the front the body is the same.
  rw [components, bodyComponents_eq, frontComponents]
  split
  · rfl
  · split <;> rfl

/-- What comes behind a path leaves its front alone, unless it makes a dot the beginning of a name. -/
theorem frontComponents_append {path longer : Path} {more : List Char}
    (text : longer.text.toList = path.text.toList ++ more) (nonempty : path.text.toList ≠ [])
    (stops : path.text.toList = ['.'] → ∀ c, more.head? = some c → c = '/') :
    longer.frontComponents = path.frontComponents := by
  -- Without a first character there is no front to speak of.
  cases chars : path.text.toList with
  | nil => exact absurd chars nonempty
  | cons c cs =>
    rw [chars, List.cons_append] at text
    have absolute : longer.isAbsolute = path.isAbsolute := by
      rw [isAbsolute, isAbsolute, text, chars]
      rfl
    have dotted : longer.startsAtDot = path.startsAtDot := by
      rw [startsAtDot, startsAtDot, text, chars]
      cases cs with
      | cons d ds =>
        -- Two characters decide.
        by_cases dot : c = '.' <;> by_cases slash : d = '/' <;> simp [dot, slash]
      | nil =>
        -- One character alone is a front only if a slash follows the dot.
        cases more with
        | nil => rfl
        | cons d more =>
          by_cases dot : c = '.'
          · subst dot
            obtain rfl := stops chars d rfl
            simp
          · simp [dot]
    rw [frontComponents, frontComponents, absolute, dotted]

/-- A path that is relative and has no dot of its own has nothing in front of its components. -/
theorem components_of_relative {path : Path} (relative : path.isAbsolute = false)
    (undotted : path.startsAtDot = false) :
    path.components = busyComponents (Text.split '/' path.text) := by
  rw [components_eq, frontComponents, relative, undotted]
  rfl

/-- The components of what is joined to a path come behind those of the path. -/
theorem components_join (path : Path) {other : Path} (relative : other.isAbsolute = false)
    (undotted : other.startsAtDot = false) :
    (path.join other).components = path.components ++ other.components := by
  rw [components_of_relative relative undotted, join, relative, if_neg Bool.false_ne_true]
  have split_eq (s : String) : Text.split '/' s =
      (Text.splitChars (· == '/') s.toList).map String.ofList := rfl
  by_cases empty : path.text = ""
  · -- The empty path has no components.
    have nothing : path = ⟨""⟩ := by rw [← empty]
    have none : (⟨""⟩ : Path).components = [] := by decide
    rw [nothing, none]
    -- An empty path adds nothing to what is joined to it.
    have same : (⟨"" ++ other.text⟩ : Path) = other := by rw [String.empty_append]
    rw [if_pos (by rfl), same, components_of_relative relative undotted]
    rfl
  · have nonempty : path.text.toList ≠ [] := fun none => empty (String.toList_eq_nil_iff.mp none)
    have named : (path.text == "") = false := beq_eq_false_iff_ne.mpr empty
    rw [named, Bool.false_or, components_eq path, List.append_assoc, ← busyComponents_append]
    split
    · -- The slash at the end of the path already separates the two.
      rename_i slash
      obtain ⟨front, chars⟩ := List.getLast?_eq_some_iff.mp (beq_iff_eq.mp slash)
      have kept : (⟨path.text ++ other.text⟩ : Path).frontComponents = path.frontComponents :=
        frontComponents_append String.toList_append nonempty fun dot => by
          rw [chars] at dot
          simp [List.append_eq_cons_iff] at dot
      rw [components_eq, kept]
      refine congrArg (path.frontComponents ++ ·) ?_
      simp only [split_eq, String.toList_append, chars, List.append_assoc, List.singleton_append]
      rw [Text.splitChars_separator _ (by rfl), Text.splitChars_separator _ (by rfl)]
      simp [busyComponents, isIdle, Text.splitChars]
    · -- A slash is put between the two.
      have chars : (path.text ++ "/" ++ other.text).toList =
          path.text.toList ++ '/' :: other.text.toList := by simp
      have kept : (⟨path.text ++ "/" ++ other.text⟩ : Path).frontComponents = path.frontComponents :=
        frontComponents_append chars nonempty fun _ c first => (Option.some.inj first).symm
      rw [components_eq, kept]
      refine congrArg (path.frontComponents ++ ·) ?_
      rw [split_eq, chars, Text.splitChars_separator _ (by rfl), List.map_append]
      rfl

/-- A plain component is a relative path of its own. -/
theorem plain_text {c : Component} (plain : c.IsPlain) :
    (⟨c.text⟩ : Path).isAbsolute = false ∧ (⟨c.text⟩ : Path).startsAtDot = false ∧
      (⟨c.text⟩ : Path).components = [c] := by
  have begins : (⟨c.text⟩ : Path).Begins c := ⟨[], by simp, by simp⟩
  obtain ⟨relative, undotted⟩ := begins.front plain
  obtain ⟨busy, noSlash, stands⟩ := plain.text
  refine ⟨relative, undotted, ?_⟩
  -- Without a slash the text is its only piece.
  have alone : Text.split '/' c.text = [c.text] := by
    have none : ∀ d ∈ c.text.toList, (d == '/') = false := fun d member =>
      beq_eq_false_iff_ne.mpr fun same => noSlash (same ▸ member)
    simp only [Text.split]
    rw [Text.splitChars_whole none]
    simp
  rw [components_of_relative relative undotted, alone]
  simp [busyComponents, busy, stands]

/-- A name without a slash that is longer than the dots is a plain component. -/
theorem isPlain_of_length {name : String} (long : 2 < name.length) (noSlash : '/' ∉ name.toList) :
    (Component.name name).IsPlain := by
  -- The names with a meaning of their own are at most two characters long.
  have longer {s : String} (short : s.length ≤ 2) : name ≠ s := by
    rintro rfl
    omega
  have noEmpty : name ≠ "" := longer (by decide)
  have noDot : name ≠ "." := longer (by decide)
  have noClimb : name ≠ ".." := longer (by decide)
  exact ⟨noEmpty, noDot, noClimb, noSlash⟩

/-- Joining a plain component adds it. -/
theorem components_join_plain (path : Path) {c : Component} (plain : c.IsPlain) :
    (path.join ⟨c.text⟩).components = path.components ++ [c] := by
  -- A plain component neither starts again at the root nor is idle.
  obtain ⟨relative, undotted, alone⟩ := plain_text plain
  rw [components_join path relative undotted, alone]

/-- Joining plain components one after the other adds them all. -/
theorem components_foldl_join (path : Path) {cs : List Component} (plain : ∀ c ∈ cs, c.IsPlain) :
    (cs.foldl (fun path c => path.join ⟨c.text⟩) path).components = path.components ++ cs := by
  -- Each plain component is added at the end.
  induction cs generalizing path with
  | nil => simp
  | cons c cs ih =>
    obtain ⟨first, rest⟩ := List.forall_mem_cons.mp plain
    rw [List.foldl_cons, ih (path.join ⟨c.text⟩) rest, components_join_plain path first]
    simp

/-- The path of plain components has just these. -/
theorem components_ofComponents {cs : List Component} (plain : ∀ c ∈ cs, c.IsPlain) :
    (ofComponents cs).components = cs := by
  rw [ofComponents, components_foldl_join _ plain]
  rfl

/-- The text of a path is its front and what is behind it. -/
theorem text_eq (path : Path) : path.text = path.front ++ Text.join "/" path.segments := by
  rw [segments, Text.join_split, ← String.toList_inj, String.toList_append, String.toList_ofList]
  -- The front is what the text begins with.
  have begins : path.text.toList = path.front.toList ++ path.text.toList.drop path.front.length := by
    rw [front]
    split
    · rename_i absolute
      obtain ⟨cs, chars⟩ := List.head?_eq_some_iff.mp (beq_iff_eq.mp absolute)
      rw [chars]
      rfl
    · split
      · rename_i dotted
        rw [startsAtDot] at dotted
        split at dotted
        · rename_i chars
          rw [chars]
          rfl
        · rename_i cs chars
          rw [chars]
          rfl
        · cases dotted
      · simp
  exact begins

/-- Behind the dot of a path there is nothing, or a slash. -/
theorem segments_of_dotted {path : Path} (relative : path.isAbsolute = false)
    (dotted : path.startsAtDot = true) : path.segments.head? = some "" := by
  -- A relative path that starts at a dot begins with an empty segment, once the dot is cut off.
  rw [segments, front, relative, dotted]
  rw [startsAtDot] at dotted
  split at dotted
  · rename_i chars
    rw [chars]
    rfl
  · rename_i cs chars
    have behind : List.drop ".".length ('.' :: '/' :: cs) = '/' :: cs := rfl
    simp [chars, behind, Text.split, Text.splitChars]
  · cases dotted

/-- The end that is left has no idle segment behind it. -/
theorem getLast?_dropIdleEnd (segments : List String) (segment : String)
    (last : (dropIdleEnd segments).getLast? = some segment) : isIdle segment = false := by
  -- What stops the cut is a segment that is not idle.
  rw [dropIdleEnd, List.getLast?_reverse] at last
  have stops := List.head?_dropWhile_not isIdle segments.reverse
  rw [last] at stops
  exact stops

/-- What is left without the idle end is the beginning. -/
theorem dropIdleEnd_prefix (segments : List String) : dropIdleEnd segments <+: segments := by
  -- What is cut off are segments at the end.
  rw [dropIdleEnd, ← List.reverse_suffix, List.reverse_reverse]
  exact List.dropWhile_suffix isIdle

/-- Behind the front of a path, segments name what they do alone; behind a dot the first has to be empty. -/
theorem busyComponents_front {path : Path} {kept : List String} (some : kept ≠ [])
    (apart : ∀ piece ∈ kept, '/' ∉ piece.toList)
    (opens : path.isAbsolute = false → path.startsAtDot = true → kept.head? = .some "") :
    busyComponents (Text.split '/' (path.front ++ Text.join "/" kept)) = busyComponents kept := by
  rw [front]
  split
  · -- The root is an empty segment more.
    have joined : "/" ++ Text.join "/" kept = Text.join "/" ("" :: kept) := by
      rw [Text.join_cons "" some, String.empty_append]
    rw [joined, Text.split_join (by simp) (List.forall_mem_cons.mpr ⟨by simp, apart⟩)]
    simp [busyComponents, isIdle]
  · rename_i relative
    split
    · -- The first segment is empty, and the dot stands in its place.
      rename_i dotted
      obtain ⟨rest, rfl⟩ := List.head?_eq_some_iff.mp (opens (Bool.eq_false_iff.mpr relative) dotted)
      obtain ⟨-, apart⟩ := List.forall_mem_cons.mp apart
      have joined : "." ++ Text.join "/" ("" :: rest) = Text.join "/" ("." :: rest) := by
        by_cases last : rest = []
        · rw [last]
          rfl
        · rw [Text.join_cons "" last, Text.join_cons "." last, String.empty_append, String.append_assoc]
      rw [joined, Text.split_join (by simp) (List.forall_mem_cons.mpr ⟨by decide, apart⟩)]
      simp [busyComponents, isIdle]
    · -- There is no front, and the pieces are the segments themselves.
      rw [String.empty_append, Text.split_join some apart]

/-- A path that is cut off behind a segment that is not idle has the components up to there. -/
theorem components_cut {path : Path} {kept cut : List String} (whole : path.segments = kept ++ cut)
    (others : cut ≠ []) (ends : ∀ segment, kept.getLast? = some segment → isIdle segment = false) :
    (⟨path.front ++ Text.join "/" kept⟩ : Path).components =
      path.frontComponents ++ busyComponents kept := by
  have apart : ∀ piece ∈ kept, '/' ∉ piece.toList := fun piece member =>
    Text.separator_notMem (by rw [← segments, whole]; exact List.mem_append_left _ member)
  cases end_eq : kept.getLast? with
  | none =>
    -- Nothing but the front is left.
    obtain rfl := List.getLast?_eq_none_iff.mp end_eq
    rw [front, frontComponents]
    split
    · decide
    · split <;> decide
  | some last =>
    have busy : isIdle last = false := ends last end_eq
    obtain ⟨init, rfl⟩ := List.getLast?_eq_some_iff.mp end_eq
    have named : last ≠ "" := by
      rintro rfl
      exact absurd busy (by decide)
    have written : Text.join "/" (init ++ [last]) ≠ "" := by
      rcases init with _ | ⟨first, init⟩
      · simpa [Text.join] using named
      · rw [Text.join_append (by simp) (by simp)]
        simp [String.append_eq_empty_iff]
    -- The text of the path goes on with a slash.
    have text : path.text = path.front ++ Text.join "/" (init ++ [last]) ++ "/" ++ Text.join "/" cut := by
      rw [text_eq path, whole, Text.join_append (by simp) others]
      simp [String.append_assoc]
    have front_eq : path.frontComponents =
        (⟨path.front ++ Text.join "/" (init ++ [last])⟩ : Path).frontComponents := by
      have chars : path.text.toList = (path.front ++ Text.join "/" (init ++ [last])).toList ++
          '/' :: (Text.join "/" cut).toList := by
        rw [text]
        simp
      refine frontComponents_append chars ?_ fun _ c first => (Option.some.inj first).symm
      rw [ne_eq, String.toList_eq_nil_iff, String.append_eq_empty_iff]
      exact fun both => written both.2
    rw [components_eq, ← front_eq, busyComponents_front (by simp) apart fun relative dotted => ?_]
    -- The first of the segments is among those that are left.
    have first := segments_of_dotted relative dotted
    rw [whole, List.head?_append] at first
    cases init with
    | nil => simpa using first
    | cons head init => simpa using first

/-- A path that ends in a plain component has a parent, which has all its components but that one. -/
theorem parent?_of_last {path : Path} {c : Component} (plain : c.IsPlain)
    (ends : path.components.getLast? = some c) :
    ∃ folder, path.parent? = some folder ∧ path.components = folder.components ++ [c] := by
  -- The component is the last of the segments that are not idle.
  have components : path.components =
      path.frontComponents ++ busyComponents (dropIdleEnd path.segments) := by
    rw [busyComponents_dropIdleEnd, components_eq, ← bodyComponents_eq]
    rfl
  obtain ⟨cut, whole⟩ := dropIdleEnd_prefix path.segments
  have last := getLast?_dropIdleEnd path.segments
  delta parent?
  cases end_eq : (dropIdleEnd path.segments).getLast? with
  | none =>
    -- Nothing but the front would be left, which is not plain.
    rw [components, List.getLast?_eq_none_iff.mp end_eq, frontComponents] at ends
    split at ends
    · obtain rfl : Component.root = c := Option.some.inj ends
      exact plain.elim
    · split at ends
      · obtain rfl : Component.current = c := Option.some.inj ends
        exact plain.elim
      · cases ends
  | some segment =>
    have busy : isIdle segment = false := last segment end_eq
    obtain ⟨init, some⟩ := List.getLast?_eq_some_iff.mp end_eq
    rw [some] at components last whole ⊢
    -- Idle segments in front of the component are cut off with it.
    obtain ⟨rest, begins⟩ := dropIdleEnd_prefix init
    refine ⟨⟨path.front ++ Text.join "/" (dropIdleEnd init)⟩, ?_, ?_⟩
    · split
      · rename_i none
        simp at none
      · simp
    · have kept : (⟨path.front ++ Text.join "/" (dropIdleEnd init)⟩ : Path).components =
          path.frontComponents ++ busyComponents (dropIdleEnd init) := by
        have parts : path.segments = dropIdleEnd init ++ (rest ++ [segment] ++ cut) := by
          rw [← whole, ← List.append_assoc, ← List.append_assoc, begins]
        exact components_cut parts (by simp) (getLast?_dropIdleEnd init)
      have named : busyComponents [segment] = [c] := by
        rw [components, busyComponents_append, ← List.append_assoc] at ends
        simp only [busyComponents, busy, List.filter_cons, Bool.not_false, if_true, List.filter_nil,
          List.map_cons, List.map_nil, List.getLast?_append, List.getLast?_singleton] at ends ⊢
        simpa using ends
      rw [kept, components, busyComponents_append, named, busyComponents_dropIdleEnd,
        List.append_assoc]

/-- A path that ends in a name has a parent, which has all its components but that name. -/
theorem parent?_of_fileName? {path : Path} {name : String} (named : path.fileName? = some name) :
    ∃ folder, path.parent? = some folder ∧ path.components = folder.components ++ [.name name] := by
  have ends : path.components.getLast? = some (.name name) := by
    rw [fileName?] at named
    split at named
    · rename_i last
      rw [last, Option.some.inj named]
    · cases named
  -- A name is never in front of a path.
  have inBody : .name name ∈ path.bodyComponents := by
    have member := List.mem_of_getLast? ends
    rw [components] at member
    split at member
    · simpa using member
    · split at member
      · simpa using member
      · exact member
  exact parent?_of_last (isPlain_of_mem_bodyComponents inBody) ends

/-- A path from the root has the root among its components, and no other path has. -/
theorem root_mem_components {path : Path} : .root ∈ path.components ↔ path.isAbsolute = true := by
  -- The root is only ever put in front, for an absolute path.
  rw [components]
  have noRoot : .root ∉ path.bodyComponents := fun member => isPlain_of_mem_bodyComponents member
  split
  · rename_i absolute
    exact iff_of_true List.mem_cons_self absolute
  · rename_i relative
    refine iff_of_false ?_ relative
    split <;> simp [noRoot]

/-- The component that a dot in front stands for is in front only. -/
theorem startsAtDot_of_current_notMem {path : Path} (none : .current ∉ path.components)
    (relative : path.isAbsolute = false) : path.startsAtDot = false := by
  -- A relative path that starts at a dot has the current directory in front.
  rw [components, relative, if_neg Bool.false_ne_true] at none
  cases dotted : path.startsAtDot with
  | false => rfl
  | true =>
    rw [dotted, if_pos rfl] at none
    exact absurd List.mem_cons_self none

/-- A path of plain components is relative, and has no dot of its own. -/
theorem relative_of_plain {path : Path} (plain : ∀ c ∈ path.components, c.IsPlain) :
    path.isAbsolute = false ∧ path.startsAtDot = false := by
  -- Neither the root nor a dot is plain.
  have relative : path.isAbsolute = false := by
    rw [Bool.eq_false_iff, ne_eq, ← root_mem_components]
    exact fun member => plain _ member
  exact ⟨relative, startsAtDot_of_current_notMem (fun member => plain _ member) relative⟩

/-- From a base, what lies below it is seen as the names that lead down to it. -/
theorem relativeTo_below {base target : Path} {below : List Component}
    (plain : ∀ c ∈ below, c.IsPlain) (components : target.components = base.components ++ below) :
    relativeTo base target = ofComponents below := by
  -- The steps to the target are those to the base and then those below it.
  have kept : below.filter (· ≠ .current) = below := List.filter_eq_self.mpr fun c member => by
    cases c with
    | current => exact (plain _ member).elim
    | _ => rfl
  have goal : target.steps = base.steps ++ below := by rw [steps, steps, components, List.filter_append, kept]
  have relative : (base.steps.length == 0 && target.isAbsolute) = false := by
    rw [Bool.and_eq_false_iff]
    by_cases absolute : target.isAbsolute = true
    · -- The root of the target is that of the base.
      left
      have inside := root_mem_components.mpr absolute
      rw [components, List.mem_append] at inside
      have rooted : .root ∈ base.components := inside.resolve_right fun member => plain _ member
      have step : .root ∈ base.steps := List.mem_filter.mpr ⟨rooted, by simp⟩
      rw [beq_eq_false_iff_ne, ne_eq, List.length_eq_zero_iff]
      exact List.ne_nil_of_mem step
    · exact .inr (Bool.eq_false_iff.mpr absolute)
  rw [relativeTo_eq, goal, commonLength_append, relative, if_neg Bool.false_ne_true]
  simp

end Path

end TemplateFacts
