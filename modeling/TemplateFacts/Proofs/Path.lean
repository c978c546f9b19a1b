import TemplateFacts.Path
import TemplateFacts.Proofs.Text.Split
import TemplateFacts.SourceFile

/-!
When paths leave nothing to write: the path from one place to another is empty only if both have the
same components, and the stem of a source is empty only if its path ends in no name.
-/

namespace TemplateFacts

namespace Text

/-- The first piece ends where the first separator stands. -/
theorem splitChars_append {test : Char → Bool} {first more : List Char}
    (none : ∀ c ∈ first, test c = false) (stops : ∀ c, more.head? = some c → test c = true) :
    ∃ pieces, splitChars test (first ++ more) = first :: pieces := by
  -- By induction on the piece, none of whose characters is a separator.
  induction first with
  | nil =>
    cases more with
    | nil => exact ⟨[], rfl⟩
    | cons c more =>
      refine ⟨splitChars test more, ?_⟩
      rw [List.nil_append, splitChars, if_pos (stops c rfl)]
  | cons c first ih =>
    obtain ⟨pieces, split⟩ := ih fun d member => none d (List.mem_cons_of_mem _ member)
    refine ⟨pieces, ?_⟩
    rw [List.cons_append, splitChars, none c List.mem_cons_self, split]
    rfl

/-- Joined texts are not empty when the first of them is not. -/
theorem join_ne_empty {separator first : String} (pieces : List String) (some : first ≠ "") :
    join separator (first :: pieces) ≠ "" := by
  -- The first piece is in front whatever comes behind it.
  cases pieces with
  | nil => rwa [join, String.intercalate_singleton]
  | cons piece pieces =>
    rw [join, String.intercalate_cons_cons, ne_eq, String.append_eq_empty_iff,
      String.append_eq_empty_iff]
    exact fun none => some none.1.1

end Text

/-- The component is a name, or climbs: it is neither the root nor a dot. -/
def Component.IsPlain : Component → Prop
  | .root => False
  | .current => False
  | .parent => True
  | .name s => s ≠ "" ∧ s ≠ "." ∧ s ≠ ".." ∧ '/' ∉ s.toList

/-- A plain component is written as a segment that stands for it. -/
theorem Component.IsPlain.text {c : Component} (plain : c.IsPlain) :
    Path.isIdle c.text = false ∧ '/' ∉ c.text.toList ∧ Path.segmentComponent c.text = c := by
  -- `..` and a name are both written as one segment, which is read back as itself.
  cases c with
  | root => exact plain.elim
  | current => exact plain.elim
  | parent => decide
  | name s =>
    obtain ⟨nonempty, noDot, noClimb, noSlash⟩ := plain
    refine ⟨?_, noSlash, ?_⟩
    · simp [Path.isIdle, Component.text, nonempty, noDot]
    · simp [Path.segmentComponent, Component.text, noClimb]

/-- A plain component has a first character, which is no slash. -/
theorem Component.IsPlain.first {c : Component} (plain : c.IsPlain) :
    ∃ d cs, c.text.toList = d :: cs ∧ d ≠ '/' ∧ '/' ∉ cs := by
  -- An empty text would be an idle segment.
  obtain ⟨busy, noSlash, _⟩ := plain.text
  cases chars : c.text.toList with
  | nil =>
    have empty : c.text = "" := String.toList_eq_nil_iff.mp chars
    rw [empty] at busy
    exact absurd busy (by decide)
  | cons d cs =>
    rw [chars, List.mem_cons, not_or] at noSlash
    exact ⟨d, cs, rfl, Ne.symm noSlash.1, noSlash.2⟩

namespace Path

/-- The components behind the front are plain. -/
theorem isPlain_of_mem_bodyComponents {path : Path} {c : Component} (member : c ∈ path.bodyComponents) :
    c.IsPlain := by
  -- What is left after the filter is no empty segment and no dot, and pieces hold no slash.
  rw [bodyComponents, List.mem_map] at member
  obtain ⟨segment, kept, rfl⟩ := member
  obtain ⟨inside, busy⟩ := List.mem_filter.mp kept
  have noSlash : '/' ∉ segment.toList := Text.separator_notMem inside
  rw [isIdle, Bool.not_eq_true', Bool.or_eq_false_iff, beq_eq_false_iff_ne, beq_eq_false_iff_ne] at busy
  rw [segmentComponent]
  split
  · exact trivial
  · rename_i noClimb
    exact ⟨busy.1, busy.2, by simpa using noClimb, noSlash⟩

/-- The components of a path without its dot. -/
def steps (path : Path) : List Component := path.components.filter (· ≠ .current)

/-- But for the root, the components of a path without its dot are plain. -/
theorem steps_eq (path : Path) :
    path.steps = if path.isAbsolute then .root :: path.bodyComponents else path.bodyComponents := by
  -- A dot can only stand in front, as the components of the body are plain.
  have body : path.bodyComponents.filter (· ≠ .current) = path.bodyComponents := by
    rw [List.filter_eq_self]
    rintro c member
    have plain := isPlain_of_mem_bodyComponents member
    cases c with
    | current => exact plain.elim
    | _ => rfl
  rw [steps, components]
  split
  · rw [List.filter_cons_of_pos (by decide), body]
  · split
    · rw [List.filter_cons_of_neg (by decide), body]
    · exact body

/-- The path begins with a component, and goes on behind a slash if it does. -/
def Begins (c : Component) (path : Path) : Prop :=
  ∃ more, path.text.toList = c.text.toList ++ more ∧ ∀ d, more.head? = some d → d = '/'

/-- A path that begins with a plain component is relative, and has no dot of its own. -/
theorem Begins.front {c : Component} {path : Path} (begins : path.Begins c) (plain : c.IsPlain) :
    path.isAbsolute = false ∧ path.startsAtDot = false := by
  obtain ⟨more, chars, stops⟩ := begins
  obtain ⟨d, cs, first, noRoot, noSlash⟩ := plain.first
  -- A plain component is a name or the parent, and so no dot.
  have noDot : c.text ≠ "." := by
    intro dot
    have busy := plain.text.1
    rw [dot] at busy
    exact absurd busy (by decide)
  rw [first, List.cons_append] at chars
  constructor
  · rw [isAbsolute, chars]
    simp [noRoot]
  · -- A dot in front would be the whole component.
    have alone (rest : List Char) (same : cs = []) (dot : d = '.') : False := by
      refine noDot ?_
      rw [← String.toList_inj, first, same, dot]
      rfl
    rw [startsAtDot, chars]
    split
    · rename_i same
      obtain ⟨dot, none⟩ := List.cons.inj same
      exact (alone [] (List.append_eq_nil_iff.mp none).1 dot).elim
    · rename_i rest same
      obtain ⟨dot, slash⟩ := List.cons.inj same
      -- Behind the dot there is nothing, or a slash, which no component has inside.
      cases cs with
      | nil => exact (alone [] rfl dot).elim
      | cons e cs =>
        obtain ⟨rfl, _⟩ := List.cons.inj slash
        exact absurd List.mem_cons_self noSlash
    · rfl

/-- A path that begins with a plain component is not empty when it is written. -/
theorem Begins.posixText_ne {c : Component} {path : Path} (begins : path.Begins c) (plain : c.IsPlain) :
    path.posixText ≠ "" := by
  obtain ⟨relative, noDot⟩ := begins.front plain
  obtain ⟨busy, noSlash, stands⟩ := plain.text
  obtain ⟨more, chars, stops⟩ := begins
  have nonempty : c.text ≠ "" := by
    rintro empty
    rw [empty] at busy
    exact absurd busy (by decide)
  -- The component ends where the next separator stands, and is the first piece.
  obtain ⟨pieces, split⟩ : ∃ pieces, Text.splitChars (· == '/') (c.text.toList ++ more) =
      c.text.toList :: pieces :=
    Text.splitChars_append (fun d member => beq_eq_false_iff_ne.mpr fun same => noSlash (same ▸ member))
      fun d first => beq_iff_eq.mpr (stops d first)
  have segments : path.segments = c.text :: pieces.map String.ofList := by
    rw [Path.segments, Path.front, relative, noDot, Text.split]
    simp [chars, split]
  have components : path.components = c :: path.bodyComponents.tail := by
    rw [Path.components, relative, noDot, bodyComponents, segments,
      List.filter_cons_of_pos (by rw [busy]; rfl), List.map_cons, stands]
    rfl
  rw [posixText, components, List.map_cons]
  exact Text.join_ne_empty _ nonempty

/-- A path from the root is not empty when it is written. -/
theorem posixText_ne_of_isAbsolute {path : Path} (absolute : path.isAbsolute = true) :
    path.posixText ≠ "" := by
  rw [posixText, components, if_pos absolute, List.map_cons]
  exact Text.join_ne_empty _ (by decide)

/-- What is joined to a path from the root is a path from the root. -/
theorem isAbsolute_join_left {path : Path} (absolute : path.isAbsolute = true) (other : Path) :
    (path.join other).isAbsolute = true := by
  have kept (more : String) : (⟨path.text ++ more⟩ : Path).isAbsolute = true := by
    rw [isAbsolute] at absolute ⊢
    rw [String.toList_append]
    cases chars : path.text.toList with
    | nil => rw [chars] at absolute; cases absolute
    | cons c cs => rwa [chars] at absolute
  rw [Path.join]
  -- Either path is from the root, and only what is behind it may change.
  split
  · assumption
  · split
    · exact kept _
    · rw [String.append_assoc]
      exact kept _

/-- What is joined to a path leaves its beginning alone. -/
theorem Begins.join {c d : Component} {path : Path} (begins : path.Begins c) (plain : c.IsPlain)
    (next : d.IsPlain) : (path.join ⟨d.text⟩).Begins c := by
  have relative : (⟨d.text⟩ : Path).isAbsolute = false := by
    obtain ⟨e, es, chars, noRoot, _⟩ := next.first
    rw [isAbsolute, chars]
    simp [noRoot]
  obtain ⟨e, es, chars, noRoot, noSlash⟩ := plain.first
  -- The path is not empty, and so a slash stands between the two.
  obtain ⟨more, whole, stops⟩ := begins
  have nonempty : (path.text == "") = false := by
    rw [beq_eq_false_iff_ne]
    intro empty
    rw [empty, chars] at whole
    cases whole
  rw [Path.join, relative, nonempty]
  simp only [Bool.false_eq_true, if_false, Bool.false_or]
  split
  · -- The slash at the end stands behind the component.
    rename_i slash
    refine ⟨more ++ d.text.toList, ?_, fun f first => ?_⟩
    · rw [String.toList_append, whole, List.append_assoc]
    · -- The component itself does not end in a slash.
      cases more with
      | nil =>
        rw [whole, List.append_nil, beq_iff_eq, List.getLast?_eq_some_iff] at slash
        obtain ⟨front, ends⟩ := slash
        have inside : '/' ∈ c.text.toList := by rw [ends]; simp
        exact absurd inside plain.text.2.1
      | cons g more => exact stops f first
  · refine ⟨more ++ '/' :: d.text.toList, ?_, fun f first => ?_⟩
    · rw [String.toList_append, String.toList_append, whole, List.append_assoc, List.append_assoc]
      rfl
    · cases more with
      | nil => exact (Option.some.inj first).symm
      | cons g more => exact stops f first

/-- A path begins with a plain component whatever plain components are joined to it. -/
theorem Begins.foldl_join {c : Component} {path : Path} (begins : path.Begins c) (plain : c.IsPlain)
    {rest : List Component} (others : ∀ d ∈ rest, d.IsPlain) :
    (rest.foldl (fun path component => path.join ⟨component.text⟩) path).Begins c := by
  -- Each joined component is plain, so none starts again from the root.
  induction rest generalizing path with
  | nil => exact begins
  | cons d rest ih =>
    obtain ⟨next, later⟩ := List.forall_mem_cons.mp others
    exact ih (begins.join plain next) later

/-- Components from a plain one on are not empty when they are written. -/
theorem posixText_ofComponents_ne {c : Component} {rest : List Component}
    (plain : ∀ d ∈ c :: rest, d.IsPlain) : (ofComponents (c :: rest)).posixText ≠ "" := by
  -- The first component stands at the front of the text from its join on.
  obtain ⟨first, others⟩ := List.forall_mem_cons.mp plain
  have start : ((⟨""⟩ : Path).join ⟨c.text⟩).Begins c := by
    refine ⟨[], ?_, fun _ none => ?_⟩
    · rw [Path.join]
      split
      · rw [List.append_nil]
      · simp
    · cases none
  exact (start.foldl_join first others).posixText_ne first

/-- Components from the root on are not empty when they are written. -/
theorem posixText_ofComponents_root (rest : List Component) :
    (ofComponents (.root :: rest)).posixText ≠ "" := by
  -- Whatever is joined to the root is a path from the root.
  have absolute (path : Path) (start : path.isAbsolute = true) :
      (rest.foldl (fun path component => path.join ⟨component.text⟩) path).isAbsolute = true := by
    induction rest generalizing path with
    | nil => exact start
    | cons d rest ih => exact ih _ (isAbsolute_join_left start ⟨d.text⟩)
  exact posixText_ne_of_isAbsolute (absolute _ rfl)

/-- What two lists have in common is no longer than they are. -/
theorem commonLength_le (as bs : List Component) :
    commonLength as bs ≤ as.length ∧ commonLength as bs ≤ bs.length := by
  -- Each common component is one of both lists.
  fun_induction commonLength as bs with
  | case1 as b bs ih =>
    simp only [List.length_cons]
    omega
  | case2 => omega
  | case3 => omega

/-- Two lists that have all in common are the same. -/
theorem eq_of_commonLength {as bs : List Component} (first : as.length ≤ commonLength as bs)
    (second : bs.length ≤ commonLength as bs) : as = bs := by
  -- Both lists are used up at once.
  fun_induction commonLength as bs with
  | case1 as b bs ih =>
    simp only [List.length_cons] at first second
    rw [ih (by omega) (by omega)]
  | case2 => simp at first
  | case3 as bs none =>
    rw [List.length_eq_zero_iff.mp (Nat.le_zero.mp first),
      List.length_eq_zero_iff.mp (Nat.le_zero.mp second)]

/-- A list has all in common with what goes on behind it. -/
theorem commonLength_append (as more : List Component) : commonLength as (as ++ more) = as.length := by
  -- Every component of the shorter list is common.
  induction as with
  | nil => simp [commonLength]
  | cons a as ih => simp [commonLength, ih]

/-- A list has all in common with itself. -/
theorem commonLength_self (as : List Component) : commonLength as as = as.length := by
  simpa using commonLength_append as []

/-- Behind what it has in common with another path, a path has plain components only. -/
theorem isPlain_of_mem_drop {path : Path} {common : Nat} {c : Component}
    (behindRoot : (common == 0 && path.isAbsolute) = false) (member : c ∈ path.steps.drop common) :
    c.IsPlain := by
  -- A root can only stand in front, and is common or left out.
  rw [steps_eq] at member
  split at member
  · rename_i absolute
    cases common with
    | zero =>
      rw [absolute] at behindRoot
      cases behindRoot
    | succ common =>
      rw [List.drop_succ_cons] at member
      exact isPlain_of_mem_bodyComponents (List.mem_of_mem_drop member)
  · exact isPlain_of_mem_bodyComponents (List.mem_of_mem_drop member)

/-- The path from a base to a target climbs from what both have in common, and goes down from there. -/
theorem relativeTo_eq (base target : Path) : relativeTo base target =
    if commonLength base.steps target.steps == 0 && target.isAbsolute then ofComponents target.steps
    else ofComponents (List.replicate (base.steps.length - commonLength base.steps target.steps) .parent
      ++ target.steps.drop (commonLength base.steps target.steps)) := rfl

/-- The path from a base to a target is empty exactly when both have the same components, dots not
counting. -/
theorem posixText_relativeTo (base target : Path) :
    (relativeTo base target).posixText = "" ↔ base.steps = target.steps := by
  obtain ⟨shorter, within⟩ := commonLength_le base.steps target.steps
  cases fromRoot : commonLength base.steps target.steps == 0 && target.isAbsolute with
  | true =>
    -- Nothing is in common with a target that has the root at least.
    obtain ⟨nothing, absolute⟩ := Bool.and_eq_true_iff.mp fromRoot
    have rooted : target.steps = .root :: target.bodyComponents := by rw [steps_eq, if_pos absolute]
    rw [relativeTo_eq, fromRoot, if_pos rfl]
    refine iff_of_false ?_ fun same => ?_
    · rw [rooted]
      exact posixText_ofComponents_root _
    · rw [same, commonLength_self, rooted] at nothing
      cases nothing
  | false =>
    rw [relativeTo_eq, fromRoot, if_neg Bool.false_ne_true]
    have plain : ∀ d ∈ List.replicate (base.steps.length - commonLength base.steps target.steps)
        Component.parent ++ target.steps.drop (commonLength base.steps target.steps), d.IsPlain := by
      intro d member
      rcases List.mem_append.mp member with up | down
      · rw [(List.mem_replicate.mp up).2]
        exact trivial
      · exact isPlain_of_mem_drop fromRoot down
    -- The way is as long as what is left of both, and empty only if nothing is.
    have lengths : (List.replicate (base.steps.length - commonLength base.steps target.steps)
        Component.parent ++ target.steps.drop (commonLength base.steps target.steps)).length =
          (base.steps.length - commonLength base.steps target.steps) +
            (target.steps.length - commonLength base.steps target.steps) := by
      rw [List.length_append, List.length_replicate, List.length_drop]
    generalize List.replicate (base.steps.length - commonLength base.steps target.steps)
      Component.parent ++ target.steps.drop (commonLength base.steps target.steps) = way at *
    cases way with
    | nil =>
      rw [List.length_nil] at lengths
      exact iff_of_true rfl (eq_of_commonLength (by omega) (by omega))
    | cons c rest =>
      refine iff_of_false (posixText_ofComponents_ne plain) fun same => ?_
      rw [same, commonLength_self, List.length_cons] at lengths
      omega

end Path

namespace SourceFile

/-- The name of a source is not empty without its ending, unless it was before. -/
theorem stripEnding_eq_empty (name : String) : stripEnding name = "" ↔ name = "" := by
  -- Cutting the ending off a name that is the ending alone gives the name back.
  constructor
  · intro empty
    unfold stripEnding at empty
    split at empty
    · split at empty
      · exact empty
      · rename_i some
        exact absurd (beq_iff_eq.mpr empty) some
    · exact empty
  · rintro rfl
    decide

/-- The stem of a source is empty exactly when its path ends in no name. -/
theorem stem_eq_empty (file : Path) : stem file = "" ↔ file.fileName? = none := by
  rw [stem, stripEnding_eq_empty]
  cases named : file.fileName? with
  | none => exact iff_of_true rfl rfl
  | some name =>
    refine iff_of_false (fun empty => ?_) (by simp)
    -- The name is a component, and so it is not empty.
    unfold Path.fileName? at named
    split at named
    · rename_i s last
      obtain rfl := Option.some.inj named
      have member : Component.name s ∈ file.steps :=
        List.mem_filter.mpr ⟨List.mem_of_getLast? last, by simp⟩
      rw [Path.steps_eq] at member
      have inBody : Component.name s ∈ file.bodyComponents := by
        split at member
        · rcases List.mem_cons.mp member with root | inside
          · cases root
          · exact inside
        · exact member
      exact (Path.isPlain_of_mem_bodyComponents inBody).1 empty
    · cases named

end SourceFile

end TemplateFacts
