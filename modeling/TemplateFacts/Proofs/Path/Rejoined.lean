import TemplateFacts.Proofs.Facts.Conformance
import TemplateFacts.Proofs.Outcome
import TemplateFacts.Proofs.Path.Relative
import TemplateFacts.Proofs.Utf8.Head

/-!
How a path is seen from another one leads back to it: it climbs to where the two part and goes down from
there, and joined to the path that it is seen from it gives the path that is seen. So the facts about two
sources of one root never say that their source is the same, as long as names are texts. Spelled in bytes,
such names are recorded as they are, and only names that are no text are recorded with loss.
-/

namespace TemplateFacts.Path

/-- Two paths part behind these components: both begin with them, and with nothing longer. -/
structure PartBehind (base target : Path) (common : List Component) : Prop where
  first : common <+: base.components
  second : common <+: target.components
  longest : ∀ shared, shared <+: base.components → shared <+: target.components → shared <+: common

/-- What two lists begin with is no longer than what they have in common. -/
theorem length_le_commonLength {shared as bs : List Component} (first : shared <+: as)
    (second : shared <+: bs) : shared.length ≤ commonLength as bs := by
  -- Each shared component is counted before the first one that differs.
  obtain ⟨more, rfl⟩ := first
  obtain ⟨others, rfl⟩ := second
  induction shared with
  | nil => exact Nat.zero_le _
  | cons c shared ih =>
    rw [List.cons_append, List.cons_append, commonLength, if_pos rfl, List.length_cons]
    omega

/-- Two paths part behind what they have in common. -/
theorem partBehind_common (base target : Path) :
    PartBehind base target (base.components.take (commonLength base.components target.components)) := by
  -- What is common is shared by both, and nothing longer is.
  have second : base.components.take (commonLength base.components target.components) <+:
      target.components := by
    rw [take_commonLength]
    exact List.take_prefix _ _
  refine ⟨List.take_prefix _ _, second, fun shared first too => ?_⟩
  refine List.prefix_of_prefix_length_le first (List.take_prefix _ _) ?_
  rw [List.length_take]
  exact le_min (length_le_commonLength first too) first.length_le

/-- Components between slashes begin with the first of them. -/
theorem begins_join (c : Component) (rest : List Component) :
    Begins c ⟨Text.join "/" ((c :: rest).map Component.text)⟩ := by
  -- The joined text begins with the first component, with a slash behind it when more follow.
  cases rest with
  | nil => exact ⟨[], by simp [Text.join], by simp⟩
  | cons d rest =>
    have more : (d :: rest).map Component.text ≠ [] := by simp
    have joined := Text.join_cons c.text more
    refine ⟨'/' :: (Text.join "/" ((d :: rest).map Component.text)).toList, ?_, by simp⟩
    rw [List.map_cons, joined]
    simp

/-- A path of plain components names the same components when it is written with slashes between them. -/
theorem components_posixText {path : Path} (plain : ∀ c ∈ path.components, c.IsPlain) :
    (⟨path.posixText⟩ : Path).components = path.components := by
  rw [posixText]
  generalize path.components = cs at plain
  cases cs with
  | nil => rfl
  | cons c rest =>
    obtain ⟨relative, undotted⟩ := (begins_join c rest).front (plain c List.mem_cons_self)
    have apart : ∀ piece ∈ (c :: rest).map Component.text, '/' ∉ piece.toList := by
      rintro piece member
      obtain ⟨d, inside, rfl⟩ := List.mem_map.mp member
      exact (plain d inside).text.2.1
    rw [components_of_relative relative undotted, Text.split_join (by simp) apart]
    -- Each component is written as a segment that stands for it.
    generalize c :: rest = cs at plain
    induction cs with
    | nil => rfl
    | cons d ds ih =>
      obtain ⟨first, others⟩ := List.forall_mem_cons.mp plain
      have one : busyComponents [d.text] = [d] := by
        simp [busyComponents, first.text.1, first.text.2.2]
      rw [List.map_cons, ← List.singleton_append, busyComponents_append, one, ih others, List.singleton_append]

section Seen

variable {base target : Path}

/-- A path as it is seen from another one is relative, and has no dot in front. -/
theorem relative_relativeTo (from_ : base.Descends) (to_ : target.Descends) :
    (relativeTo base target).isAbsolute = false ∧ (relativeTo base target).startsAtDot = false :=
  relative_of_plain (by rw [components_relativeTo from_ to_]; exact isPlain_way from_ to_)

/-- A path as it is seen from another one has no text only if there is no way. -/
theorem relativeTo_eq_empty (from_ : base.Descends) (to_ : target.Descends) :
    relativeTo base target = ⟨""⟩ ↔ base.components = target.components := by
  -- The way is empty when no step goes up and none goes down.
  have none : way base target = [] ↔ relativeTo base target = ⟨""⟩ := by
    rw [← components_relativeTo from_ to_]
    constructor
    · intro nothing
      rw [components_relativeTo from_ to_] at nothing
      rw [relativeTo_eq_way from_ to_, nothing]
      rfl
    · intro empty
      rw [empty]
      rfl
  obtain ⟨shorter, within⟩ := commonLength_le base.components target.components
  rw [← none, way, List.append_eq_nil_iff, List.replicate_eq_nil_iff, List.drop_eq_nil_iff]
  constructor
  · rintro ⟨first, second⟩
    exact eq_of_commonLength (by omega) second
  · intro same
    rw [same, commonLength_self]
    omega

/-- A path is seen without climbing exactly if it lies below. -/
theorem parent_notMem_way (from_ : base.Descends) (to_ : target.Descends) :
    .parent ∉ way base target ↔ base.components <+: target.components := by
  -- The steps up are as many as the base has components behind the common ones.
  obtain ⟨names, down, -⟩ := drop_commonLength from_ to_
  have below : base.components <+: target.components ↔
      base.components.length ≤ commonLength base.components target.components :=
    ⟨fun first => length_le_commonLength List.prefix_rfl first, prefix_of_commonLength⟩
  rw [below, way, down]
  simp [Nat.sub_eq_zero_iff_le]

/-- What is seen of a path, joined to where it is seen from, leads to the path. -/
theorem components_rejoined (directory : Path) (from_ : base.Descends) (to_ : target.Descends) :
    (absolutize directory (base.join (relativeTo base target))).components = target.components := by
  obtain ⟨relative, undotted⟩ := relative_relativeTo from_ to_
  obtain ⟨bases, split, plain⟩ := from_.components
  obtain ⟨down, behind, plainDown⟩ := drop_commonLength from_ to_
  obtain ⟨count, common⟩ := Nat.exists_eq_succ_of_ne_zero (commonLength_pos from_ to_).ne'
  have within := (commonLength_le base.components target.components).1
  -- The whole path goes down to the base, climbs and goes down again.
  have whole : (base.join (relativeTo base target)).components = .root :: (bases.map .name ++
      (List.replicate (base.components.length - commonLength base.components target.components) .parent ++
        down.map .name)) := by
    rw [components_join base relative undotted, components_relativeTo from_ to_, way, behind, split,
      List.cons_append]
  rw [components_absolutize directory (List.forall_mem_append.mpr ⟨plain, plainDown⟩) whole]
  -- What is left of the base is what both have in common.
  have kept : bases.length - (base.components.length -
      commonLength base.components target.components) = count := by
    rw [common, split, List.length_cons, List.length_map] at within
    rw [common, split, List.length_cons, List.length_map]
    omega
  have front : .root :: (bases.take count).map .name = target.components.take (count + 1) := by
    rw [← Nat.succ_eq_add_one, ← common, ← take_commonLength, common, split, Nat.succ_eq_add_one,
      List.take_succ_cons, List.map_take]
  rw [kept, ← List.cons_append, front, ← behind, common, Nat.succ_eq_add_one, List.take_append_drop]

/-- From one place, different paths are seen differently. -/
theorem components_eq_of_seen {other : Path} (from_ : base.Descends) (to_ : target.Descends)
    (too : other.Descends) (same : (relativeTo base other).posixText = (relativeTo base target).posixText) :
    other.components = target.components := by
  have written {path : Path} (to_ : path.Descends) :
      (⟨(relativeTo base path).posixText⟩ : Path).components = (relativeTo base path).components :=
    components_posixText (by rw [components_relativeTo from_ to_]; exact isPlain_way from_ to_)
  have seen : (relativeTo base other).components = (relativeTo base target).components := by
    rw [← written too, ← written to_, same]
  obtain ⟨relative, undotted⟩ := relative_relativeTo from_ to_
  obtain ⟨relativeToo, undottedToo⟩ := relative_relativeTo from_ too
  have joined : (base.join (relativeTo base other)).components =
      (base.join (relativeTo base target)).components := by
    rw [components_join base relativeToo undottedToo, components_join base relative undotted, seen]
  have rooted (path : Path) (relative : path.isAbsolute = false) (undotted : path.startsAtDot = false) :
      (base.join path).isAbsolute = true := by
    rw [← root_mem_components, components_join base relative undotted]
    exact List.mem_append_left _ (root_mem_components.mpr from_.1)
  -- What is joined leads to both.
  rw [← components_rejoined base from_ too, ← components_rejoined base from_ to_, absolutize, absolutize,
    join.eq_def base (base.join _), if_pos (rooted _ relativeToo undottedToo),
    join.eq_def base (base.join _), if_pos (rooted _ relative undotted), joined]

/-- Facts say that their source is where it is seen from the root. -/
theorem path_of_buildFacts {inputs : FactsInputs} {context : FactsContext} {facts : Facts}
    (built : buildFacts inputs context = .ok facts) :
    facts.source.path = (relativeTo context.root inputs.file).posixText := by
  -- A record that was built has the path made of the two it was given.
  rw [buildFacts_eq] at built
  obtain ⟨template, -, rfl⟩ := ok_of_map built
  rw [factsOf]

end Seen

section Bytes

/-- A text spelled in bytes, with a character for each byte of its encoding. -/
def bytewise (s : String) : String := (ofBytes (Utf8.encode s)).text

/-- The character for a byte has its number. -/
theorem toNat_byte (b : UInt8) : (Char.ofNat b.toNat).toNat = b.toNat :=
  Utf8.toNat_ofNat (.inl (Nat.lt_trans b.toNat_lt (by decide)))

/-- The bytes of a path with a character for each of them are those that it was made of. -/
theorem bytesOf_ofBytes (bytes : List UInt8) : bytesOf (ofBytes bytes).text = bytes := by
  -- The number of such a character is the byte.
  rw [bytesOf, ofBytes, String.toList_ofList, List.map_map]
  refine (List.map_congr_left fun b _ => ?_).trans (List.map_id _)
  show UInt8.ofNat (Char.ofNat b.toNat).toNat = b
  rw [toNat_byte, UInt8.ofNat_toNat]

/-- The spelling in bytes tells texts apart. -/
theorem bytewise_inj {s t : String} : bytewise s = bytewise t ↔ s = t := by
  -- The bytes can be read off the text again, and they tell the text they encode.
  refine ⟨fun same => Utf8.encode_injective ?_, congrArg bytewise⟩
  rw [← bytesOf_ofBytes (Utf8.encode s), ← bytesOf_ofBytes (Utf8.encode t)]
  exact congrArg bytesOf same

/-- Texts side by side are spelled side by side. -/
theorem bytewise_append (s t : String) : bytewise (s ++ t) = bytewise s ++ bytewise t := by
  -- The bytes of both texts are spelled one after the other.
  simp only [bytewise, ofBytes, Utf8.encode, String.toList_append, List.flatMap_append, List.map_append,
    String.ofList_append]

/-- A text without a slash has no slash among its bytes. -/
theorem slash_notMem_bytewise {s : String} (none : '/' ∉ s.toList) : '/' ∉ (bytewise s).toList := by
  -- Only a slash is written with the byte of one.
  intro member
  rw [bytewise, ofBytes, String.toList_ofList] at member
  obtain ⟨b, inside, same⟩ := List.mem_map.mp member
  have number : b.toNat = '/'.toNat := by rw [← toNat_byte, same]
  obtain ⟨c, there, sameToo⟩ := Utf8.mem_encode_ascii inside (by rw [number]; decide)
  obtain rfl : c = '/' := Char.toNat_inj.mp (sameToo.trans number)
  exact none there

/-- Pieces are spelled in bytes between the same slashes. -/
theorem bytewise_join (pieces : List String) :
    bytewise (Text.join "/" pieces) = Text.join "/" (pieces.map bytewise) := by
  induction pieces with
  | nil => rfl
  | cons piece pieces ih =>
    -- The last piece has no slash behind it.
    by_cases last : pieces = []
    · rw [last]
      rfl
    · have slash : bytewise "/" = "/" := by decide
      rw [Text.join_cons piece last, List.map_cons, Text.join_cons _ (by simpa using last),
        bytewise_append, bytewise_append, ih, slash]

/-- A text spelled in bytes is split between slashes as the text is. -/
theorem split_bytewise (s : String) : Text.split '/' (bytewise s) = (Text.split '/' s).map bytewise := by
  -- The byte of the slash occurs in the encoding of the slash and nowhere else.
  have apart : ∀ piece ∈ (Text.split '/' s).map bytewise, '/' ∉ piece.toList := by
    intro piece member
    obtain ⟨other, inside, rfl⟩ := List.mem_map.mp member
    exact slash_notMem_bytewise (Text.separator_notMem inside)
  have whole := bytewise_join (Text.split '/' s)
  rw [Text.join_split] at whole
  rw [whole, Text.split_join (by simpa using Text.split_ne_nil '/' s) apart]

/-- A path begins at the root exactly if its first piece is empty and a slash stands behind it. -/
theorem isAbsolute_iff_split (path : Path) :
    path.isAbsolute = true ↔ ∃ rest, rest ≠ [] ∧ Text.split '/' path.text = "" :: rest := by
  -- An absolute path is one whose first piece is empty, with a slash behind it.
  rw [isAbsolute, beq_iff_eq]
  constructor
  · intro slash
    obtain ⟨cs, chars⟩ := List.head?_eq_some_iff.mp slash
    refine ⟨Text.split '/' (String.ofList cs), Text.split_ne_nil _ _, ?_⟩
    rw [Text.split, Text.split, chars, String.toList_ofList]
    rfl
  · rintro ⟨rest, some, pieces⟩
    have whole := Text.join_split path.text
    rw [pieces, Text.join_cons "" some] at whole
    rw [← whole, String.empty_append, String.toList_append]
    rfl

/-- A path has a dot in front exactly if its first piece is a dot. -/
theorem startsAtDot_iff_split (path : Path) :
    path.startsAtDot = true ↔ ∃ rest, Text.split '/' path.text = "." :: rest := by
  constructor
  · intro dotted
    rw [startsAtDot] at dotted
    -- The dot is the whole path, or a slash follows it.
    split at dotted
    · rename_i chars
      exact ⟨[], by rw [Text.split, chars]; rfl⟩
    · rename_i cs chars
      exact ⟨Text.split '/' (String.ofList cs), by rw [Text.split, Text.split, chars, String.toList_ofList]; rfl⟩
    · cases dotted
  · rintro ⟨rest, pieces⟩
    have whole := Text.join_split path.text
    rw [pieces] at whole
    rw [startsAtDot, ← whole]
    by_cases last : rest = []
    · rw [last]
      rfl
    · rw [Text.join_cons "." last, String.toList_append, String.toList_append]
      rfl

/-- A component with its name spelled in bytes. -/
def bytewiseComponent : Component → Component
  | .name s => .name (bytewise s)
  | c => c

variable (path : Path)

/-- A path spelled in bytes begins at the root where the path does. -/
theorem isAbsolute_bytewise : (⟨bytewise path.text⟩ : Path).isAbsolute = path.isAbsolute := by
  -- Both are told by the first piece, which is empty in both or in neither.
  have empty : bytewise "" = "" := rfl
  rw [Bool.eq_iff_iff, isAbsolute_iff_split, isAbsolute_iff_split, split_bytewise]
  constructor
  · rintro ⟨rest, some, pieces⟩
    obtain ⟨first, others, split, same, rfl⟩ := List.map_eq_cons_iff.mp pieces
    rw [← empty, bytewise_inj] at same
    exact ⟨others, by simpa using some, by rw [split, same]⟩
  · rintro ⟨rest, some, pieces⟩
    exact ⟨rest.map bytewise, by simpa using some, by rw [pieces, List.map_cons, empty]⟩

/-- A path spelled in bytes has a dot in front where the path has one. -/
theorem startsAtDot_bytewise : (⟨bytewise path.text⟩ : Path).startsAtDot = path.startsAtDot := by
  -- Both are told by the first piece, which is a dot in both or in neither.
  have dot : bytewise "." = "." := by decide
  rw [Bool.eq_iff_iff, startsAtDot_iff_split, startsAtDot_iff_split, split_bytewise]
  constructor
  · rintro ⟨rest, pieces⟩
    obtain ⟨first, others, split, same, rfl⟩ := List.map_eq_cons_iff.mp pieces
    rw [← dot, bytewise_inj] at same
    exact ⟨others, by rw [split, same]⟩
  · rintro ⟨rest, pieces⟩
    exact ⟨rest.map bytewise, by rw [pieces, List.map_cons, dot]⟩

/-- The pieces that name something name the same in bytes. -/
theorem busyComponents_bytewise (pieces : List String) :
    busyComponents (pieces.map bytewise) = (busyComponents pieces).map bytewiseComponent := by
  have empty : bytewise "" = "" := rfl
  have dot : bytewise "." = "." := by decide
  have dots : bytewise ".." = ".." := by decide
  -- Empty pieces and dots are written as themselves, and nothing else is.
  have idle (piece : String) : isIdle (bytewise piece) = isIdle piece := by
    rw [isIdle, isIdle, Bool.eq_iff_iff]
    simp only [Bool.or_eq_true, beq_iff_eq]
    rw [show bytewise piece = "" ↔ piece = "" from empty ▸ bytewise_inj,
      show bytewise piece = "." ↔ piece = "." from dot ▸ bytewise_inj]
  have stands (piece : String) : segmentComponent (bytewise piece) = bytewiseComponent (segmentComponent piece) := by
    rw [segmentComponent, segmentComponent]
    by_cases climbs : piece = ".."
    · rw [climbs, dots]
      rfl
    · have climbsNot : bytewise piece ≠ ".." := fun same => climbs (bytewise_inj.mp (same.trans dots.symm))
      simp [climbs, climbsNot, bytewiseComponent]
  rw [busyComponents, busyComponents, List.filter_map, List.map_map, List.map_map]
  have same : ((fun s => !isIdle s) ∘ bytewise) = fun s => !isIdle s := by
    funext piece
    simp [idle]
  rw [same]
  exact List.map_congr_left fun piece _ => stands piece

/-- The components of a path that is spelled in bytes are spelled so too. -/
theorem components_bytewise : (⟨bytewise path.text⟩ : Path).components =
    path.components.map bytewiseComponent := by
  -- The front and the pieces carry over one by one.
  rw [components_eq, components_eq, frontComponents, frontComponents, isAbsolute_bytewise,
    startsAtDot_bytewise, split_bytewise, busyComponents_bytewise, List.map_append]
  congr 1
  split
  · rfl
  · split <;> rfl

/-- A component in bytes is written as the bytes of the component. -/
theorem text_bytewiseComponent (c : Component) : (bytewiseComponent c).text = bytewise c.text := by
  -- The root and the dots are ASCII, so they are written as they are.
  cases c with
  | name s => rfl
  | _ => decide

/-- A component is decoded from its bytes without loss. -/
theorem decodeLossy_bytewise (c : Component) : Utf8.decodeLossy (bytesOf (bytewiseComponent c).text) = c.text := by
  -- The spelled bytes are read back first, and they are a text.
  rw [text_bytewiseComponent, bytewise, bytesOf_ofBytes, Utf8.decodeLossy_encode]

/-- The spelling in bytes tells components apart. -/
theorem bytewiseComponent_inj {c d : Component} : bytewiseComponent c = bytewiseComponent d ↔ c = d := by
  refine ⟨fun same => ?_, congrArg bytewiseComponent⟩
  cases c <;> cases d <;> simp_all [bytewiseComponent, bytewise_inj]

/-- Components in bytes have as many in common as the components. -/
theorem commonLength_bytewise (as bs : List Component) :
    commonLength (as.map bytewiseComponent) (bs.map bytewiseComponent) = commonLength as bs := by
  -- Two components are equal exactly when they are equal byte by byte.
  fun_induction commonLength as bs with
  | case1 as b bs ih => rw [List.map_cons, List.map_cons, commonLength, if_pos rfl, ih]
  | case2 a as b bs differ =>
    rw [List.map_cons, List.map_cons, commonLength, if_neg (mt bytewiseComponent_inj.mp differ)]
  | case3 as bs none =>
    cases as with
    | nil => rfl
    | cons a as =>
      cases bs with
      | nil => rfl
      | cons b bs => exact absurd rfl (none a as b bs rfl)

/-- A path spelled in bytes goes down from the root where the path does. -/
theorem Descends.bytewise {path : Path} (descends : path.Descends) : (⟨bytewise path.text⟩ : Path).Descends := by
  -- Neither a dot nor a climb comes out of another component.
  refine ⟨(isAbsolute_bytewise path).trans descends.1, fun c member => ?_⟩
  rw [components_bytewise] at member
  obtain ⟨d, inside, rfl⟩ := List.mem_map.mp member
  obtain ⟨noDot, noClimb⟩ := descends.2 d inside
  exact ⟨mt (bytewiseComponent_inj (d := .current)).mp noDot, mt (bytewiseComponent_inj (d := .parent)).mp noClimb⟩

/--
What is recorded of a path whose names are texts is the same, whether these are read as texts or decoded from
their bytes.
-/
theorem lossyText_relativeTo {base target : Path} (from_ : base.Descends) (to_ : target.Descends) :
    (relativeTo ⟨bytewise base.text⟩ ⟨bytewise target.text⟩).lossyText = (relativeTo base target).posixText := by
  -- The way between two paths is counted by components, which the spelling keeps apart.
  have seen : (relativeTo ⟨bytewise base.text⟩ ⟨bytewise target.text⟩).components =
      (relativeTo base target).components.map bytewiseComponent := by
    rw [components_relativeTo from_.bytewise to_.bytewise, components_relativeTo from_ to_, way, way,
      components_bytewise, components_bytewise, commonLength_bytewise]
    simp [bytewiseComponent]
  rw [lossyText, posixText, seen, List.map_map]
  exact congrArg _ (List.map_congr_left fun c _ => decodeLossy_bytewise c)

end Bytes

/--
Seeing one path from another is undone by joining. Let both go down from the root, without dots and
climbing. Then the one is seen from the other as a relative path, which climbs once for each component of
the base behind the longest beginning that both have in common, and then goes down by names; it does not
climb exactly if the target is the base or lies below it, and is empty exactly if both are the same. Joined
to the base, it leads to the target. With slashes between its components it is a path of the same
components; and so two sources that are recorded with the same path, seen from one root, are the same.
-/
theorem relativeTo_rejoined {base target : Path} (from_ : base.Descends) (to_ : target.Descends) :
    let seen := relativeTo base target
    (∃ (common climbed : List Component) (names : List String), PartBehind base target common ∧
      base.components = common ++ climbed ∧ target.components = common ++ names.map .name ∧
      seen.isAbsolute = false ∧
      seen.components = List.replicate climbed.length .parent ++ names.map .name) ∧
    (.parent ∉ seen.components ↔ base.components <+: target.components) ∧
    (seen = ⟨""⟩ ↔ base.components = target.components) ∧
    (∀ directory, (absolutize directory (base.join seen)).components = target.components) ∧
    (⟨seen.posixText⟩ : Path).components = seen.components ∧
    ∀ inputs inputs' context context' facts facts', inputs.file = target → inputs'.file.Descends →
      context.root = base → context'.root = base → buildFacts inputs context = .ok facts →
      buildFacts inputs' context' = .ok facts' → facts'.source.path = facts.source.path →
      inputs'.file.components = target.components := by
  intro seen
  have components : seen.components = way base target := components_relativeTo from_ to_
  obtain ⟨names, down, -⟩ := drop_commonLength from_ to_
  refine ⟨⟨_, base.components.drop (commonLength base.components target.components), names,
      partBehind_common base target, (List.take_append_drop _ _).symm, ?_, (relative_relativeTo from_ to_).1, ?_⟩,
    ?_, relativeTo_eq_empty from_ to_, fun directory => components_rejoined directory from_ to_, ?_, ?_⟩
  · -- The target goes on by names, as it has more than the root in common.
    rw [take_commonLength, ← down, List.take_append_drop]
  · rw [components, way, down, List.length_drop]
  · rw [components]
    exact parent_notMem_way from_ to_
  · exact components_posixText (by rw [components]; exact isPlain_way from_ to_)
  · -- The facts record what is seen, and that leads back to one path alone.
    intro inputs inputs' context context' facts facts' isTarget too root rootToo built built' same
    rw [path_of_buildFacts built, path_of_buildFacts built', root, rootToo, isTarget] at same
    exact components_eq_of_seen from_ to_ too same

/-- A source beside the root of a run: it is seen by climbing once. -/
theorem relativeTo_rejoined_beside :
    let base : Path := ⟨"/repo/infra"⟩
    let target : Path := ⟨"/repo//shared/./net.bicep"⟩
    (base.Descends ∧ target.Descends) ∧ .parent ∈ (relativeTo base target).components ∧
      (absolutize ⟨"/"⟩ (base.join (relativeTo base target))).components = target.components := by
  -- A target beside the base, with idle segments in its text.
  intro base target
  have from_ : base.Descends := by decide
  have to_ : target.Descends := by decide
  obtain ⟨-, climbs, -, rejoined, -⟩ := relativeTo_rejoined from_ to_
  exact ⟨⟨from_, to_⟩, Decidable.not_not.mp (mt climbs.mp (by decide)), rejoined ⟨"/"⟩⟩

/--
Names that are no text are recorded with loss: below one root, two names whose bytes are not the same are both
recorded with the character for what cannot be decoded, and that names neither. And what a path seen from
itself leads back to is the path, but not as it was written.
-/
theorem seen_alike_unless_text :
    let root := ofBytes (Utf8.encode "/r")
    let first := ofBytes (Utf8.encode "/r/" ++ 0xFF :: Utf8.encode ".bicep")
    let second := ofBytes (Utf8.encode "/r/" ++ 0xFE :: Utf8.encode ".bicep")
    let doubled : Path := ⟨"/r//a"⟩
    (root.Descends ∧ first.Descends ∧ second.Descends ∧ doubled.Descends) ∧
      first.components ≠ second.components ∧
      (relativeTo root first).lossyText = (relativeTo root second).lossyText ∧
      (ofBytes (Utf8.encode (relativeTo root first).lossyText)).components ≠
        (relativeTo root first).components ∧
      (absolutize ⟨"/"⟩ (doubled.join (relativeTo doubled doubled))).text ≠ doubled.text := by
  -- Both files have one byte that belongs to no character, and each is decoded to the same sign.
  decide +kernel

end TemplateFacts.Path
