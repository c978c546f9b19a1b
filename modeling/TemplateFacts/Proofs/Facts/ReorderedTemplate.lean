import TemplateFacts.Proofs.Facts.Reordered

/-!
Templates read from reordered texts: both are read or none is, and both say the same up to the order
of the resources, each of which says the same of itself.
-/

namespace TemplateFacts

open Json (Written WrittenField answerOf readText completeRecord)

/-- Two fields have one name and matching values. -/
def FieldMatches (a b : String × Json) : Prop := a.1 = b.1 ∧ Matches (Role.template.named a.1) a.2 b.2

/-- The same fields are held, with matching values. -/
def Held (seen seen' : List (String × Json)) : Prop :=
  ∀ name, Option.Rel (Matches (Role.template.named name)) (seen.lookup name) (seen'.lookup name)

section Related

variable {α β γ δ : Type} {r : α → β → Prop} {s : γ → δ → Prop}

/-- Related values that are used alike give related results. -/
theorem rel_bind {f : α → Option γ} {g : β → Option δ} {x : Option α} {y : Option β}
    (related : Option.Rel r x y) (keeps : ∀ a b, r a b → Option.Rel s (f a) (g b)) :
    Option.Rel s (x.bind f) (y.bind g) := by
  -- When the first is missing so is the second; else both go on from related values.
  cases related with
  | none => exact .none
  | some related => exact keeps _ _ related

/-- What keeps a relation at each step keeps it over all of them. -/
theorem rel_foldlM {α β : Type} {r : β → β → Prop} {f : β → α → Option β}
    (keeps : ∀ x a b, r a b → Option.Rel r (f a x) (f b x)) (xs : List α) {a b : β} (related : r a b) :
    Option.Rel r (xs.foldlM f a) (xs.foldlM f b) := by
  -- One step keeps the relation and fails on both sides at once.
  induction xs generalizing a b with
  | nil => exact .some related
  | cons x xs ih =>
    rw [List.foldlM_cons, List.foldlM_cons]
    exact rel_bind (keeps x a b related) fun _ _ => ih

end Related

namespace Held

variable {seen seen' : List (String × Json)}

theorem refl (seen : List (String × Json)) : Held seen seen := fun _ => rel_refl _ _

/-- Fields that match one by one are held alike. -/
theorem of_each (each : List.Forall₂ FieldMatches seen seen') : Held seen seen' := by
  intro name
  -- By induction on the fields, of which the first one with the name is found on both sides.
  induction each with
  | nil => exact .none
  | @cons a b seen seen' first later ih =>
    obtain ⟨held, x⟩ := a
    obtain ⟨_, y⟩ := b
    obtain ⟨rfl, same⟩ := first
    rw [Json.lookup_cons, Json.lookup_cons]
    split
    · rename_i equal
      exact .some (equal ▸ same)
    · exact ih

/-- A field is held already on both sides or on neither. -/
theorem isSome_eq (held : Held seen seen') (name : String) :
    (seen.lookup name).isSome = (seen'.lookup name).isSome := by
  -- The values are related only when both are there.
  have related := held name
  generalize seen.lookup name = x at related ⊢
  generalize seen'.lookup name = y at related ⊢
  cases related with
  | none => rfl
  | some _ => rfl

/-- Matching fields may be held behind the others. -/
theorem append (held : Held seen seen') {a b : String × Json} (same : FieldMatches a b) :
    Held (seen ++ [a]) (seen' ++ [b]) := by
  obtain ⟨named, x⟩ := a
  obtain ⟨_, y⟩ := b
  obtain ⟨rfl, same⟩ := same
  intro name
  have related := held name
  -- The fields that come last are looked at where the name is not held before.
  rw [List.lookup_append, List.lookup_append, Json.lookup_cons, Json.lookup_cons]
  generalize seen.lookup name = z at related ⊢
  generalize seen'.lookup name = w at related ⊢
  cases related with
  | some related => exact .some related
  | none =>
    simp only [Option.none_or, List.lookup_nil]
    split
    · rename_i equal
      exact .some (equal ▸ same)
    · exact .none

end Held

/-- The value of each field is read alike from reordered parts. -/
def Steady (fields : List WrittenField) : Prop :=
  ∀ field ∈ fields, ∀ x y, Reordered (Role.template.named field.1) x y →
    Option.Rel (Matches (Role.template.named field.1)) (field.2.2 x) (field.2.2 y)

section Record

variable {fields : List WrittenField} {seen seen' : List (String × Json)}

/-- Members of one name give matching fields. -/
theorem rel_gift (steady : Steady fields) {name : List UInt8} {x y : Written}
    (inside : Reordered (Role.template.member name) x y) :
    Option.Rel (Option.Rel FieldMatches) (Written.gift fields (name, x)) (Written.gift fields (name, y)) := by
  unfold Written.gift
  -- Both have the same name, and so give for the same field, or for none.
  cases said : answerOf readText name with
  | none => exact .none
  | some held =>
    simp only [Option.bind_some]
    cases found : fields.lookup held with
    | none => exact .some .none
    | some field =>
      rw [Role.member, said] at inside
      exact rel_map (steady (held, field) (Json.mem_of_lookup found) x y inside)
        fun a b same => .some ⟨rfl, same⟩

/-- Matching fields are kept alike. -/
theorem rel_keep (held : Held seen seen') {g g' : Option (String × Json)}
    (same : Option.Rel FieldMatches g g') :
    Option.Rel Held (Written.keep seen g) (Written.keep seen' g') := by
  -- A name that is held twice is refused on both sides.
  cases same with
  | none => exact .some held
  | @some a b same =>
    obtain ⟨name, x⟩ := a
    obtain ⟨_, y⟩ := b
    obtain ⟨rfl, same⟩ := same
    unfold Written.keep
    simp only [held.isSome_eq name]
    split
    · exact .none
    · exact .some (held.append ⟨rfl, same⟩)

/-- Members of one name are taken alike. -/
theorem rel_take (steady : Steady fields) (held : Held seen seen') {name : List UInt8} {x y : Written}
    (inside : Reordered (Role.template.member name) x y) :
    Option.Rel Held (Written.take fields seen (name, x)) (Written.take fields seen' (name, y)) :=
  rel_bind (rel_gift steady inside) fun _ _ same => rel_keep held same

/-- The members that follow are taken alike. -/
theorem rel_takeAll (steady : Steady fields) (held : Held seen seen')
    (ms : List (List UInt8 × Written)) :
    Option.Rel Held (ms.foldlM (Written.take fields) seen) (ms.foldlM (Written.take fields) seen') :=
  rel_foldlM (fun ⟨_, x⟩ _ _ held => rel_take steady held (.refl _ x)) ms held

/-- What a member gives has its name. -/
theorem name_of_gift {m : List UInt8 × Written} {name : String} {x : Json}
    (given : Written.gift fields m = some (some (name, x))) : answerOf readText m.1 = some name := by
  -- A gift names its field by the text that its name was read as.
  obtain ⟨held, said, given⟩ := Option.bind_eq_some_iff.mp given
  split at given
  · cases given
  · obtain ⟨y, _, same⟩ := Option.map_eq_some_iff.mp given
    cases same
    exact said

/-- Fields of two names may be kept in either order. -/
theorem rel_keep_swap {s t : String} (differ : s ≠ t) (x y : Json) :
    Option.Rel Held
      ((Written.keep seen (some (s, x))).bind fun seen => Written.keep seen (some (t, y)))
      ((Written.keep seen (some (t, y))).bind fun seen => Written.keep seen (some (s, x))) := by
  have behind {name other : String} (z : Json) (unlike : other ≠ name) :
      (seen ++ [(name, z)]).lookup other = seen.lookup other := by
    rw [List.lookup_append, Json.lookup_cons, if_neg unlike, List.lookup_nil, Option.or_none]
  -- A field that was seen is refused in either order.
  cases first : (seen.lookup s).isSome with
  | true =>
    rw [Written.keep_seen first, Option.bind_none]
    cases second : (seen.lookup t).isSome with
    | true =>
      rw [Written.keep_seen second]
      exact .none
    | false =>
      rw [Written.keep_new second, Option.bind_some, Written.keep_seen (by rw [behind y differ, first])]
      exact .none
  | false =>
    -- The first is new, and stays new behind the other, as their names differ.
    rw [Written.keep_new first, Option.bind_some]
    cases second : (seen.lookup t).isSome with
    | true =>
      rw [Written.keep_seen second, Written.keep_seen (by rw [behind x differ.symm, second])]
      exact .none
    | false =>
      rw [Written.keep_new second, Option.bind_some, Written.keep_new (by rw [behind x differ.symm, second]),
        Written.keep_new (by rw [behind y differ, first])]
      -- Both are kept, and looking up a name finds the same value in either order.
      refine .some fun name => ?_
      have same : (seen ++ [(s, x)] ++ [(t, y)]).lookup name =
          (seen ++ [(t, y)] ++ [(s, x)]).lookup name := by
        simp only [List.lookup_append, Json.lookup_cons, List.lookup_nil, Option.or_assoc]
        by_cases named : name = s
        · rw [if_pos named, if_neg (named ▸ differ), Option.or_none, Option.none_or]
        · rw [if_neg named, Option.or_none, Option.none_or]
      rw [same]
      exact rel_refl _ _

/-- Neighbours of two names may be taken in either order. -/
theorem rel_take_swap {m n : List UInt8 × Written} (differ : ¬ SameName m.1 n.1) :
    Option.Rel Held
      ((Written.take fields seen m).bind fun seen => Written.take fields seen n)
      ((Written.take fields seen n).bind fun seen => Written.take fields seen m) := by
  have alike (x : Option (List (String × Json))) : Option.Rel Held x x := by
    cases x with
    | none => exact .none
    | some seen => exact .some (.refl seen)
  unfold Written.take
  -- A member that cannot be taken refuses the record, before or behind the other.
  cases first : Written.gift fields m with
  | none =>
    simp only [Option.bind_none, Option.bind_fun_none]
    exact .none
  | some g =>
    cases second : Written.gift fields n with
    | none =>
      simp only [Option.bind_none, Option.bind_fun_none]
      exact .none
    | some h =>
      -- A member that is not known leaves what was seen as it is.
      simp only [Option.bind_some]
      cases g with
      | none =>
        have last : ((Written.keep seen h).bind fun seen => Written.keep seen none) =
            Written.keep seen h := Option.bind_fun_some _
        rw [last]
        exact alike _
      | some a =>
        cases h with
        | none =>
          have last : ((Written.keep seen (some a)).bind fun seen => Written.keep seen none) =
              Written.keep seen (some a) := Option.bind_fun_some _
          rw [last]
          exact alike _
        | some b =>
          -- Two known members are kept under the names of different fields.
          have unlike : a.1 ≠ b.1 := by
            intro same
            have said := name_of_gift second
            rw [← same] at said
            exact differ ⟨a.1, name_of_gift first, said⟩
          exact rel_keep_swap unlike a.2 b.2

/-- Fields that are held alike are completed alike. -/
theorem rel_completeRecord {α : Type} (held : Held seen seen') (fields : List (String × (Json.Absence × α))) :
    Option.Rel (List.Forall₂ FieldMatches) (completeRecord seen fields).toOption
      (completeRecord seen' fields).toOption := by
  induction fields with
  | nil => exact .some .nil
  | cons field fields ih =>
    obtain ⟨name, absence, what⟩ := field
    have given := held name
    -- A field before the others is put before what completes them.
    have put {a b : String × Json} (same : FieldMatches a b) :
        Option.Rel (List.Forall₂ FieldMatches) ((completeRecord seen fields).map (a :: ·)).toOption
          ((completeRecord seen' fields).map (b :: ·)).toOption := by
      generalize completeRecord seen fields = first at ih ⊢
      generalize completeRecord seen' fields = second at ih ⊢
      cases first with
      | error cause =>
        cases second with
        | error cause' => exact .none
        | ok ys => cases ih
      | ok xs =>
        cases second with
        | error cause' => cases ih
        | ok ys => exact .some (.cons same (Option.rel_some_some.mp ih))
    simp only [completeRecord]
    generalize seen.lookup name = x at given ⊢
    generalize seen'.lookup name = y at given ⊢
    cases given with
    | some same => exact put ⟨rfl, same⟩
    | none =>
      cases absence with
      | refused => exact .none
      | omitted => exact ih
      | replaced value => exact put ⟨rfl, .refl _ value⟩

/-- Fields match themselves. -/
theorem fieldsMatch_refl (xs : List (String × Json)) : List.Forall₂ FieldMatches xs xs :=
  List.forall₂_same.mpr fun x _ => ⟨rfl, .refl _ x.2⟩

/-- Fields that match the same match. -/
theorem fieldsMatch_trans {xs ys zs : List (String × Json)} (first : List.Forall₂ FieldMatches xs ys)
    (later : List.Forall₂ FieldMatches ys zs) : List.Forall₂ FieldMatches xs zs := by
  -- The pairs of the first list meet those of the second at the same name.
  induction first generalizing zs with
  | nil => exact later
  | @cons x y xs ys same _ ih =>
    cases later with
    | @cons _ z _ zs same' later =>
      refine .cons ⟨same.1.trans same'.1, same.2.trans ?_⟩ (ih later)
      rw [same.1]
      exact same'.2

/-- What is the same matches, or is missing on both sides. -/
theorem rel_fieldsMatch_refl (value : Option (List (String × Json))) :
    Option.Rel (List.Forall₂ FieldMatches) value value := by
  -- Each field agrees with itself.
  cases value with
  | none => exact .none
  | some xs => exact .some (fieldsMatch_refl xs)

/-- Values in order are taken alike if they are but for one, which gives a matching field. -/
theorem rel_takeInOrder (before behind : List Written) {x y : Written}
    (related : ∀ field, fields[before.length]? = some field →
      Option.Rel (Matches (Role.template.named field.1)) (field.2.2 x) (field.2.2 y)) :
    Option.Rel (List.Forall₂ FieldMatches) (Written.takeInOrder fields (before ++ x :: behind))
      (Written.takeInOrder fields (before ++ y :: behind)) := by
  -- By induction on the fields, down to the one whose value differs.
  induction fields generalizing before with
  | nil => cases before <;> exact .none
  | cons field fields ih =>
    obtain ⟨name, absence, value⟩ := field
    cases before with
    | nil =>
      refine rel_bind (related _ rfl) fun a b same => ?_
      exact rel_map (rel_fieldsMatch_refl _) fun _ _ later => .cons ⟨rfl, same⟩ later
    | cons b before =>
      show Option.Rel _ ((value b).bind _) ((value b).bind _)
      cases value b with
      | none => exact .none
      | some z => exact rel_map (ih before related) fun _ _ later => .cons ⟨rfl, .refl _ z⟩ later

/-- Both are records, of matching fields. -/
def RecordMatches (j k : Json) : Prop :=
  ∃ xs ys, j = .object xs ∧ k = .object ys ∧ List.Forall₂ FieldMatches xs ys

theorem RecordMatches.trans {j k l : Json} (first : RecordMatches j k) (later : RecordMatches k l) :
    RecordMatches j l := by
  -- Both relations are about the same middle list.
  obtain ⟨xs, ys, rfl, rfl, same⟩ := first
  obtain ⟨_, zs, equal, rfl, same'⟩ := later
  cases equal
  exact ⟨xs, zs, rfl, rfl, fieldsMatch_trans same same'⟩

/-- Reordered templates say records of matching fields, or both say none. -/
theorem Reordered.record {role : Role} {v w : Written} (reordered : Reordered role v w)
    (whole : role = .template) (steady : Steady fields)
    (places : ∀ index field, fields[index]? = some field →
      Role.template.item index = Role.template.named field.1) :
    Option.Rel RecordMatches (v.record fields) (w.record fields) := by
  have object {value value' : Option (List (String × Json))}
      (related : Option.Rel (List.Forall₂ FieldMatches) value value') :
      Option.Rel RecordMatches (value.map .object) (value'.map .object) :=
    rel_map related fun xs ys same => ⟨xs, ys, rfl, rfl, same⟩
  have complete {value value' : Option (List (String × Json))} (related : Option.Rel Held value value') :
      Option.Rel RecordMatches
        (value.bind fun seen => (completeRecord seen fields).toOption.map .object)
        (value'.bind fun seen => (completeRecord seen fields).toOption.map .object) :=
    rel_bind related fun _ _ held => object (rel_completeRecord held fields)
  -- By induction on the reordering; in the whole template only members and fields come in another
  -- order.
  induction reordered with
  | refl role w =>
    cases w with
    | scalar token => exact .none
    | list xs => exact object (rel_fieldsMatch_refl _)
    | object ms => exact complete (rel_takeAll steady (.refl []) ms)
  | trans _ _ ihFirst ihLater =>
    exact rel_trans (ihFirst whole) (ihLater whole) fun _ _ _ => RecordMatches.trans
  | members before behind m n differ =>
    -- Two members that are not one field are taken in either order.
    refine complete ?_
    rw [List.foldlM_append, List.foldlM_append]
    cases before.foldlM (Written.take fields) [] with
    | none => exact .none
    | some seen =>
      simp only [Option.bind_eq_bind, Option.bind_some, List.foldlM_cons]
      rw [← Option.bind_assoc, ← Option.bind_assoc]
      exact rel_bind (rel_take_swap differ) fun _ _ held => rel_takeAll steady held behind
  | resources before behind x y => cases whole
  | member before behind name inside ih =>
    -- The members before it are taken alike, then the one that is reordered inside, then the rest.
    subst whole
    refine complete ?_
    rw [List.foldlM_append, List.foldlM_append]
    refine rel_bind (rel_takeAll steady (.refl []) before) fun _ _ held => ?_
    rw [List.foldlM_cons, List.foldlM_cons]
    exact rel_bind (rel_take steady held inside) fun _ _ held => rel_takeAll steady held behind
  | item before behind inside ih =>
    subst whole
    refine object (rel_takeInOrder before behind fun field found => ?_)
    rw [places _ _ found] at inside
    exact steady field (List.mem_of_getElem? found) _ _ inside

end Record

section Parse

/-- The fields of a template, with what is read of each. -/
def templateFields (depth : Nat) : List WrittenField := [
  ("$schema", .replaced .null, fun w => w.value depth),
  ("parameters", .replaced .null, Written.table depth),
  ("outputs", .replaced .null, Written.table depth),
  ("resources", .replaced .null, fun w => w.value depth)]

/-- The text is written as the tree, with blanks around it. -/
def WrittenAs (s : String) (w : Written) : Prop :=
  ∃ before bytes behind, Json.IsBlank before ∧ w.Renders bytes ∧ Json.IsBlank behind ∧
    Utf8.encode s = before ++ (bytes ++ behind)

/-- A document on one line is written as its tree. -/
theorem writtenAs_compact {j : Json} (exact : Json.IsExact j) : WrittenAs (Json.compact j) (.ofJson j) :=
  ⟨[], _, [], Json.lead_nil, Written.renders_ofJson j exact, Json.lead_nil,
    by rw [Json.encode_compact, List.nil_append, List.append_nil]⟩

/-- What is read of a text is what its tree says. -/
theorem parse_written {s : String} {w : Written} (file : Path) (text : WrittenAs s w) :
    (Template.parse file s).toOption = (w.record (templateFields 126)).map Template.ofRecord := by
  obtain ⟨before, bytes, behind, isBlank, renders, isBlank', encoded⟩ := text
  -- The fields are read from inside the text, and the blanks around it say nothing.
  have enough : bytes.length ≤ Json.budgetFor (Utf8.encode s) := by
    rw [encoded, Json.budgetFor, List.length_append, List.length_append]
    omega
  have closed : Json.Closed behind := by
    have ends := Json.closed_blank isBlank' Json.closed_nil
    rwa [List.append_nil] at ends
  have understands : List.Forall₂ (Json.UnderstandsField bytes.length 126)
      (Json.Shape.fieldReaders (Json.budgetFor (Utf8.encode s)) [
        ("$schema", .replaced .null, .any),
        ("parameters", .replaced .null, .optional .table),
        ("outputs", .replaced .null, .optional .table),
        ("resources", .replaced .null, .any)]) (templateFields 126) :=
    .cons ⟨rfl, rfl, Json.understands_any 126 enough⟩
      (.cons ⟨rfl, rfl, Json.understands_table 126 enough⟩
        (.cons ⟨rfl, rfl, Json.understands_table 126 enough⟩
          (.cons ⟨rfl, rfl, Json.understands_any 126 enough⟩ .nil)))
  have answers := Json.readRecord_answers "Template" behind ((⟨1, 0⟩ : Json.Position).afterAll before)
    understands renders enough
  rw [← Json.readRecord_blank isBlank (renders.opens.begins behind), ← encoded] at answers
  have read : (Template.shape.ofBytes (Utf8.encode s)).toOption = w.record (templateFields 126) :=
    Json.finish_answers answers isBlank'
  rw [Template.parse, ← read]
  cases Template.shape.ofBytes (Utf8.encode s) <;> rfl

/-- The parts of one template are those of another, but for the order of the resources. -/
structure TemplateMatches (t u : Template) : Prop where
  schema : t.schema = u.schema
  parameters : t.parameters = u.parameters
  outputs : t.outputs = u.outputs
  resources : (t.allResources.map ownOf).Perm (u.allResources.map ownOf)

/-- Reordered trees keep their kind, and a scalar is kept whole. -/
theorem Reordered.kind {role : Role} {v w : Written} (reordered : Reordered role v w) :
    v = w ∨ (∃ xs ys, v = .list xs ∧ w = .list ys) ∨ ∃ ms ns, v = .object ms ∧ w = .object ns := by
  -- By induction on the reordering, each step of which is inside a list or inside an object.
  induction reordered with
  | refl role w => exact .inl rfl
  | members before behind m n differ => exact .inr (.inr ⟨_, _, rfl, rfl⟩)
  | resources before behind x y => exact .inr (.inl ⟨_, _, rfl, rfl⟩)
  | member before behind name inside ih => exact .inr (.inr ⟨_, _, rfl, rfl⟩)
  | item before behind inside ih => exact .inr (.inl ⟨_, _, rfl, rfl⟩)
  | trans _ _ ihFirst ihLater =>
    rcases ihFirst with rfl | ⟨xs, ys, rfl, rfl⟩ | ⟨ms, ns, rfl, rfl⟩
    · exact ihLater
    · rcases ihLater with rfl | ⟨_, zs, _, rfl⟩ | ⟨_, _, same, _⟩
      · exact .inr (.inl ⟨_, _, rfl, rfl⟩)
      · exact .inr (.inl ⟨_, _, rfl, rfl⟩)
      · cases same
    · rcases ihLater with rfl | ⟨_, _, same, _⟩ | ⟨_, os, _, rfl⟩
      · exact .inr (.inr ⟨_, _, rfl, rfl⟩)
      · cases same
      · exact .inr (.inr ⟨_, _, rfl, rfl⟩)

/-- The fields of a template are read alike. -/
theorem steady_templateFields (depth : Nat) : Steady (templateFields depth) := by
  -- A table is an object, so that only members of objects come in another order.
  have table (x y : Written) (reordered : Reordered .other x y) :
      Option.Rel (Matches .other) (x.table depth) (y.table depth) := by
    rcases reordered.kind with rfl | ⟨xs, ys, rfl, rfl⟩ | ⟨ms, ns, rfl, rfl⟩
    · exact rel_refl _ _
    · exact .none
    · exact reordered.value depth
  intro field member x y reordered
  simp only [templateFields, List.mem_cons, List.not_mem_nil, or_false] at member
  rcases member with rfl | rfl | rfl | rfl
  · exact reordered.value depth
  · exact table x y reordered
  · exact table x y reordered
  · exact reordered.value depth

/-- The fields of a template stand where a list gives them. -/
theorem item_templateFields {depth index : Nat} {field : WrittenField}
    (found : (templateFields depth)[index]? = some field) :
    Role.template.item index = Role.template.named field.1 := by
  -- The four fields of a template are checked one by one.
  match index, found with
  | 0, rfl => rfl
  | 1, rfl => rfl
  | 2, rfl => rfl
  | 3, rfl => rfl

/-- Records of matching fields say matching templates. -/
theorem RecordMatches.template {j k : Json} (same : RecordMatches j k) :
    TemplateMatches (.ofRecord j) (.ofRecord k) := by
  -- Every field but the resources is equal on both sides; of the resources only the views are permuted.
  obtain ⟨xs, ys, rfl, rfl, each⟩ := same
  have held := Held.of_each each
  have kept (name : String) (other : name ≠ "resources") :
      Json.get? name (.object xs) = Json.get? name (.object ys) := by
    have related := held name
    rw [Role.named, if_neg other] at related
    show xs.lookup name = ys.lookup name
    generalize xs.lookup name = x at related ⊢
    generalize ys.lookup name = y at related ⊢
    cases related with
    | none => rfl
    | some same => exact congrArg some same
  have resources : Option.Rel (Matches .resources) (Json.get? "resources" (.object xs))
      (Json.get? "resources" (.object ys)) := held "resources"
  refine ⟨?_, ?_, ?_, ?_⟩
  · simp only [Template.ofRecord, kept "$schema" (by decide)]
  · simp only [Template.ofRecord, Template.sectionOf, kept "parameters" (by decide)]
  · simp only [Template.ofRecord, Template.sectionOf, kept "outputs" (by decide)]
  · show ((resourcesIn ((Json.get? "resources" (.object xs)).getD .null)).map ownOf).Perm
      ((resourcesIn ((Json.get? "resources" (.object ys)).getD .null)).map ownOf)
    generalize Json.get? "resources" (.object xs) = x at resources ⊢
    generalize Json.get? "resources" (.object ys) = y at resources ⊢
    cases resources with
    | none => exact .refl _
    | some same => exact same

/-- Reordered texts are read as matching templates, or none is. -/
theorem rel_parse {s t : String} {v w : Written} (file : Path) (first : WrittenAs s v)
    (second : WrittenAs t w) (reordered : Reordered .template v w) :
    Option.Rel TemplateMatches (Template.parse file s).toOption (Template.parse file t).toOption := by
  -- Both texts read as the records of what is written in them, and the records agree.
  rw [parse_written file first, parse_written file second]
  exact rel_map (reordered.record rfl (steady_templateFields 126) fun _ _ => item_templateFields)
    fun _ _ => RecordMatches.template

end Parse

end TemplateFacts
