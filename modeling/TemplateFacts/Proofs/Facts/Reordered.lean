import Mathlib.Data.List.Nodup
import TemplateFacts.Facts.Template
import TemplateFacts.Proofs.Json.WrittenRecord

/-!
Reordered templates: the members of any object may be exchanged, and so may the resources of a list of
resources, those of the templates inside deployments too. What is read of a template stays the same up
to the order of its resources, and a template that is not read stays one that is not.
-/

namespace TemplateFacts

open Json (Written answerOf readText)

/-- What a part of a template is. -/
inductive Role where
  | template
  /-- A list of resources, or resources by name. -/
  | resources
  | resource
  /-- The properties of a resource, which hold the template that a deployment deploys. -/
  | properties
  | other
deriving DecidableEq

/-- What a member of a part is, given its name. -/
def Role.named : Role → (name : String) → Role
  -- Templates and resources hold their resources under the same name.
  | .template, name => if name = "resources" then .resources else .other
  | .resources, _ => .resource
  | .resource, name =>
    if name = "resources" then .resources else if name = "properties" then .properties else .other
  | .properties, name => if name = "template" then .template else .other
  | .other, _ => .other

/-- What a member of a part is, given its name behind the quote. -/
def Role.member (role : Role) (name : List UInt8) : Role :=
  -- A member whose name is no text is never read.
  match answerOf readText name with
  | some name => role.named name
  | none => .other

/-- What an item of a part is. -/
def Role.item : Role → (index : Nat) → Role
  -- The resources are the fourth value of a template that is given as a list.
  | .template, 3 => .resources
  | .resources, _ => .resource
  | _, _ => .other

/-- Two names say the same text. -/
def SameName (m n : List UInt8) : Prop :=
  ∃ name, answerOf readText m = some name ∧ answerOf readText n = some name

/-- One part of a template is another with neighbours exchanged any number of times: members of
different names, of any object inside it, and resources of a list of resources. -/
inductive Reordered : Role → Written → Written → Prop where
  | refl (role : Role) (w : Written) : Reordered role w w
  | trans {role : Role} {u v w : Written} (first : Reordered role u v) (later : Reordered role v w) :
      Reordered role u w
  | members {role : Role} (before behind : List (List UInt8 × Written)) (m n : List UInt8 × Written)
      (differ : ¬ SameName m.1 n.1) :
      Reordered role (.object (before ++ m :: n :: behind)) (.object (before ++ n :: m :: behind))
  | resources (before behind : List Written) (x y : Written) :
      Reordered .resources (.list (before ++ x :: y :: behind)) (.list (before ++ y :: x :: behind))
  | member {role : Role} {x y : Written} (before behind : List (List UInt8 × Written))
      (name : List UInt8) (inside : Reordered (role.member name) x y) :
      Reordered role (.object (before ++ (name, x) :: behind)) (.object (before ++ (name, y) :: behind))
  | item {role : Role} {x y : Written} (before behind : List Written)
      (inside : Reordered (role.item before.length) x y) :
      Reordered role (.list (before ++ x :: behind)) (.list (before ++ y :: behind))

section Values

variable {α β : Type} {f : α → Option β}

/-- What two neighbours give is exchanged with them. -/
theorem mapM_swap (before behind : List α) (x y : α) :
    Option.Rel (fun zs ws => ∃ as a b cs, f x = some a ∧ f y = some b ∧
      zs = as ++ a :: b :: cs ∧ ws = as ++ b :: a :: cs)
      ((before ++ x :: y :: behind).mapM f) ((before ++ y :: x :: behind).mapM f) := by
  -- Either all items give something, or some item of both lists gives nothing.
  simp only [List.mapM_append, List.mapM_cons]
  cases before.mapM f with
  | none => exact .none
  | some as =>
    cases first : f x with
    | none => cases f y <;> exact .none
    | some a =>
      cases second : f y with
      | none => exact .none
      | some b =>
        cases behind.mapM f with
        | none => exact .none
        | some cs => exact .some ⟨as, a, b, cs, rfl, rfl, rfl, rfl⟩

/-- Where one part gives something else than another, everything around it stays. -/
theorem mapM_at {r : β → β → Prop} {x y : α} (before behind : List α)
    (related : Option.Rel r (f x) (f y)) :
    Option.Rel (fun zs ws => ∃ as a b cs, r a b ∧ zs = as ++ a :: cs ∧ ws = as ++ b :: cs)
      ((before ++ x :: behind).mapM f) ((before ++ y :: behind).mapM f) := by
  -- Only the item that differs can give something else, and all others give the same.
  simp only [List.mapM_append, List.mapM_cons]
  cases before.mapM f with
  | none => exact .none
  | some as =>
    generalize f x = given at related ⊢
    generalize f y = given' at related ⊢
    cases related with
    | none => exact .none
    | some related =>
      cases behind.mapM f with
      | none => exact .none
      | some cs => exact .some ⟨as, _, _, cs, related, rfl, rfl⟩

end Values

section Members

variable {ms ns : List (String × Json)} {name : String}

/-- The last member of a name is kept under it. -/
theorem get?_ofMembers (ms : List (String × Json)) (name : String) :
    (Json.ofMembers ms).get? name = ms.reverse.lookup name := by
  -- Each member that is put replaces an earlier one of its name, so that the last one stays.
  have general (sorted : List (String × Json)) :
      (ms.foldl (fun sorted m => Json.putMember m.1 m.2 sorted) sorted).lookup name =
        (ms.reverse.lookup name).or (sorted.lookup name) := by
    induction ms generalizing sorted with
    | nil => rfl
    | cons m ms ih =>
      obtain ⟨held, kept⟩ := m
      rw [List.foldl_cons, ih, Json.lookup_putMember, List.reverse_cons, List.lookup_append,
        Json.lookup_cons, List.lookup_nil]
      cases ms.reverse.lookup name with
      | some x => rfl
      | none => split <;> rfl
  have kept := general []
  rw [List.lookup_nil, Option.or_none] at kept
  exact kept

/-- Sorted members are the same when they are found the same. -/
theorem increasing_ext (first : Json.Increasing ms) (second : Json.Increasing ns)
    (same : ∀ name, ms.lookup name = ns.lookup name) : ms = ns := by
  -- With increasing names both lists hold each of their members once, and sorted lists of one content
  -- are equal.
  have nodup {ms : List (String × Json)} (increasing : Json.Increasing ms) : ms.Nodup :=
    List.Nodup.of_map _ increasing.distinct
  have perm : ms.Perm ns := by
    refine (List.perm_ext_iff_of_nodup (nodup first) (nodup second)).mpr fun m => ?_
    constructor
    · exact fun member => Json.mem_of_lookup (same m.1 ▸ Json.lookup_of_mem first.distinct member)
    · exact fun member => Json.mem_of_lookup ((same m.1).symm ▸ Json.lookup_of_mem second.distinct member)
  exact perm.eq_of_pairwise (fun m n _ _ less greater => absurd greater (lt_asymm less)) first second

/-- An object is settled by what is found in it. -/
theorem ofMembers_ext (same : ∀ name, ms.reverse.lookup name = ns.reverse.lookup name) :
    Json.ofMembers ms = Json.ofMembers ns := by
  -- Both are built by insertion, so both are increasing, and they give the same for each name.
  have first : Json.Increasing (ms.foldl (fun sorted m => Json.putMember m.1 m.2 sorted) []) :=
    Json.increasing_foldl_putMember .nil
  have second : Json.Increasing (ns.foldl (fun sorted m => Json.putMember m.1 m.2 sorted) []) :=
    Json.increasing_foldl_putMember .nil
  have found (name : String) : (Json.ofMembers ms).get? name = (Json.ofMembers ns).get? name := by
    rw [get?_ofMembers, get?_ofMembers, same]
  rw [Json.ofMembers, Json.ofMembers, increasing_ext first second found]

/-- Neighbours of different names may be exchanged. -/
theorem ofMembers_swap (as cs : List (String × Json)) {a b : String × Json} (differ : a.1 ≠ b.1) :
    Json.ofMembers (as ++ a :: b :: cs) = Json.ofMembers (as ++ b :: a :: cs) := by
  obtain ⟨m, x⟩ := a
  obtain ⟨n, y⟩ := b
  -- Only the two neighbours come in another order, and no name is that of both.
  refine ofMembers_ext fun name => ?_
  have two : [(n, y), (m, x)].lookup name = [(m, x), (n, y)].lookup name := by
    simp only [Json.lookup_cons, List.lookup_nil]
    split
    · rename_i same
      rw [if_neg fun other => differ (other.symm.trans same)]
    · rfl
  have parts (z w : String × Json) :
      (as ++ z :: w :: cs).reverse = cs.reverse ++ ([w, z] ++ as.reverse) := by simp
  rw [parts, parts, List.lookup_append, List.lookup_append, List.lookup_append, List.lookup_append,
    two]

/-- What is found in an object is the last member of the name. -/
theorem get?_ofMembers_at (as cs : List (String × Json)) (name : String) (x : Json) (other : String) :
    (Json.ofMembers (as ++ (name, x) :: cs)).get? other =
      ((cs.reverse.lookup other).or (if other = name then some x else as.reverse.lookup other)) := by
  -- The last member of a name is the one that is kept, so the list is searched from its end.
  rw [get?_ofMembers, List.reverse_append, List.reverse_cons, List.append_assoc, List.lookup_append,
    List.singleton_append, Json.lookup_cons]

/-- Under other names than that of a member, it does not matter what the member is. -/
theorem get?_ofMembers_other (as cs : List (String × Json)) {name other : String}
    (unlike : other ≠ name) (x y : Json) :
    (Json.ofMembers (as ++ (name, x) :: cs)).get? other =
      (Json.ofMembers (as ++ (name, y) :: cs)).get? other := by
  rw [get?_ofMembers_at, get?_ofMembers_at, if_neg unlike, if_neg unlike]

/-- What is drawn from a member does not change with the member if it is drawn alike from both. -/
theorem map_get?_ofMembers {α : Type} (as cs : List (String × Json)) {x y : Json} (draw : Json → α)
    (same : draw x = draw y) (other : String) :
    ((Json.ofMembers (as ++ (name, x) :: cs)).get? other).map draw =
      ((Json.ofMembers (as ++ (name, y) :: cs)).get? other).map draw := by
  -- A later member of the name hides both; else the two values at this place are drawn alike.
  rw [get?_ofMembers_at, get?_ofMembers_at]
  cases cs.reverse.lookup other with
  | some z => rfl
  | none =>
    simp only [Option.none_or]
    split
    · exact congrArg some same
    · rfl

end Members

section Besides

variable {names : List String} {j k : Json}

/-- What is found in an object besides some names. -/
def besides (names : List String) (j : Json) (name : String) : Option Json :=
  -- Nothing is found under the names.
  if name ∈ names then none else j.get? name

theorem besides_of_notMem {name : String} (other : name ∉ names) : besides names j name = j.get? name :=
  if_neg other

theorem get?_of_besides (same : besides names j = besides names k) {name : String}
    (other : name ∉ names) : j.get? name = k.get? name := by
  rw [← besides_of_notMem other, ← besides_of_notMem other, same]

/-- Besides the name of a member, it does not matter what the member is. -/
theorem besides_ofMembers (as cs : List (String × Json)) {name : String} (among : name ∈ names)
    (x y : Json) :
    besides names (.ofMembers (as ++ (name, x) :: cs)) =
      besides names (.ofMembers (as ++ (name, y) :: cs)) := by
  -- Among the names left out nothing shows, and elsewhere the changed member is not asked for.
  funext other
  by_cases member : other ∈ names
  · rw [besides, besides, if_pos member, if_pos member]
  · have unlike : other ≠ name := fun same => member (same ▸ among)
    rw [besides_of_notMem member, besides_of_notMem member, get?_ofMembers_other as cs unlike x y]

/-- What a resource is found to say of itself: its members but the resources inside it, and its
properties but the template that it deploys. -/
def ownOf (j : Json) : (String → Option Json) × Option (String → Option Json) :=
  (besides ["resources", "properties"] j, (j.get? "properties").map (besides ["template"]))

/-- Two resources that say the same of themselves have the same members but for those two. -/
theorem get?_of_ownOf (same : ownOf j = ownOf k) (name : String)
    (other : name ∉ ["resources", "properties"]) : j.get? name = k.get? name :=
  get?_of_besides (Prod.mk.inj same).1 other

/-- Two resources that say the same of themselves have the same properties but for the template. -/
theorem property_of_ownOf (same : ownOf j = ownOf k) (name : String) (other : name ∉ ["template"]) :
    ((j.get? "properties").bind fun x => x.get? name) =
      (k.get? "properties").bind fun x => x.get? name := by
  -- The view keeps the properties besides the template, so any other name is read from the view.
  have held (x : Json) : ((x.get? "properties").bind fun x => x.get? name) =
      (ownOf x).2.bind fun found => found name := by
    rw [ownOf, Option.bind_map]
    refine congrArg _ (funext fun y => ?_)
    exact (besides_of_notMem other).symm
  rw [held, held, same]

end Besides

/-- The resources inside a resource are those of its member of that name. -/
theorem resourcesInside_eq (j : Json) :
    resourcesInside j = ((j.get? "resources").map resourcesIn).getD [] := by
  cases j with
  | object ms =>
    rw [resourcesInside, Json.get?]
    -- By induction on the members, of which only one can have the name.
    induction ms with
    | nil => rfl
    | cons m ms ih =>
      obtain ⟨held, x⟩ := m
      rw [resourcesOfMembers, resourcesOfMember, Json.lookup_cons]
      by_cases same : held = "resources"
      · rw [if_pos (beq_iff_eq.mpr same), if_pos same.symm]
        rfl
      · rw [if_neg fun equal => same (beq_iff_eq.mp equal), if_neg (Ne.symm same)]
        exact ih
  | _ => rfl

/-- The resources of a list are the items and those inside them. -/
theorem resourcesAmong_eq (items : List Json) :
    resourcesAmong items = items.flatMap fun item => item :: resourcesInside item := by
  -- The recursion through the items, as a flat map of each item and what is inside it.
  induction items with
  | nil => rfl
  | cons item items ih => rw [resourcesAmong, ih, List.flatMap_cons, List.cons_append]

/-- What two documents have in common that stand for the same part of a template, reordered. -/
def Matches : Role → Json → Json → Prop
  -- Nothing is read of the templates inside deployments.
  | .template, _, _ => True
  | .resources, j, k => ((resourcesIn j).map ownOf).Perm ((resourcesIn k).map ownOf)
  | .resource, j, k =>
    ownOf j = ownOf k ∧ ((resourcesInside j).map ownOf).Perm ((resourcesInside k).map ownOf)
  | .properties, j, k => besides ["template"] j = besides ["template"] k
  | .other, j, k => j = k

namespace Matches

variable {role : Role} {j k l : Json}

theorem refl (role : Role) (j : Json) : Matches role j j := by
  -- In each role a value agrees with itself.
  cases role with
  | template => trivial
  | resources => exact List.Perm.refl _
  | resource => exact ⟨rfl, .refl _⟩
  | properties => rfl
  | other => rfl

theorem trans (first : Matches role j k) (later : Matches role k l) : Matches role j l := by
  -- Each role compares by an equality or by a permutation, and both are transitive.
  cases role with
  | template => trivial
  | resources => exact List.Perm.trans first later
  | resource => exact ⟨first.1.trans later.1, first.2.trans later.2⟩
  | properties => exact Eq.trans first later
  | other => exact Eq.trans first later

/-- Two objects match that differ in one member, if the member matches. -/
theorem member {name : String} {x y : Json} (as cs : List (String × Json))
    (inside : Matches (role.named name) x y) :
    Matches role (.ofMembers (as ++ (name, x) :: cs)) (.ofMembers (as ++ (name, y) :: cs)) := by
  -- Which names count depends on the role; a member of any other name is the same.
  cases role with
  | template => trivial
  | resources => exact List.Perm.refl _
  | other =>
    obtain rfl : x = y := inside
    exact .refl .other _
  | properties =>
    -- A template is left out of what is compared, and any other member is compared as it is.
    by_cases isTemplate : name = "template"
    · exact besides_ofMembers as cs (List.mem_singleton.mpr isTemplate) x y
    · rw [Role.named, if_neg isTemplate] at inside
      obtain rfl : x = y := inside
      exact .refl .properties _
  | resource =>
    -- Resources are compared up to their order, and properties but for the templates inside.
    by_cases isResources : name = "resources"
    · rw [Role.named, if_pos isResources] at inside
      refine ⟨Prod.ext (besides_ofMembers as cs (by simp [isResources]) x y) ?_, ?_⟩
      · have unlike : "properties" ≠ name := by rw [isResources]; decide
        exact congrArg (Option.map _) (get?_ofMembers_other as cs unlike x y)
      · rw [resourcesInside_eq, resourcesInside_eq, get?_ofMembers_at, get?_ofMembers_at, if_pos isResources.symm,
          if_pos isResources.symm]
        -- A later member of the name hides both.
        cases cs.reverse.lookup "resources" with
        | some z => exact .refl _
        | none => exact inside
    · by_cases isProperties : name = "properties"
      · rw [Role.named, if_neg isResources, if_pos isProperties] at inside
        have unlike : "resources" ≠ name := by rw [isProperties]; decide
        refine ⟨Prod.ext (besides_ofMembers as cs (by simp [isProperties]) x y)
          (map_get?_ofMembers as cs _ inside "properties"), ?_⟩
        rw [resourcesInside_eq, resourcesInside_eq, get?_ofMembers_other as cs unlike x y]
      · rw [Role.named, if_neg isResources, if_neg isProperties] at inside
        obtain rfl : x = y := inside
        exact .refl .resource _

end Matches

theorem rel_refl (role : Role) (value : Option Json) : Option.Rel (Matches role) value value := by
  -- Both are there or neither is.
  cases value with
  | none => exact .none
  | some j => exact .some (.refl role j)

/-- A relation that is transitive is so between values that may be absent. -/
theorem rel_trans {α : Type} {r : α → α → Prop} {u v w : Option α} (first : Option.Rel r u v)
    (later : Option.Rel r v w) (trans : ∀ a b c, r a b → r b c → r a c) : Option.Rel r u w := by
  -- Presence goes through along the way, and the values are related by `trans`.
  cases first with
  | none => exact later
  | some first =>
    cases later with
    | some later => exact .some (trans _ _ _ first later)

/-- Related values stay related when they are changed alike. -/
theorem rel_map {α β γ δ : Type} {r : α → β → Prop} {s : γ → δ → Prop} {f : α → γ} {g : β → δ}
    {x : Option α} {y : Option β} (related : Option.Rel r x y) (keeps : ∀ a b, r a b → s (f a) (g b)) :
    Option.Rel s (x.map f) (y.map g) := by
  -- Presence is kept by the map.
  cases related with
  | none => exact .none
  | some related => exact .some (keeps _ _ related)

/-- Reordered parts say matching documents, or both say none. -/
theorem Reordered.value {role : Role} {v w : Written} (reordered : Reordered role v w) (depth : Nat) :
    Option.Rel (Matches role) (v.value depth) (w.value depth) := by
  -- By induction on the exchanges, each of which takes place below one level of the document.
  induction reordered generalizing depth with
  | refl role w => exact rel_refl role _
  | trans _ _ ihFirst ihLater =>
    exact rel_trans (ihFirst depth) (ihLater depth) fun _ _ _ => Matches.trans
  | @members role before behind m n differ =>
    -- Members of different names fall into the same places in either order.
    cases depth with
    | zero => exact .none
    | succ depth =>
      simp only [Written.value, Written.valueMembers_eq]
      refine rel_map (mapM_swap before behind m n) ?_
      rintro _ _ ⟨as, a, b, cs, first, second, rfl, rfl⟩
      obtain ⟨name, said, mapped⟩ := Option.bind_eq_some_iff.mp first
      obtain ⟨x, _, rfl⟩ := Option.map_eq_some_iff.mp mapped
      obtain ⟨name', said', mapped'⟩ := Option.bind_eq_some_iff.mp second
      obtain ⟨y, _, rfl⟩ := Option.map_eq_some_iff.mp mapped'
      have unlike : name ≠ name' := fun same => differ ⟨name, said, same ▸ said'⟩
      rw [ofMembers_swap as cs (show (name, x).1 ≠ (name', y).1 from unlike)]
      exact .refl role _
  | resources before behind x y =>
    -- Resources stand in another order, with the same content.
    cases depth with
    | zero => exact .none
    | succ depth =>
      simp only [Written.value, Written.valueItems_eq]
      refine rel_map (mapM_swap before behind x y) ?_
      rintro _ _ ⟨as, a, b, cs, _, _, rfl, rfl⟩
      show ((resourcesAmong _).map ownOf).Perm ((resourcesAmong _).map ownOf)
      rw [resourcesAmong_eq, resourcesAmong_eq]
      exact (((List.Perm.swap b a cs).append_left as).flatMap_right _).map _
  | @member role x y before behind name inside ih =>
    -- The exchange is within one member, whose name says what is compared there.
    cases depth with
    | zero => exact .none
    | succ depth =>
      simp only [Written.value, Written.valueMembers_eq]
      have related : Option.Rel (fun a b : String × Json => a.1 = b.1 ∧
            Matches (role.named a.1) a.2 b.2)
          ((answerOf readText name).bind fun s => (x.value depth).map (s, ·))
          ((answerOf readText name).bind fun s => (y.value depth).map (s, ·)) := by
        have ih := ih depth
        unfold Role.member at ih
        cases said : answerOf readText name with
        | none => exact .none
        | some s =>
          rw [said] at ih
          exact rel_map ih fun a b same => ⟨rfl, same⟩
      refine rel_map (mapM_at before behind related) ?_
      rintro _ _ ⟨as, ⟨held, a⟩, ⟨_, b⟩, cs, ⟨rfl, same⟩, rfl, rfl⟩
      exact .member as cs same
  | @item role x y before behind inside ih =>
    -- The exchange is within one item of a list.
    cases depth with
    | zero => exact .none
    | succ depth =>
      simp only [Written.value, Written.valueItems_eq]
      refine rel_map (mapM_at before behind (ih depth)) ?_
      rintro _ _ ⟨as, a, b, cs, same, rfl, rfl⟩
      cases role with
      | template => trivial
      | resource => exact ⟨rfl, .refl _⟩
      | properties => exact rfl
      | other =>
        obtain rfl : a = b := same
        exact .refl .other _
      | resources =>
        obtain ⟨own, perm⟩ : Matches .resource a b := same
        show ((resourcesAmong _).map ownOf).Perm ((resourcesAmong _).map ownOf)
        simp only [resourcesAmong_eq, List.flatMap_append, List.flatMap_cons, List.map_append,
          List.map_cons, own]
        exact ((perm.cons _).append_right _).append_left _

end TemplateFacts
