import TemplateFacts.Proofs.Facts.Order
import TemplateFacts.Proofs.Json.Grammar

/-!
Where the resources of a template stand: each at the indices that lead to it, the last of them in its own
list. Resources are listed in the order of these places, so that a resource stands before those inside it.
-/

namespace TemplateFacts

/-- The resource at a place: an item of the list, or one at the rest of the place inside it. -/
def resourceAt : Json → List Nat → Option Json
  -- Only lists hold resources.
  | .list items, [i] => items[i]?
  | .list items, i :: next :: place =>
    (items[i]?.bind (·.get? "resources")).bind fun inner => resourceAt inner (next :: place)
  | _, _ => none

/-- The resource at a place inside another one. -/
def resourceWithin (item : Json) (place : List Nat) : Option Json :=
  (item.get? "resources").bind fun inner => resourceAt inner place

/-- The documents are those at the places where there is one, in order of the places. -/
def Placed (standing : List Nat → Option Json) (found : List Json) : Prop :=
  ∃ places : List (List Nat), places.Pairwise (· < ·) ∧ places.map standing = found.map some ∧
    ∀ place, place ∈ places ↔ (standing place).isSome = true

section Order

variable {ps qs : List (List Nat)} {i : Nat} {place : List Nat}

/-- The place with its first index moved behind one more item. -/
def behindOne : List Nat → List Nat
  | [] => []
  | i :: place => (i + 1) :: place

/-- The places in a list of one more item: that of this item, those inside it, and those of the others. -/
def placesOfCons (ps qs : List (List Nat)) : List (List Nat) :=
  [0] :: (ps.map (0 :: ·) ++ qs.map behindOne)

/-- A place is before the places one step further. -/
theorem lt_concat (place : List Nat) (i : Nat) : place < place ++ [i] := by
  -- A longer path with the same beginning comes later.
  induction place with
  | nil => exact List.nil_lt_cons i []
  | cons first place ih => exact List.cons_lt_cons_iff.mpr (.inr ⟨rfl, ih⟩)

/-- A place that is not the empty one has a first index. -/
theorem exists_cons_of_mem (none : [] ∉ qs) (member : place ∈ qs) : ∃ i rest, place = i :: rest :=
  List.exists_cons_of_ne_nil fun empty => none (empty ▸ member)

/-- The places inside the first item are between its own and those of the others. -/
theorem pairwise_placesOfCons (none : [] ∉ ps) (none' : [] ∉ qs) (sorted : ps.Pairwise (· < ·))
    (sorted' : qs.Pairwise (· < ·)) : (placesOfCons ps qs).Pairwise (· < ·) := by
  -- Everything inside the first item is placed before everything in the others.
  have later {first p : List Nat} (member : p ∈ qs.map behindOne) : 0 :: first < p := by
    obtain ⟨q, inside, rfl⟩ := List.mem_map.mp member
    obtain ⟨i, rest, rfl⟩ := exists_cons_of_mem none' inside
    exact List.cons_lt_cons_iff.mpr (.inl (Nat.succ_pos i))
  refine List.pairwise_cons.mpr ⟨fun p member => ?_, List.pairwise_append.mpr ⟨?_, ?_, ?_⟩⟩
  · -- The item itself comes before everything inside it, and before the later items.
    rcases List.mem_append.mp member with inFirst | inLater
    · obtain ⟨p, inside, rfl⟩ := List.mem_map.mp inFirst
      obtain ⟨i, rest, rfl⟩ := exists_cons_of_mem none inside
      exact List.cons_lt_cons_iff.mpr (.inr ⟨rfl, List.nil_lt_cons _ _⟩)
    · exact later inLater
  · -- Below one item the order is that of the places inside.
    exact List.pairwise_map.mpr (sorted.imp fun less => List.cons_lt_cons_iff.mpr (.inr ⟨rfl, less⟩))
  · -- Places in later items move behind by one, and keep their order.
    refine List.pairwise_map.mpr (sorted'.imp_of_mem fun member member' less => ?_)
    obtain ⟨i, rest, rfl⟩ := exists_cons_of_mem none' member
    obtain ⟨i', rest', rfl⟩ := exists_cons_of_mem none' member'
    exact List.cons_lt_cons_iff.mpr ((List.cons_lt_cons_iff.mp less).imp Nat.succ_lt_succ
      fun same => ⟨congrArg Nat.succ same.1, same.2⟩)
  · -- What is inside the first item comes before the later ones.
    rintro _ inFirst p inLater
    obtain ⟨first, -, rfl⟩ := List.mem_map.mp inFirst
    exact later inLater

/-- At the first index are the first item and what is inside it. -/
theorem mem_placesOfCons_zero (none : [] ∉ qs) :
    0 :: place ∈ placesOfCons ps qs ↔ place = [] ∨ place ∈ ps := by
  -- The first item is at index 0, and what is behind is shifted to 1 and later.
  have notLater : 0 :: place ∉ qs.map behindOne := by
    intro later
    obtain ⟨q, inside, same⟩ := List.mem_map.mp later
    obtain ⟨i, rest, rfl⟩ := exists_cons_of_mem none inside
    cases same
  simp [placesOfCons, notLater]

/-- At another index is what was at the one before it. -/
theorem mem_placesOfCons_succ (none : [] ∉ qs) :
    (i + 1) :: place ∈ placesOfCons ps qs ↔ i :: place ∈ qs := by
  -- A place behind the first item is a place of the rest with its index one less.
  have later : (i + 1) :: place ∈ qs.map behindOne ↔ i :: place ∈ qs := by
    constructor
    · intro member
      obtain ⟨q, inside, same⟩ := List.mem_map.mp member
      obtain ⟨i', rest, rfl⟩ := exists_cons_of_mem none inside
      cases same
      exact inside
    · exact fun member => List.mem_map.mpr ⟨_, member, rfl⟩
  simp [placesOfCons, later]

/-- The empty place is not among them. -/
theorem nil_notMem_placesOfCons (none : [] ∉ qs) : [] ∉ placesOfCons ps qs := by
  -- Each place on the list has an index at its front.
  intro member
  simp only [placesOfCons, List.mem_cons, List.mem_append, List.mem_map] at member
  rcases member with same | ⟨p, -, same⟩ | ⟨q, inside, same⟩
  · cases same
  · cases same
  · obtain ⟨i, rest, rfl⟩ := exists_cons_of_mem none inside
    cases same

end Order

section Places

variable {item : Json} {items : List Json} {standing : List Nat → Option Json}

/-- No resource stands at the empty place. -/
theorem resourceAt_nil (j : Json) : resourceAt j [] = none := by
  cases j <;> rfl

/-- What is no list holds no resource. -/
theorem resourceAt_of_noList {j : Json} (noList : ∀ items, j ≠ .list items) (place : List Nat) :
    resourceAt j place = none := by
  -- Without a list there is no index to take.
  rcases place with _ | ⟨i, _ | ⟨next, place⟩⟩ <;> cases j with
  | list items => exact absurd rfl (noList items)
  | _ => rfl

/-- No resource stands in an empty list. -/
theorem resourceAt_empty (place : List Nat) : resourceAt (.list []) place = none := by
  -- No index leads into an empty list.
  rcases place with _ | ⟨i, _ | ⟨next, place⟩⟩ <;> rfl

/-- Behind the first index stands what is inside the first item. -/
theorem resourceAt_inside {place : List Nat} (some : place ≠ []) :
    resourceAt (.list (item :: items)) (0 :: place) = resourceWithin item place := by
  obtain ⟨next, place, rfl⟩ := List.exists_cons_of_ne_nil some
  rfl

/-- The other items stand at the indices behind the first one. -/
theorem resourceAt_later (i : Nat) (place : List Nat) :
    resourceAt (.list (item :: items)) ((i + 1) :: place) = resourceAt (.list items) (i :: place) := by
  cases place <;> rfl

/-- Nothing is placed where nothing stands. -/
theorem Placed.nil (none : ∀ place, standing place = none) : Placed standing [] :=
  ⟨[], .nil, rfl, fun place => by simp [none]⟩

/-- A list places its first item, then what is inside this item, and then what the other items place. -/
theorem Placed.cons {inside among : List Json} (first : Placed (resourceWithin item) inside)
    (later : Placed (resourceAt (.list items)) among) :
    Placed (resourceAt (.list (item :: items))) (item :: (inside ++ among)) := by
  obtain ⟨ps, sorted, same, members⟩ := first
  obtain ⟨qs, sorted', same', members'⟩ := later
  -- No place of either part is empty, as no list is a resource.
  have none : [] ∉ ps := by simp [members, resourceWithin, resourceAt_nil]
  have none' : [] ∉ qs := by simp [members', resourceAt_nil]
  refine ⟨placesOfCons ps qs, pairwise_placesOfCons none none' sorted sorted', ?_, ?_⟩
  · -- Read at their places, the two parts give the item, what is inside it, and the rest.
    have first : (ps.map (0 :: ·)).map (resourceAt (.list (item :: items))) = inside.map some := by
      rw [← same, List.map_map]
      exact List.map_congr_left fun p member => resourceAt_inside fun empty => none (empty ▸ member)
    have later : (qs.map behindOne).map (resourceAt (.list (item :: items))) = among.map some := by
      rw [← same', List.map_map]
      refine List.map_congr_left fun q member => ?_
      obtain ⟨i, rest, rfl⟩ := exists_cons_of_mem none' member
      exact resourceAt_later i rest
    rw [placesOfCons, List.map_cons, List.map_append, first, later, List.map_cons, List.map_append]
    rfl
  · -- A place is empty, that of the first item, inside it, or in the others.
    rintro (_ | ⟨_ | i, _ | ⟨next, place⟩⟩)
    · exact iff_of_false (nil_notMem_placesOfCons none') (by simp [resourceAt_nil])
    · exact iff_of_true ((mem_placesOfCons_zero none').mpr (.inl rfl)) rfl
    · rw [mem_placesOfCons_zero none', resourceAt_inside (List.cons_ne_nil _ _), ← members]
      exact or_iff_right (List.cons_ne_nil _ _)
    · rw [mem_placesOfCons_succ none', resourceAt_later, ← members']
    · rw [mem_placesOfCons_succ none', resourceAt_later, ← members']

/-- Resources are listed in the order of their places, each once. -/
theorem placed_resources (j : Json) :
    Placed (resourceAt j) (resourcesIn j) ∧ Placed (resourceWithin j) (resourcesInside j) := by
  -- By induction on the document: what is inside the items of a list is in a member of each.
  induction j using Json.inductionOn with
  | list items ih =>
    refine ⟨?_, .nil fun place => rfl⟩
    rw [resourcesIn]
    induction items with
    | nil => exact .nil resourceAt_empty
    | cons item items ih' =>
      obtain ⟨first, others⟩ := List.forall_mem_cons.mp ih
      exact .cons first.2 (ih' others)
  | object ms ih =>
    -- An object has its resources under one name.
    refine ⟨.nil (resourceAt_of_noList nofun), ?_⟩
    rw [resourcesInside_eq]
    unfold resourceWithin
    cases found : (Json.object ms).get? "resources" with
    | none => exact .nil fun place => rfl
    | some inner => exact (ih ("resources", inner) (Json.mem_of_lookup found)).1
  | null => exact ⟨.nil (resourceAt_of_noList nofun), .nil fun place => rfl⟩
  | bool b => exact ⟨.nil (resourceAt_of_noList nofun), .nil fun place => rfl⟩
  | int n => exact ⟨.nil (resourceAt_of_noList nofun), .nil fun place => rfl⟩
  | float x => exact ⟨.nil (resourceAt_of_noList nofun), .nil fun place => rfl⟩
  | text s => exact ⟨.nil (resourceAt_of_noList nofun), .nil fun place => rfl⟩

end Places

section Last

variable {standing : List Nat → Option Json} {found : List Json} {p : Json → Bool} {r : Json}

/-- What stands at a place is listed. -/
theorem Placed.mem {place : List Nat} (placed : Placed standing found) (stands : standing place = some r) :
    r ∈ found := by
  -- The standing resource is at one of the places, and the found are read off at them in order.
  obtain ⟨places, -, same, members⟩ := placed
  have inside : some r ∈ places.map standing :=
    List.mem_map.mpr ⟨place, (members place).mpr (by rw [stands]; rfl), stands⟩
  rw [same] at inside
  simpa using inside

/-- What is behind a document in the list stands at the places behind its own. -/
theorem Placed.split {before after : List Json} (placed : Placed standing (before ++ r :: after)) :
    ∃ place, standing place = some r ∧
      ∀ later other, place < later → standing later = some other → other ∈ after := by
  obtain ⟨places, sorted, same, members⟩ := placed
  -- The item stands at its own place, and what follows it at the places behind.
  rw [List.map_append, List.map_cons] at same
  obtain ⟨ps, _, rfl, -, rest⟩ := List.map_eq_append_iff.mp same
  obtain ⟨place, qs, rfl, stands, behind⟩ := List.map_eq_cons_iff.mp rest
  refine ⟨place, stands, fun later other less stands' => ?_⟩
  have member : later ∈ ps ++ place :: qs := (members later).mpr (by rw [stands']; rfl)
  obtain ⟨-, -, early⟩ := List.pairwise_append.mp sorted
  -- The later place is in the list; before the place of the document it would be less.
  have inside : later ∈ qs := by
    rcases List.mem_append.mp member with before | rest
    · exact absurd (early later before place List.mem_cons_self) (lt_asymm less)
    · rcases List.mem_cons.mp rest with rfl | after
      · exact absurd less (lt_irrefl _)
      · exact after
  have held : some other ∈ after.map some := by
    rw [← behind]
    exact List.mem_map.mpr ⟨later, inside, stands'⟩
  simpa using held

/-- The last document that passes a test is the one at the last place. -/
theorem Placed.findLast (placed : Placed standing found) (isLast : found.reverse.find? p = some r) :
    p r = true ∧ ∃ place, standing place = some r ∧
      ∀ later other, place < later → standing later = some other → p other = false := by
  -- The last one that passes stands at a place of its own, and those found behind it are at later
  -- places.
  obtain ⟨passes, before, after, rfl, others⟩ := find?_reverse_eq_some.mp isLast
  obtain ⟨place, stands, later⟩ := placed.split
  exact ⟨passes, place, stands, fun place' other less stands' =>
    others other (later place' other less stands')⟩

end Last

/-- A resource stands at a place below a document: the document is a list, and the place leads to one
of its items, or first to an item and on from there below the document that this item holds. -/
inductive StandsAt : Json → List Nat → Json → Prop
  | item {items : List Json} {i : Nat} {r : Json} (found : items[i]? = some r) :
    StandsAt (.list items) [i] r
  | inside {items : List Json} {i : Nat} {item inner r : Json} {place : List Nat}
    (found : items[i]? = some item) (holds : item.get? "resources" = some inner)
    (stands : StandsAt inner place r) : StandsAt (.list items) (i :: place) r

section Stands

variable {j r : Json} {place : List Nat} {i : Nat}

/-- Only in a list does anything stand. -/
theorem StandsAt.exists_list (stands : StandsAt j place r) : ∃ items, j = .list items := by
  cases stands <;> exact ⟨_, rfl⟩

/-- A place has a first index. -/
theorem StandsAt.place_ne_nil (stands : StandsAt j place r) : place ≠ [] := by
  cases stands <;> exact List.cons_ne_nil _ _

/-- The places that lead somewhere lead to the resources that stand there. -/
theorem standsAt_iff : StandsAt j place r ↔ resourceAt j place = some r := by
  constructor
  · intro stands
    -- Each step of standing is an index of the place.
    induction stands with
    | item found => exact found
    | @inside items i item inner r place found holds stands ih =>
      obtain ⟨next, place, rfl⟩ := List.exists_cons_of_ne_nil stands.place_ne_nil
      show (items[i]?.bind (·.get? "resources")).bind (resourceAt · (next :: place)) = some r
      rw [found, Option.bind_some, holds, Option.bind_some, ih]
  · -- By induction on the place, each index of which takes a step.
    intro stands
    induction place generalizing j with
    | nil => rw [resourceAt_nil] at stands; cases stands
    | cons i place ih =>
      by_cases isList : ∃ items, j = .list items
      · obtain ⟨items, rfl⟩ := isList
        cases place with
        | nil => exact .item stands
        | cons next place =>
          obtain ⟨inner, within, below⟩ := Option.bind_eq_some_iff.mp stands
          obtain ⟨item, found, holds⟩ := Option.bind_eq_some_iff.mp within
          exact .inside found holds (ih below)
      · rw [resourceAt_of_noList fun items same => isList ⟨items, same⟩] at stands
        cases stands

/-- What stands one step further stands in the list of the resource before it. -/
theorem StandsAt.parent (nonempty : place ≠ []) (stands : StandsAt j (place ++ [i]) r) :
    ∃ parent items, StandsAt j place parent ∧ parent.get? "resources" = some (.list items) ∧
      items[i]? = some r := by
  -- By induction on the place, from the root down to the list that the last step goes into.
  induction place generalizing j with
  | nil => exact absurd rfl nonempty
  | cons first place ih =>
    cases place with
    | nil =>
      cases stands with
      | inside found holds stands =>
        cases stands with
        | item found' => exact ⟨_, _, .item found, holds, found'⟩
        | inside _ _ stands => exact absurd rfl stands.place_ne_nil
    | cons next place =>
      cases stands with
      | inside found holds stands =>
        obtain ⟨parent, items, stands, own, found'⟩ := ih (List.cons_ne_nil _ _) stands
        exact ⟨parent, items, .inside found holds stands, own, found'⟩

end Stands

/-- The resources of a template are those at the places below its section where there is one, each once
and in the order of the places. What stands inside another resource comes behind it, and stands in a
list: whatever else is found under the name of a section holds no resources. -/
theorem resources_in_document_order (template : Template) :
    ∃ places : List (List Nat),
      List.Forall₂ (StandsAt template.resources) places template.allResources ∧
      (∀ place, place ∈ places ↔ ∃ resource, StandsAt template.resources place resource) ∧
      places.Pairwise (· < ·) ∧
      (places ≠ [] → ∃ items, template.resources = .list items) ∧
      ∀ place i, place ≠ [] → place ++ [i] ∈ places → place < place ++ [i] ∧
        ∃ parent items, StandsAt template.resources place parent ∧
          parent.get? "resources" = some (.list items) := by
  -- The places come with the list, in increasing order; what is left are the facts about one place each.
  obtain ⟨places, sorted, same, members⟩ := (placed_resources template.resources).1
  have stands (place : List Nat) : place ∈ places ↔ ∃ r, StandsAt template.resources place r := by
    simp only [members, standsAt_iff, Option.isSome_iff_exists]
  refine ⟨places, ?_, stands, sorted, fun nonempty => ?_, fun place i nonempty member => ?_⟩
  · have equal : List.Forall₂ (· = ·) (places.map (resourceAt template.resources))
        (template.allResources.map some) := List.forall₂_eq_eq_eq ▸ same
    exact (List.forall₂_map_right_iff.mp (List.forall₂_map_left_iff.mp equal)).imp
      fun _ _ => standsAt_iff.mpr
  · obtain ⟨place, member⟩ := List.exists_mem_of_ne_nil places nonempty
    obtain ⟨r, stands⟩ := (stands place).mp member
    exact stands.exists_list
  · obtain ⟨r, stands⟩ := (stands _).mp member
    obtain ⟨parent, items, before, own, -⟩ := stands.parent nonempty
    exact ⟨lt_concat place i, parent, items, before, own⟩

end TemplateFacts
