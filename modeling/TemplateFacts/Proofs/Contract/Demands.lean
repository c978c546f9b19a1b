import TemplateFacts.Contract.Bundled
import TemplateFacts.Proofs.Json.Record

/-!
When nothing is wrong with a document: what each kind of demand comes to on the documents that facts
are written as, with the members of every object in order of their names.
-/

namespace TemplateFacts

namespace Json

/-- The canonical form of a list has the canonical forms of its items. -/
theorem canonicalItems_eq (xs : List Json) : canonicalItems xs = xs.map canonicalize := by
  -- The recursion through the items of a list, as a map.
  induction xs with
  | nil => rfl
  | cons x xs ih => rw [canonicalItems, ih, List.map_cons]

/-- The canonical form of an object has the canonical forms of its members' values. -/
theorem canonicalMembers_eq (ms : List (String × Json)) :
    canonicalMembers ms = ms.map fun m => (m.1, canonicalize m.2) := by
  -- The recursion through the members of an object, as a map.
  induction ms with
  | nil => rfl
  | cons m ms ih => rw [canonicalMembers, ih, List.map_cons, canonicalMember]

/-- A text is its own canonical form. -/
@[simp] theorem canonicalize_text (s : String) : canonicalize (.text s) = .text s := rfl

/-- A truth value is its own canonical form. -/
@[simp] theorem canonicalize_bool (b : Bool) : canonicalize (.bool b) = .bool b := rfl

/-- The canonical form of a list of things has their canonical forms. -/
theorem canonicalize_list {α : Type} (toJson : α → Json) (xs : List α) :
    canonicalize (.list (xs.map toJson)) = .list (xs.map fun x => canonicalize (toJson x)) := by
  -- Lists are not sorted, so only their items change.
  rw [canonicalize, canonicalItems_eq, List.map_map]
  rfl

/-- An object has in its canonical form what it has, in another order. -/
theorem canonicalize_object (ms : List (String × Json)) :
    ∃ sorted, canonicalize (.object ms) = .object sorted ∧
      ∀ m, m ∈ sorted ↔ ∃ m' ∈ ms, m = (m'.1, canonicalize m'.2) := by
  -- Sorting keeps the members, so only the map on them shows.
  refine ⟨_, by rw [canonicalize, canonicalMembers_eq], fun m => ?_⟩
  rw [List.mem_mergeSort, List.mem_map]
  constructor
  · rintro ⟨m', member, rfl⟩
    exact ⟨m', member, rfl⟩
  · rintro ⟨m', member, rfl⟩
    exact ⟨m', member, rfl⟩

end Json

namespace Contract

section Demands

variable {follow : String → Checker} {place : List Step} {s : String}

/-- A demand that concerns a document as a whole holds or is violated. -/
theorem demand_eq_nil {holds : Bool} {j : Json} {problem : Problem} :
    demand holds place j problem = [] ↔ holds = true := by
  cases holds <;> simp [demand]

/-- A document has an allowed kind. -/
theorem violations_kinds {allowed : List Kind} {j : Json} :
    violations follow (.kinds allowed) place j = [] ↔ allowed.any (·.holds j) = true :=
  demand_eq_nil

/-- A document is the expected one. -/
theorem violations_const {value j : Json} :
    violations follow (.const value) place j = [] ↔ isExpected value j = true :=
  demand_eq_nil

/-- A document is one of some values. -/
theorem violations_enum {values : List Json} {j : Json} :
    violations follow (.enum values) place j = [] ↔ values.any (sameValue · j) = true :=
  demand_eq_nil

/-- A text has a least length. -/
theorem violations_minLength {count : Nat} :
    violations follow (.minLength count) place (.text s) = [] ↔ count ≤ s.length :=
  demand_eq_nil.trans decide_eq_true_iff

/-- A text has a format. -/
theorem violations_ofFormat {format : Format} :
    violations follow (.ofFormat format) place (.text s) = [] ↔ format.holds s = true :=
  demand_eq_nil

/-- A list has a least length. -/
theorem violations_minItems {count : Nat} {xs : List Json} :
    violations follow (.minItems count) place (.list xs) = [] ↔ count ≤ xs.length :=
  demand_eq_nil.trans decide_eq_true_iff

/-- The checkers of some contracts list the violations of each. -/
theorem violationsOfEach_eq (parts : List Contract) :
    violationsOfEach follow parts = parts.map (violations follow) := by
  -- The recursion through the parts of a contract, as a map.
  induction parts with
  | nil => rfl
  | cons part parts ih => exact congrArg (violations follow part :: ·) ih

/-- The checkers of contracts with names keep the names. -/
theorem violationsOfKnown_eq (known : List (String × Contract)) :
    violationsOfKnown follow known = known.map fun entry => (entry.1, violations follow entry.2) := by
  -- The recursion through the known members, as a map.
  induction known with
  | nil => rfl
  | cons entry entries ih =>
    obtain ⟨name, contract⟩ := entry
    exact congrArg ((name, violations follow contract) :: ·) ih

/-- Every part of a contract is demanded. -/
theorem violations_all {parts : List Contract} {j : Json} :
    violations follow (.all parts) place j = [] ↔
      ∀ part ∈ parts, violations follow part place j = [] := by
  -- Each part is checked at the same place, and the findings are put together.
  show checkEach (violationsOfEach follow parts) place j = [] ↔ _
  rw [checkEach, violationsOfEach_eq, List.flatMap_eq_nil_iff, List.forall_mem_map]

/-- A text is accepted where texts are. -/
@[simp] theorem violations_anyText : violations follow anyText place (.text s) = [] := rfl

/-- A text is not empty. -/
@[simp] theorem violations_nonEmptyText :
    violations follow nonEmptyText place (.text s) = [] ↔ s ≠ "" := by
  -- A text is of its kind, so only the least length says anything.
  rw [nonEmptyText, violations_all]
  simp only [List.forall_mem_cons, List.not_mem_nil, false_imp_iff, implies_true, violations_kinds,
    violations_minLength, Kind.holds, List.any_cons, Bool.true_or, and_true]
  rw [Nat.succ_le_iff, Nat.pos_iff_ne_zero, ne_eq, String.length_eq_zero_iff]

/-- A text is one of some texts. -/
theorem violations_oneOf {texts : List String} :
    violations follow (oneOf texts) place (.text s) = [] ↔ s ∈ texts := by
  -- The listed values are texts, and equality of texts is that of their documents.
  rw [oneOf, violations_enum, List.any_eq_true]
  constructor
  · rintro ⟨value, member, same⟩
    obtain ⟨t, inside, rfl⟩ := List.mem_map.mp member
    rwa [← beq_iff_eq.mp (show (t == s) = true from same)]
  · intro member
    exact ⟨.text s, List.mem_map_of_mem member, beq_self_eq_true s⟩

/-- A document without demands violates nothing. -/
@[simp] theorem violations_always {j : Json} : violations follow always place j = [] := rfl

section Items

variable {α : Type} {item : Contract} {xs : List α} {toJson : α → Json} {holds : α → Prop}

/-- The items of a list satisfy a contract. -/
theorem violations_items
    (each : ∀ x ∈ xs, ∀ place, violations follow item place (toJson x) = [] ↔ holds x) :
    violations follow (.items item) place (.list (xs.map toJson)) = [] ↔ ∀ x ∈ xs, holds x := by
  -- The index only tells the place.
  have counted (index : Nat) :
      checkItems (violations follow item) place index (xs.map toJson) = [] ↔ ∀ x ∈ xs, holds x := by
    induction xs generalizing index with
    | nil => simp [checkItems]
    | cons x xs ih =>
      rw [List.map_cons, checkItems, List.append_eq_nil_iff, each x List.mem_cons_self,
        ih (fun y member => each y (List.mem_cons_of_mem x member)), List.forall_mem_cons]
  exact counted 0

/-- A list has items that satisfy a contract. -/
theorem violations_listOf
    (each : ∀ x ∈ xs, ∀ place, violations follow item place (toJson x) = [] ↔ holds x) :
    violations follow (listOf item) place (.list (xs.map toJson)) = [] ↔ ∀ x ∈ xs, holds x := by
  -- A list is of its kind, so that only the items are left to ask.
  rw [listOf, violations_all, List.forall_mem_cons, violations_items each]
  exact and_iff_left (by simp [violations_kinds, Kind.holds])

end Items

/-- A list is accepted where lists are. -/
@[simp] theorem violations_list (xs : List Json) :
    violations follow (.kinds [.array]) place (.list xs) = [] := rfl

/-- Texts are distinct items exactly when none comes twice. -/
theorem allDistinct_texts {same : Json → Json → Bool}
    (onTexts : ∀ a b, same (.text a) (.text b) = (a == b)) (texts : List String) :
    allDistinct same (texts.map .text) = true ↔ texts.Nodup := by
  -- Over texts the comparison is that of the texts, at the first against all the later ones.
  induction texts with
  | nil => simp [allDistinct]
  | cons s texts ih =>
    have others : (texts.map .text).any (same (.text s)) = true ↔ s ∈ texts := by
      rw [List.any_map, List.any_eq_true]
      simp [onTexts]
    rw [List.map_cons, allDistinct, Bool.and_eq_true, Bool.not_eq_true', ih, List.nodup_cons, ← others,
      Bool.not_eq_true]

/-- A list of texts has unique items exactly when none comes twice. -/
theorem violations_uniqueItems (texts : List String) :
    violations follow .uniqueItems place (.list (texts.map .text)) = [] ↔ texts.Nodup := by
  show demand (hasUniqueItems (texts.map .text)) place _ .notUnique = [] ↔ _
  rw [demand_eq_nil, hasUniqueItems]
  -- The sign of zeros does not matter to texts.
  split
  · exact allDistinct_texts (fun _ _ => rfl) texts
  · exact allDistinct_texts (fun _ _ => rfl) texts

/-- The checker of a name is that of its contract. -/
theorem lookup_violationsOfKnown (known : List (String × Contract)) (name : String) :
    (violationsOfKnown follow known).lookup name = (known.lookup name).map (violations follow) := by
  -- Both tables have the same names in the same order.
  rw [violationsOfKnown_eq]
  induction known with
  | nil => rfl
  | cons entry known ih =>
    rw [List.map_cons, List.lookup_cons, List.lookup_cons, ih]
    cases name == entry.1 <;> rfl

/-- The members of an object have known names, and satisfy the contracts of these. -/
theorem violations_closed {known : List (String × Contract)} {ms : List (String × Json)} :
    violations follow (.closed known) place (Json.canonicalize (.object ms)) = [] ↔
      ∀ m ∈ ms, ∃ contract, known.lookup m.1 = some contract ∧
        violations follow contract (place ++ [.member m.1]) (Json.canonicalize m.2) = [] := by
  -- Sorting changes neither the members nor which names are known.
  obtain ⟨sorted, canonical, same⟩ := Json.canonicalize_object ms
  have names : (violationsOfKnown follow known).map (·.1) = known.map (·.1) := by
    rw [violationsOfKnown_eq, List.map_map]
    rfl
  have member (m : String × Json) (place : List Step) :
      ((violationsOfKnown follow known).lookup m.1).getD (fun _ _ => []) place m.2 = [] ∧
          m.1 ∈ known.map (·.1) ↔
        ∃ contract, known.lookup m.1 = some contract ∧ violations follow contract place m.2 = [] := by
    have listed : m.1 ∈ known.map (·.1) ↔ (known.lookup m.1).isSome = true := by
      rw [Json.isSome_lookup, List.mem_map]
    rw [listed, lookup_violationsOfKnown]
    cases known.lookup m.1 with
    | none => simp
    | some contract => simp
  rw [canonical]
  show checkClosed (violationsOfKnown follow known) place (.object sorted) = [] ↔ _
  rw [checkClosed, List.append_eq_nil_iff, checkMembers, List.flatMap_eq_nil_iff, names]
  have noUnknown : (if (unknownNames (known.map (·.1)) sorted).isEmpty then []
      else [⟨place, .object sorted, .unexpected (unknownNames (known.map (·.1)) sorted)⟩]) =
        ([] : List Violation) ↔ ∀ m ∈ sorted, m.1 ∈ known.map (·.1) := by
    rw [unknownNames]
    simp [List.filter_eq_nil_iff]
  rw [noUnknown]
  constructor
  · rintro ⟨inside, listed⟩ m member'
    have sortedMember := (same (m.1, Json.canonicalize m.2)).mpr ⟨m, member', rfl⟩
    exact (member (m.1, Json.canonicalize m.2) _).mp ⟨inside _ sortedMember, listed _ sortedMember⟩
  · intro each
    have both (m : String × Json) (sortedMember : m ∈ sorted) :
        ((violationsOfKnown follow known).lookup m.1).getD (fun _ _ => [])
          (place ++ [Step.member m.1]) m.2 = [] ∧ m.1 ∈ known.map (·.1) := by
      obtain ⟨m', member', rfl⟩ := (same m).mp sortedMember
      exact (member _ _).mpr (each m' member')
    exact ⟨fun m sortedMember => (both m sortedMember).1, fun m sortedMember => (both m sortedMember).2⟩

/-- The members that are demanded are there. -/
theorem violations_required {names : List String} {ms : List (String × Json)} :
    violations follow (.required names) place (Json.canonicalize (.object ms)) = [] ↔
      ∀ name ∈ names, ∃ m ∈ ms, m.1 = name := by
  -- The canonical form has the same names.
  obtain ⟨sorted, canonical, same⟩ := Json.canonicalize_object ms
  have there (name : String) : (sorted.lookup name).isSome = true ↔ ∃ m ∈ ms, m.1 = name := by
    rw [Json.isSome_lookup]
    constructor
    · rintro ⟨m, member, rfl⟩
      obtain ⟨m', member', rfl⟩ := (same m).mp member
      exact ⟨m', member', rfl⟩
    · rintro ⟨m', member', rfl⟩
      exact ⟨(m'.1, Json.canonicalize m'.2), (same _).mpr ⟨m', member', rfl⟩, rfl⟩
  rw [canonical]
  show checkRequired names place (.object sorted) = [] ↔ _
  rw [checkRequired, List.map_eq_nil_iff, List.filter_eq_nil_iff]
  refine forall₂_congr fun name _ => ?_
  rw [← there, ← Option.not_isSome]
  simp

/-- An object is accepted where objects are. -/
@[simp] theorem violations_object (ms : List (String × Json)) :
    violations follow (.kinds [.object]) place (Json.canonicalize (.object ms)) = [] := rfl

/-- A record has the members demanded and none but the known ones, which satisfy their contracts. -/
theorem violations_record {required : List String} {known : List (String × Contract)}
    {ms : List (String × Json)} :
    violations follow (record required known) place (Json.canonicalize (.object ms)) = [] ↔
      (∀ m ∈ ms, ∃ contract, known.lookup m.1 = some contract ∧
        violations follow contract (place ++ [.member m.1]) (Json.canonicalize m.2) = []) ∧
      ∀ name ∈ required, ∃ m ∈ ms, m.1 = name := by
  -- Three demands on one object: its kind, its known members, its required names.
  rw [record, violations_all, List.forall_mem_cons, List.forall_mem_cons, List.forall_mem_cons,
    violations_closed, violations_required]
  simp

end Demands

end Contract

end TemplateFacts
