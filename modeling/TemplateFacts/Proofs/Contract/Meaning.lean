import TemplateFacts.Proofs.Contract.Demands
import TemplateFacts.Proofs.Json.Canonical

/-!
What a contract means, told keyword by keyword: which documents satisfy it, which of its keywords reach
which places of a document, and which problem a keyword has with what stands there. The violations that
are listed are those problems, each of them once.

It is told for the keywords that the bundled contract is made of.
-/

namespace TemplateFacts

/-- The part of a document that a place leads to. -/
def Json.partAt? : Json → List Contract.Step → Option Json
  | j, [] => some j
  | .object ms, .member name :: place => (ms.lookup name).bind (·.partAt? place)
  | .list xs, .item index :: place => xs[index]?.bind (·.partAt? place)
  | _, _ :: _ => none
termination_by structural _ place => place

namespace Contract

/-- A document satisfies a contract. A keyword for one kind of document says nothing about the others. -/
inductive Satisfies : Contract → Json → Prop
  | all {parts : List Contract} {j : Json} (each : ∀ part ∈ parts, Satisfies part j) :
    Satisfies (.all parts) j
  | closed {known : List (String × Contract)} {j : Json}
    (listed : ∀ ms, j = .object ms → ∀ m ∈ ms, m.1 ∈ known.map (·.1))
    (each : ∀ ms, j = .object ms → ∀ m ∈ ms, ∀ contract, known.lookup m.1 = some contract →
      Satisfies contract m.2) : Satisfies (.closed known) j
  | items {item : Contract} {j : Json} (each : ∀ xs, j = .list xs → ∀ x ∈ xs, Satisfies item x) :
    Satisfies (.items item) j
  | required {names : List String} {j : Json}
    (there : ∀ ms, j = .object ms → ∀ name ∈ names, ∃ m ∈ ms, m.1 = name) : Satisfies (.required names) j
  | kinds {allowed : List Kind} {j : Json} (some : ∃ kind ∈ allowed, kind.holds j = true) :
    Satisfies (.kinds allowed) j
  | const {value j : Json} (expected : isExpected value j = true) : Satisfies (.const value) j
  | enum {values : List Json} {j : Json} (some : ∃ value ∈ values, sameValue value j = true) :
    Satisfies (.enum values) j
  | minItems {count : Nat} {j : Json} (enough : ∀ xs, j = .list xs → count ≤ xs.length) :
    Satisfies (.minItems count) j
  | uniqueItems {j : Json} (unique : ∀ xs, j = .list xs → hasUniqueItems xs = true) :
    Satisfies .uniqueItems j
  | minLength {count : Nat} {j : Json} (enough : ∀ s, j = .text s → count ≤ s.length) :
    Satisfies (.minLength count) j
  | pattern {matcher : Matcher} {source : String} {j : Json}
    (found : ∀ s, j = .text s → matcher.matchesIn s = .ok true) : Satisfies (.pattern matcher source) j
  | ofFormat {format : Format} {j : Json} (holds : ∀ s, j = .text s → format.holds s = true) :
    Satisfies (.ofFormat format) j

/-- A contract demands a part of itself of what stands at a place of a document. -/
inductive Reaches : Contract → Json → Contract → List Step → Json → Prop
  | here {contract : Contract} {j : Json} : Reaches contract j contract [] j
  | part {parts : List Contract} {part keyword : Contract} {j x : Json} {place : List Step}
    (member : part ∈ parts) (inside : Reaches part j keyword place x) :
    Reaches (.all parts) j keyword place x
  | member {known : List (String × Contract)} {contract keyword : Contract} {name : String} {j x : Json}
    {ms : List (String × Json)} {place : List Step} (found : known.lookup name = some contract)
    (member : (name, j) ∈ ms) (inside : Reaches contract j keyword place x) :
    Reaches (.closed known) (.object ms) keyword (.member name :: place) x
  | item {item keyword : Contract} {index : Nat} {xs : List Json} {j x : Json} {place : List Step}
    (here : xs[index]? = some j) (inside : Reaches item j keyword place x) :
    Reaches (.items item) (.list xs) keyword (.item index :: place) x

/-- A keyword fails for a document, with a problem. What fails for a list of demands are its parts. -/
def Fails : Contract → Json → Problem → Prop
  | .closed known, .object ms, problem =>
    unknownNames (known.map (·.1)) ms ≠ [] ∧ problem = .unexpected (unknownNames (known.map (·.1)) ms)
  | .required names, .object ms, problem =>
    ∃ name ∈ names, (∀ m ∈ ms, m.1 ≠ name) ∧ problem = .missing name
  | .kinds allowed, j, problem => (∀ kind ∈ allowed, kind.holds j = false) ∧ problem = .wrongKind allowed
  | .const value, j, problem => isExpected value j = false ∧ problem = .notConst value
  | .enum values, j, problem => (∀ value ∈ values, sameValue value j = false) ∧ problem = .notInEnum values
  | .minItems count, .list xs, problem => xs.length < count ∧ problem = .tooFewItems count
  | .uniqueItems, .list xs, problem => hasUniqueItems xs = false ∧ problem = .notUnique
  | .minLength count, .text s, problem => s.length < count ∧ problem = .tooShort count
  | .pattern matcher source, .text s, problem =>
    match matcher.matchesIn s with
    | .ok found => found = false ∧ problem = .noMatch source
    | .error excess => problem = .gaveUp excess
  | .ofFormat format, .text s, problem => format.holds s = false ∧ problem = .notFormat format
  | _, _, _ => False

/-- The name of a keyword. -/
def keyword? : Contract → Option String
  | .closed _ => "properties"
  | .items _ => "items"
  | .required _ => "required"
  | .kinds _ => "type"
  | .const _ => "const"
  | .enum _ => "enum"
  | .minItems _ => "minItems"
  | .uniqueItems => "uniqueItems"
  | .minLength _ => "minLength"
  | .pattern .. => "pattern"
  | .ofFormat _ => "format"
  | _ => none

/-- A simple keyword looks at a document as a whole, and not at its parts. -/
def IsSimple : Contract → Prop
  | .required names => names.Nodup
  | .kinds _ | .const _ | .enum _ | .minItems _ | .uniqueItems | .minLength _ | .pattern .. | .ofFormat _ =>
    True
  | _ => False

/-- No keyword comes twice beside itself, and no name twice in a list of names. -/
inductive Orderly : Contract → Prop
  | all {parts : List Contract} (apart : (none :: parts.map keyword?).Nodup)
    (each : ∀ part ∈ parts, Orderly part) : Orderly (.all parts)
  | closed {known : List (String × Contract)} (once : (known.map (·.1)).Nodup)
    (each : ∀ entry ∈ known, Orderly entry.2) : Orderly (.closed known)
  | items {item : Contract} (each : Orderly item) : Orderly (.items item)
  | simple {contract : Contract} (simple : contract.IsSimple) : Orderly contract

section Keywords

variable {follow : String → Checker} {contract keyword : Contract} {place : List Step} {j : Json}
  {problem : Problem} {v : Violation}

/-- A demand that is not met is violated once. -/
theorem mem_demand {holds : Bool} :
    v ∈ demand holds place j problem ↔
      v.place = place ∧ v.subject = j ∧ holds = false ∧ v.problem = problem := by
  -- A demand gives one finding, at this very place, or none.
  obtain ⟨place', subject, problem'⟩ := v
  cases holds <;> simp [demand]

/-- A demand that concerns texts is violated by texts. -/
theorem mem_checkText {holds : String → Bool} :
    v ∈ checkText holds problem place j ↔
      v.place = place ∧ v.subject = j ∧ ∃ s, j = .text s ∧ holds s = false ∧ v.problem = problem := by
  -- A value that is no text meets every demand on texts.
  cases j with
  | text s => simp [checkText, mem_demand]
  | _ => simp [checkText]

/-- A demand that concerns lists is violated by lists. -/
theorem mem_checkList {holds : List Json → Bool} :
    v ∈ checkList holds problem place j ↔
      v.place = place ∧ v.subject = j ∧ ∃ xs, j = .list xs ∧ holds xs = false ∧ v.problem = problem := by
  -- A value that is no list meets every demand on lists.
  cases j with
  | list xs => simp [checkList, mem_demand]
  | _ => simp [checkList]

/-- Members that are demanded are missed one by one. -/
theorem mem_checkRequired {names : List String} :
    v ∈ checkRequired names place j ↔ v.place = place ∧ v.subject = j ∧ Fails (.required names) j v.problem := by
  obtain ⟨place', subject, problem⟩ := v
  -- Only an object can miss members, and it misses those that are not found.
  cases j with
  | object ms =>
    have missing (name : String) : (ms.lookup name).isNone = true ↔ ∀ m ∈ ms, m.1 ≠ name := by
      rw [← Option.not_isSome, Bool.not_eq_true', ← Bool.not_eq_true, Json.isSome_lookup]
      simp only [not_exists, not_and, ne_eq]
    simp only [checkRequired, List.mem_map, List.mem_filter, missing, Violation.mk.injEq, Fails]
    constructor
    · rintro ⟨name, ⟨demanded, absent⟩, rfl, rfl, rfl⟩
      exact ⟨rfl, rfl, name, demanded, absent, rfl⟩
    · rintro ⟨rfl, rfl, name, demanded, absent, rfl⟩
      exact ⟨name, ⟨demanded, absent⟩, rfl, rfl, rfl⟩
  | _ => simp [checkRequired, Fails]

/-- A pattern is violated by texts in which it is not found. -/
theorem mem_checkPattern {matcher : Matcher} {source : String} :
    v ∈ checkPattern matcher source place j ↔
      v.place = place ∧ v.subject = j ∧ Fails (.pattern matcher source) j v.problem := by
  -- The answer of the matcher decides: found, not found, or given up for one of its limits.
  obtain ⟨place', subject, problem⟩ := v
  cases j with
  | text s =>
    simp only [checkPattern, Fails]
    cases matcher.matchesIn s with
    | ok found => exact mem_demand
    | error excess => simp
  | _ => simp [checkPattern, Fails]

/-- A simple keyword is violated where it stands, by its problems. -/
theorem mem_violations_simple (simple : contract.IsSimple) :
    v ∈ violations follow contract place j ↔ v.place = place ∧ v.subject = j ∧ Fails contract j v.problem := by
  -- Each keyword is checked where the document is of the kind that it looks at.
  cases contract with
  | required names => exact mem_checkRequired
  | pattern matcher source => exact mem_checkPattern
  | kinds allowed => simp [violations, mem_demand, Fails]
  | const value => simp [violations, mem_demand, Fails]
  | enum values => simp [violations, mem_demand, Fails]
  | minItems count => cases j <;> simp [violations, mem_checkList, Fails]
  | uniqueItems => cases j <;> simp [violations, mem_checkList, Fails]
  | minLength count => cases j <;> simp [violations, mem_checkText, Fails]
  | ofFormat format => cases j <;> simp [violations, mem_checkText, Fails]
  | _ => exact simple.elim

/-- A simple keyword is satisfied when it does not fail. -/
theorem satisfies_simple (simple : contract.IsSimple) :
    Satisfies contract j ↔ ∀ problem, ¬ Fails contract j problem := by
  -- What satisfies a keyword is what its only rule asks for: the constructor is turned into its condition.
  cases contract with
  | required names =>
    have told : Satisfies (.required names) j ↔ ∀ ms, j = .object ms → ∀ name ∈ names, ∃ m ∈ ms, m.1 = name :=
      ⟨fun | .required there => there, .required⟩
    -- Only an object can miss a name.
    cases j with
    | object ms =>
      simp only [told, Json.object.injEq, forall_eq', Fails, not_exists, not_and]
      constructor
      · intro there problem name demanded absent
        obtain ⟨m, member, same⟩ := there name demanded
        exact absurd same (absent m member)
      · intro never name demanded
        by_contra absent
        exact never _ name demanded (fun m member same => absent ⟨m, member, same⟩) rfl
    | _ => simp [told, Fails]
  | kinds allowed =>
    have told : Satisfies (.kinds allowed) j ↔ ∃ kind ∈ allowed, kind.holds j = true :=
      ⟨fun | .kinds one => one, .kinds⟩
    simp [told, Fails]
  | const value =>
    have told : Satisfies (.const value) j ↔ isExpected value j = true :=
      ⟨fun | .const expected => expected, .const⟩
    simp [told, Fails]
  | enum values =>
    have told : Satisfies (.enum values) j ↔ ∃ value ∈ values, sameValue value j = true :=
      ⟨fun | .enum one => one, .enum⟩
    simp [told, Fails]
  | minItems count =>
    have told : Satisfies (.minItems count) j ↔ ∀ xs, j = .list xs → count ≤ xs.length :=
      ⟨fun | .minItems enough => enough, .minItems⟩
    cases j <;> simp [told, Fails]
  | uniqueItems =>
    have told : Satisfies .uniqueItems j ↔ ∀ xs, j = .list xs → hasUniqueItems xs = true :=
      ⟨fun | .uniqueItems unique => unique, .uniqueItems⟩
    cases j <;> simp [told, Fails]
  | minLength count =>
    have told : Satisfies (.minLength count) j ↔ ∀ s, j = .text s → count ≤ s.length :=
      ⟨fun | .minLength enough => enough, .minLength⟩
    cases j <;> simp [told, Fails]
  | pattern matcher source =>
    have told : Satisfies (.pattern matcher source) j ↔ ∀ s, j = .text s → matcher.matchesIn s = .ok true :=
      ⟨fun | .pattern found => found, .pattern⟩
    cases j with
    | text s => cases found : matcher.matchesIn s <;> simp [told, Fails, found]
    | _ => simp [told, Fails]
  | ofFormat format =>
    have told : Satisfies (.ofFormat format) j ↔ ∀ s, j = .text s → format.holds s = true :=
      ⟨fun | .ofFormat holds => holds, .ofFormat⟩
    cases j <;> simp [told, Fails]
  | _ => exact simple.elim

end Keywords

section Parts

variable {follow : String → Checker} {contract keyword : Contract} {place : List Step} {j : Json}
  {problem : Problem} {v : Violation}

/-- What the items of a list violate, told by their places. -/
theorem mem_checkItems {check : Checker} {index : Nat} {xs : List Json} :
    v ∈ checkItems check place index xs ↔
      ∃ k x, xs[k]? = some x ∧ v ∈ check (place ++ [.item (index + k)]) x := by
  -- By induction on the items, which are told by their places from the first one on.
  induction xs generalizing index with
  | nil => simp [checkItems]
  | cons x xs ih =>
    rw [checkItems, List.mem_append, ih]
    constructor
    · rintro (first | ⟨k, y, here, inside⟩)
      · exact ⟨0, x, rfl, first⟩
      · exact ⟨k + 1, y, here, by rwa [← Nat.add_assoc, Nat.add_right_comm]⟩
    · rintro ⟨k, y, here, inside⟩
      cases k with
      | zero => 
        cases here
        exact .inl inside
      | succ k => exact .inr ⟨k, y, here, by rwa [Nat.add_right_comm, Nat.add_assoc]⟩

/-- What a member violates by itself, if it is known. -/
def insideMember (follow : String → Checker) (known : List (String × Contract)) (place : List Step)
    (m : String × Json) : List Violation :=
  match known.lookup m.1 with
  | some contract => violations follow contract (place ++ [.member m.1]) m.2
  | none => []

/-- What a closed object violates: its members do what they do by themselves, and unknown ones are
violations as such. -/
theorem violations_closed_object (follow : String → Checker) (known : List (String × Contract))
    (place : List Step) (ms : List (String × Json)) :
    violations follow (.closed known) place (.object ms) =
      ms.flatMap (insideMember follow known place) ++
        if unknownNames (known.map (·.1)) ms = [] then []
        else [⟨place, .object ms, .unexpected (unknownNames (known.map (·.1)) ms)⟩] := by
  -- Every member is checked by what the contract knows under its name.
  have names : (violationsOfKnown follow known).map (·.1) = known.map (·.1) := by
    rw [violationsOfKnown_eq, List.map_map]
    rfl
  have inside (m : String × Json) : ((violationsOfKnown follow known).lookup m.1).getD (fun _ _ => [])
      (place ++ [.member m.1]) m.2 = insideMember follow known place m := by
    rw [lookup_violationsOfKnown, insideMember]
    cases known.lookup m.1 <;> rfl
  show checkClosed (violationsOfKnown follow known) place (.object ms) = _
  rw [checkClosed, checkMembers, names]
  simp only [inside, List.isEmpty_iff]

/-- A member violates what the contract of its name finds in it. -/
theorem mem_insideMember {known : List (String × Contract)} {m : String × Json} :
    v ∈ insideMember follow known place m ↔ ∃ contract, known.lookup m.1 = some contract ∧
      v ∈ violations follow contract (place ++ [.member m.1]) m.2 := by
  -- A member is checked inside only when its name is known.
  rw [insideMember]
  cases known.lookup m.1 <;> simp

/-- A closed object violates what its members do, or fails for unknown ones. -/
theorem mem_violations_closed {known : List (String × Contract)} {ms : List (String × Json)} :
    v ∈ violations follow (.closed known) place (.object ms) ↔
      (∃ m ∈ ms, v ∈ insideMember follow known place m) ∨
      v.place = place ∧ v.subject = .object ms ∧ Fails (.closed known) (.object ms) v.problem := by
  -- Either a member is wrong inside, or there are unknown members and the object itself is.
  obtain ⟨place', subject, problem⟩ := v
  rw [violations_closed_object, List.mem_append, List.mem_flatMap, Fails]
  refine or_congr_right ?_
  split
  · rename_i none
    simp [none]
  · rename_i some
    simp [some]

/-- What is violated are the keywords that fail where they reach to. -/
theorem mem_violations (orderly : contract.Orderly) :
    v ∈ violations follow contract place j ↔ ∃ keyword inner, v.place = place ++ inner ∧
      Reaches contract j keyword inner v.subject ∧ Fails keyword v.subject v.problem := by
  obtain ⟨there, subject, problem⟩ := v
  dsimp only
  -- By induction on the contract: a keyword reaches as far as the part that it stands in.
  induction orderly generalizing place j with
  | @all parts _ _ ih =>
    -- A keyword is reached through one of the parts.
    show _ ∈ checkEach (violationsOfEach follow parts) place j ↔ _
    rw [checkEach, violationsOfEach_eq, List.flatMap_map, List.mem_flatMap]
    constructor
    · rintro ⟨part, member, violated⟩
      obtain ⟨keyword, inner, here, reaches, fails⟩ := (ih part member).mp violated
      exact ⟨keyword, inner, here, .part member reaches, fails⟩
    · rintro ⟨keyword, inner, here, reaches, fails⟩
      cases reaches with
      | here => exact fails.elim
      | part member inside => exact ⟨_, member, (ih _ member).mpr ⟨keyword, inner, here, inside, fails⟩⟩
  | @closed known _ _ ih =>
    -- A keyword is reached inside a member that has a contract, or is the one of the object itself.
    cases j with
    | object ms =>
      rw [mem_violations_closed]
      constructor
      · rintro (⟨⟨name, x⟩, member, violated⟩ | ⟨rfl, rfl, fails⟩)
        · obtain ⟨contract, found, violated⟩ := mem_insideMember.mp violated
          obtain ⟨keyword, inner, rfl, reaches, fails⟩ :=
            (ih (name, contract) (Json.mem_of_lookup found)).mp violated
          exact ⟨keyword, .member name :: inner, (List.append_cons ..).symm, .member found member reaches, fails⟩
        · exact ⟨.closed known, [], (List.append_nil _).symm, .here, fails⟩
      · rintro ⟨keyword, inner, rfl, reaches, fails⟩
        cases reaches with
        | here => exact .inr ⟨List.append_nil _, rfl, fails⟩
        | member found member inside =>
          exact .inl ⟨_, member, mem_insideMember.mpr ⟨_, found, (ih _ (Json.mem_of_lookup found)).mpr
            ⟨keyword, _, List.append_cons .., inside, fails⟩⟩⟩
    | _ =>
      -- In anything but an object no keyword is reached that fails.
      refine iff_of_false List.not_mem_nil ?_
      rintro ⟨keyword, inner, -, reaches, fails⟩
      cases reaches
      exact fails
  | @items item _ ih =>
    -- A keyword is reached inside an item.
    cases j with
    | list xs =>
      show _ ∈ checkItems (violations follow item) place 0 xs ↔ _
      rw [mem_checkItems]
      constructor
      · rintro ⟨index, x, found, violated⟩
        rw [Nat.zero_add] at violated
        obtain ⟨keyword, inner, rfl, reaches, fails⟩ := ih.mp violated
        exact ⟨keyword, .item index :: inner, (List.append_cons ..).symm, .item found reaches, fails⟩
      · rintro ⟨keyword, inner, rfl, reaches, fails⟩
        cases reaches with
        | here => exact fails.elim
        | @item _ _ index _ _ _ inner found inside =>
          refine ⟨index, _, found, ih.mpr ⟨keyword, inner, ?_, inside, fails⟩⟩
          rw [Nat.zero_add, List.append_cons]
    | _ =>
      -- In anything but a list no keyword is reached that fails.
      refine iff_of_false List.not_mem_nil ?_
      rintro ⟨keyword, inner, -, reaches, fails⟩
      cases reaches
      exact fails
  | @simple contract simple =>
    -- A simple keyword is reached where it stands, and nowhere else.
    rw [mem_violations_simple simple]
    constructor
    · rintro ⟨rfl, rfl, fails⟩
      exact ⟨contract, [], (List.append_nil _).symm, .here, fails⟩
    · rintro ⟨keyword, inner, rfl, reaches, fails⟩
      cases reaches with
      | here => exact ⟨List.append_nil _, rfl, fails⟩
      | _ => exact simple.elim

/-- Every part of a contract is satisfied. -/
theorem satisfies_all {parts : List Contract} :
    Satisfies (.all parts) j ↔ ∀ part ∈ parts, Satisfies part j :=
  ⟨fun | .all each => each, .all⟩

/-- The items of a list satisfy a contract. -/
theorem satisfies_items {item : Contract} :
    Satisfies (.items item) j ↔ ∀ xs, j = .list xs → ∀ x ∈ xs, Satisfies item x :=
  ⟨fun | .items each => each, .items⟩

/-- The members of an object are known, and satisfy the contracts of their names. -/
theorem satisfies_closed {known : List (String × Contract)} :
    Satisfies (.closed known) j ↔ ∀ ms, j = .object ms →
      (∀ m ∈ ms, m.1 ∈ known.map (·.1)) ∧
        ∀ m ∈ ms, ∀ contract, known.lookup m.1 = some contract → Satisfies contract m.2 :=
  ⟨fun | .closed listed each => fun ms object => ⟨listed ms object, each ms object⟩,
    fun both => .closed (fun ms object => (both ms object).1) fun ms object => (both ms object).2⟩

/-- No member is unknown. -/
theorem unknownNames_eq_nil {names : List String} {ms : List (String × Json)} :
    unknownNames names ms = [] ↔ ∀ m ∈ ms, m.1 ∈ names := by
  simp [unknownNames, List.filter_eq_nil_iff]

/-- A document satisfies a contract when none of its keywords fails where it reaches to. -/
theorem satisfies_iff (orderly : contract.Orderly) :
    Satisfies contract j ↔
      ∀ keyword place x, Reaches contract j keyword place x → ∀ problem, ¬ Fails keyword x problem := by
  -- By induction on the contract: what satisfies a part fails none of its keywords.
  induction orderly generalizing j with
  | all _ _ ih =>
    -- What satisfies each part fails in none of them.
    rw [satisfies_all]
    constructor
    · intro each keyword place x reaches problem fails
      cases reaches with
      | here => exact fails
      | part member inside => exact (ih _ member).mp (each _ member) _ _ _ inside problem fails
    · intro never part member
      exact (ih part member).mpr fun keyword place x inside => never keyword place x (.part member inside)
  | @closed known _ _ ih =>
    -- An object has no unknown members, and what it has satisfies the contracts of their names.
    rw [satisfies_closed]
    constructor
    · intro both keyword place x reaches problem fails
      cases reaches with
      | here =>
        cases j with
        | object ms => exact fails.1 (unknownNames_eq_nil.mpr (both ms rfl).1)
        | _ => exact fails
      | member found member inside =>
        exact (ih _ (Json.mem_of_lookup found)).mp ((both _ rfl).2 _ member _ found) _ _ _ inside problem fails
    · rintro never ms rfl
      refine ⟨unknownNames_eq_nil.mp ?_, fun m member contract found => ?_⟩
      · by_contra some
        exact never _ _ _ .here _ ⟨some, rfl⟩
      · exact (ih _ (Json.mem_of_lookup found)).mpr fun keyword place x inside =>
          never keyword _ x (.member found member inside)
  | items _ ih =>
    -- Each item satisfies the contract, wherever it stands.
    rw [satisfies_items]
    constructor
    · intro each keyword place x reaches problem fails
      cases reaches with
      | here => cases j <;> exact fails
      | item found inside => exact ih.mp (each _ rfl _ (List.mem_of_getElem? found)) _ _ _ inside problem fails
    · rintro never xs rfl x member
      obtain ⟨index, found⟩ := List.mem_iff_getElem?.mp member
      exact ih.mpr fun keyword place y inside => never keyword _ y (.item found inside)
  | simple simple =>
    -- Only the keyword itself can fail.
    rw [satisfies_simple simple]
    constructor
    · intro never keyword place x reaches
      cases reaches with
      | here => exact never
      | _ => exact simple.elim
    · intro never
      exact never _ [] j .here

end Parts

section Places

/-- The name of the keyword that a problem is one of. -/
def Problem.keyword : Problem → String
  | .unexpected _ => "properties"
  | .missing _ => "required"
  | .wrongKind _ => "type"
  | .notConst _ => "const"
  | .notInEnum _ => "enum"
  | .tooFewItems _ => "minItems"
  | .notUnique => "uniqueItems"
  | .tooShort _ => "minLength"
  | .tooSmall _ => "minimum"
  | .notAbove _ => "exclusiveMinimum"
  | .noMatch _ | .gaveUp _ => "pattern"
  | .notFormat _ => "format"
  | .noChoice => "anyOf"
  | .forbidden => "not"

/-- The keyword by which a contract comes to a keyword at a place. -/
def firstKeyword (keyword : String) : List Step → String
  | [] => keyword
  | .member _ :: _ => "properties"
  | .item _ :: _ => "items"

variable {follow : String → Checker} {contract keyword other : Contract} {place : List Step} {j x y : Json}
  {problem problem' : Problem}

/-- A problem is one of the keyword that fails. -/
theorem keyword?_of_fails (fails : Fails contract j problem) : contract.keyword? = some problem.keyword := by
  -- Each keyword has problems of its own, which bear its name.
  unfold Fails at fails
  split at fails
  case h_2 =>
    obtain ⟨_, -, -, rfl⟩ := fails
    rfl
  case h_9 =>
    -- A pattern is told of as one, whether or not the search was stopped.
    split at fails
    · rw [fails.2]
      rfl
    · rw [fails]
      rfl
  case h_11 => exact fails.elim
  all_goals
    rw [fails.2]
    rfl

/-- A keyword that fails at a place is come to by one keyword only. -/
theorem keyword?_of_reaches (single : contract.keyword? ≠ none) (reaches : Reaches contract j keyword place x)
    (fails : Fails keyword x problem) : contract.keyword? = some (firstKeyword problem.keyword place) := by
  -- A keyword of the contract itself is the one that fails; behind a step the first step tells it.
  cases reaches with
  | here => exact keyword?_of_fails fails
  | part => exact absurd rfl single
  | member => rfl
  | item => rfl

/-- A keyword looks at what its place leads to, where the names of members increase. -/
theorem partAt?_of_reaches (sorted : j.EveryObject Json.Increasing) (reaches : Reaches contract j keyword place x) :
    j.partAt? place = some x := by
  -- By induction on the way to the place, on which every name is found where it stands.
  induction reaches with
  | here => cases ‹Json› <;> rfl
  | part _ _ ih => exact ih sorted
  | member _ member _ ih =>
    rw [Json.EveryObject, Json.everyObjectMembers_iff] at sorted
    rw [Json.partAt?, Json.lookup_of_mem sorted.1.distinct member]
    exact ih (sorted.2 _ member)
  | item found _ ih =>
    rw [Json.EveryObject, Json.everyObjectItems_iff] at sorted
    rw [Json.partAt?, found]
    exact ih (sorted _ (List.mem_of_getElem? found))

/-- Of the keywords of one name only one fails at a place. -/
theorem reaches_unique (orderly : contract.Orderly) (sorted : j.EveryObject Json.Increasing)
    (reaches : Reaches contract j keyword place x) (fails : Fails keyword x problem)
    (reaches' : Reaches contract j other place y) (fails' : Fails other y problem')
    (same : problem.keyword = problem'.keyword) : keyword = other := by
  -- By induction on the contract: two ways to one place go through the same parts.
  induction orderly generalizing j place with
  | @all parts apart _ ih =>
    rw [List.nodup_cons] at apart
    cases reaches with
    | here => exact fails.elim
    | @part _ part _ _ _ _ member inside =>
      cases reaches' with
      | here => exact fails'.elim
      | @part _ part' _ _ _ _ member' inside' =>
        -- Of the parts of a contract no two have keywords of one name.
        have single {part : Contract} (member : part ∈ parts) : part.keyword? ≠ none := fun none =>
          apart.1 (none ▸ List.mem_map_of_mem member)
        have first := keyword?_of_reaches (single member) inside fails
        have first' := keyword?_of_reaches (single member') inside' fails'
        obtain rfl : part = part' :=
          List.inj_on_of_nodup_map apart.2 member member' (first.trans ((same ▸ first').symm))
        exact ih part member sorted inside inside'
  | @closed known _ _ ih =>
    cases reaches with
    | here =>
      -- At the object itself nothing but its own keyword is reached.
      cases reaches'
      rfl
    | member found member inside =>
      -- One name leads to one contract and to one member.
      cases reaches' with
      | member found' member' inside' =>
        rw [Json.EveryObject, Json.everyObjectMembers_iff] at sorted
        cases found.symm.trans found'
        have here := Json.lookup_of_mem sorted.1.distinct member
        have here' := Json.lookup_of_mem sorted.1.distinct member'
        cases here.symm.trans here'
        exact ih _ (Json.mem_of_lookup found) (sorted.2 _ member) inside inside'
  | items _ ih =>
    cases reaches with
    | here =>
      cases reaches'
      rfl
    | item found inside =>
      -- One index leads to one item.
      cases reaches' with
      | item found' inside' =>
        rw [Json.EveryObject, Json.everyObjectItems_iff] at sorted
        cases found.symm.trans found'
        exact ih (sorted _ (List.mem_of_getElem? found)) inside inside'
  | simple simple =>
    cases reaches with
    | here =>
      cases reaches' with
      | here => rfl
      | _ => exact simple.elim
    | _ => exact simple.elim

/-- Two keywords that are named differently violate different things, or things at different places. -/
theorem disjoint_violations {part part' : Contract} (orderly : part.Orderly) (orderly' : part'.Orderly)
    (single : part.keyword? ≠ none) (single' : part'.keyword? ≠ none) (apart : part.keyword? ≠ part'.keyword?) :
    (violations follow part place j).Disjoint (violations follow part' place j) := by
  -- A finding that both give has one keyword path, and the two contracts begin theirs differently.
  intro v violated violated'
  obtain ⟨keyword, inner, here, reaches, fails⟩ := (mem_violations orderly).mp violated
  obtain ⟨keyword', inner', here', reaches', fails'⟩ := (mem_violations orderly').mp violated'
  obtain rfl := List.append_cancel_left (here.symm.trans here')
  exact apart ((keyword?_of_reaches single reaches fails).trans (keyword?_of_reaches single' reaches' fails').symm)

/-- What is violated by what stands at two places that part ways is different. -/
theorem disjoint_violations_apart {part part' : Contract} {step step' : Step} (orderly : part.Orderly)
    (orderly' : part'.Orderly) (apart : step ≠ step') :
    (violations follow part (place ++ [step]) x).Disjoint (violations follow part' (place ++ [step']) y) := by
  -- Places behind different steps are different, whatever is found there.
  intro v violated violated'
  obtain ⟨-, inner, here, -⟩ := (mem_violations orderly).mp violated
  obtain ⟨-, inner', here', -⟩ := (mem_violations orderly').mp violated'
  rw [here, ← List.append_cons, ← List.append_cons] at here'
  exact apart (List.cons.inj (List.append_cancel_left here')).1

/-- A simple keyword is violated by each problem once. -/
theorem nodup_violations_simple (simple : contract.IsSimple) :
    (violations follow contract place j).Nodup := by
  -- Only the names that are missing can be several.
  have nodup_demand (holds : Bool) (problem : Problem) : (demand holds place j problem).Nodup := by
    cases holds
    · exact List.nodup_singleton _
    · exact List.nodup_nil
  cases contract with
  | required names =>
    cases j with
    | object ms =>
      show (checkRequired names place (.object ms)).Nodup
      rw [checkRequired]
      exact (simple.filter _).map fun name name' same => Problem.missing.inj (Violation.mk.inj same).2.2
    | _ => exact List.nodup_nil
  | kinds | const | enum => exact nodup_demand _ _
  | minItems | uniqueItems => 
    cases j with
    | list xs => exact nodup_demand _ _
    | _ => exact List.nodup_nil
  | minLength | ofFormat =>
    cases j with
    | text s => exact nodup_demand _ _
    | _ => exact List.nodup_nil
  | pattern matcher source =>
    cases j with
    | text s =>
      show (checkPattern matcher source place (.text s)).Nodup
      rw [checkPattern]
      split
      · exact nodup_demand _ _
      · exact List.nodup_singleton _
    | _ => exact List.nodup_nil
  | _ => exact simple.elim

/-- The items of a list violate different things, as they stand at different places. -/
theorem nodup_checkItems {item : Contract} {xs : List Json} (orderly : item.Orderly)
    (each : ∀ x ∈ xs, ∀ place, (violations follow item place x).Nodup) (index : Nat) :
    (checkItems (violations follow item) place index xs).Nodup := by
  -- The items stand at different indices, so their findings are apart.
  induction xs generalizing index with
  | nil => exact List.nodup_nil
  | cons x xs ih =>
    rw [checkItems, List.nodup_append']
    refine ⟨each x List.mem_cons_self _, ih (fun y member => each y (List.mem_cons_of_mem x member)) _, ?_⟩
    intro v first later
    obtain ⟨k, y, -, later⟩ := mem_checkItems.mp later
    exact disjoint_violations_apart orderly orderly
      (fun same => by have := Step.item.inj same; omega) first later

/-- No violation is listed twice. -/
theorem nodup_violations (orderly : contract.Orderly) (sorted : j.EveryObject Json.Increasing) :
    (violations follow contract place j).Nodup := by
  -- By induction on the contract: parts have keywords of their own, and members and items their
  -- places.
  induction orderly generalizing j place with
  | @all parts apart each ih =>
    rw [List.nodup_cons] at apart
    have single (part : Contract) (member : part ∈ parts) : part.keyword? ≠ none := fun none =>
      apart.1 (none ▸ List.mem_map_of_mem member)
    show (checkEach (violationsOfEach follow parts) place j).Nodup
    rw [checkEach, violationsOfEach_eq, List.flatMap_map, List.nodup_flatMap]
    refine ⟨fun part member => ih part member sorted, ?_⟩
    exact (List.pairwise_map.mp apart.2).imp_of_mem fun {p q} first second named =>
      disjoint_violations (each p first) (each q second) (single p first) (single q second) named
  | @closed known once each ih =>
    -- Members of different names stand at different places.
    cases j with
    | object ms =>
      rw [Json.EveryObject, Json.everyObjectMembers_iff] at sorted
      have inside : (ms.flatMap (insideMember follow known place)).Nodup := by
        rw [List.nodup_flatMap]
        constructor
        · intro m member
          rw [insideMember]
          split
          · rename_i contract found
            exact ih _ (Json.mem_of_lookup found) (sorted.2 m member)
          · exact List.nodup_nil
        · refine sorted.1.imp fun {m n} less v violated violated' => ?_
          obtain ⟨contract, found, violated⟩ := mem_insideMember.mp violated
          obtain ⟨contract', found', violated'⟩ := mem_insideMember.mp violated'
          exact disjoint_violations_apart (each _ (Json.mem_of_lookup found))
            (each _ (Json.mem_of_lookup found')) (fun same => less.ne (Step.member.inj same)) violated violated'
      rw [violations_closed_object, List.nodup_append']
      refine ⟨inside, ?_, ?_⟩
      · split
        · exact List.nodup_nil
        · exact List.nodup_singleton _
      · intro v violated unknown
        obtain ⟨m, member, violated⟩ := List.mem_flatMap.mp violated
        obtain ⟨contract, found, violated⟩ := mem_insideMember.mp violated
        obtain ⟨-, inner, here, -⟩ := (mem_violations (each _ (Json.mem_of_lookup found))).mp violated
        split at unknown
        · cases unknown
        · -- The members stand below the object.
          obtain rfl := List.mem_singleton.mp unknown
          simp at here
    | _ => exact List.nodup_nil
  | @items item each ih =>
    cases j with
    | list xs =>
      rw [Json.EveryObject, Json.everyObjectItems_iff] at sorted
      exact nodup_checkItems each (fun x member place => ih (sorted x member)) 0
    | _ => exact List.nodup_nil
  | simple simple => exact nodup_violations_simple simple

end Places

end Contract

end TemplateFacts
