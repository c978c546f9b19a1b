import Mathlib.Data.Multiset.Bind
import TemplateFacts.Proofs.Contract.Meaning

/-!
The bundled contract misses nothing and masks nothing: what it finds in a document are the problems of
all keywords at all places, and what it finds in the members of a record does not depend on other members.
-/

namespace TemplateFacts.Contract

section Orderly

variable {item : Contract}

/-- A contract without demands is orderly. -/
@[simp] theorem orderly_always : always.Orderly := .all (by decide) (by simp)

/-- So is one for texts that are not empty. -/
@[simp] theorem orderly_nonEmptyText : nonEmptyText.Orderly :=
  .all (by decide) (by simpa using ⟨.simple trivial, .simple trivial⟩)

/-- So is the demand for some kinds. -/
@[simp] theorem orderly_kinds (allowed : List Kind) : (Contract.kinds allowed).Orderly := .simple trivial

/-- So is the demand for one document. -/
@[simp] theorem orderly_const (value : Json) : (Contract.const value).Orderly := .simple trivial

/-- So is the demand for one of some texts. -/
@[simp] theorem orderly_oneOf (texts : List String) : (oneOf texts).Orderly := .simple trivial

/-- A list of orderly items. -/
theorem orderly_listOf (each : item.Orderly) : (listOf item).Orderly :=
  .all (by simp [keyword?]) (by simpa using .items each)

/-- The contract for a record is orderly when those for its members are. -/
theorem orderly_record {names : List String} {known : List (String × Contract)} (demanded : names.Nodup)
    (once : (known.map (·.1)).Nodup) (each : ∀ entry ∈ known, entry.2.Orderly) :
    (record names known).Orderly :=
  .all (by simp [keyword?]) (by simpa using ⟨.closed once each, .simple demanded⟩)

/-- The contract for facts is orderly. -/
theorem orderly_factsContract : factsContract.Orderly := by
  -- The parts are orderly, from those of the inner records to the contract as a whole.
  have text : anyText.Orderly := .simple trivial
  have scope : scopeContract.Orderly := orderly_oneOf _
  have valueType : valueTypeContract.Orderly := orderly_oneOf _
  have constraints : constraintsContract.Orderly :=
    .all (by decide) (by simpa using .closed (by decide) (by simp))
  have parameter : parameterContract.Orderly :=
    orderly_record (by decide) (by decide) (by simp [text, valueType, constraints])
  have output : outputContract.Orderly :=
    orderly_record (by decide) (by decide) (by simp [text, valueType])
  have condition : (record ["kind"] [("kind", oneOf ["always", "conditional", "foreach"])]).Orderly :=
    orderly_record (by decide) (by decide) (by simp)
  have module : moduleContract.Orderly :=
    orderly_record (by decide) (by decide) (by simp [condition, scope])
  have modules : (Contract.all [.items moduleContract, .minItems 1, .kinds [.array]]).Orderly :=
    .all (by decide) (by simpa using ⟨.items module, .simple trivial⟩)
  have capabilities : capabilitiesContract.Orderly :=
    orderly_record (by decide) (by decide) (by simpa using orderly_listOf orderly_nonEmptyText)
  have stamp : (Contract.all [.ofFormat .dateTime, .kinds [.string]]).Orderly :=
    .all (by decide) (by simpa using .simple trivial)
  have provenance : provenanceContract.Orderly :=
    orderly_record (by decide) (by decide)
      (by simpa [stamp] using orderly_listOf text)
  have allowed : (Contract.all [.items scopeContract, .minItems 1, .kinds [.array], .uniqueItems]).Orderly :=
    .all (by decide) (by simpa using ⟨.items scope, .simple trivial, .simple trivial⟩)
  have scopes : scopesContract.Orderly :=
    orderly_record (by decide) (by decide) (by simp [allowed, scope])
  have hash : (Contract.all [.pattern (.plain hashPattern) hashSource, .kinds [.string]]).Orderly :=
    .all (by decide) (by simpa using .simple trivial)
  have source : sourceContract.Orderly :=
    orderly_record (by decide) (by decide) (by simp [hash])
  refine orderly_record (by decide) (by decide) ?_
  simp [capabilities, provenance, modules, orderly_listOf output, orderly_listOf parameter, scopes, source]

end Orderly

/-- The texts of violations, in whatever order. -/
def texts (vs : List Violation) : Multiset String := ↑(vs.map Violation.text)

/-- Nothing has no texts. -/
@[simp] theorem texts_nil : texts [] = 0 := rfl

/-- The texts of two lists are taken together. -/
@[simp] theorem texts_append (vs ws : List Violation) : texts (vs ++ ws) = texts vs + texts ws := by
  simp [texts]

/-- The texts of many lists are taken together. -/
theorem texts_flatMap {α : Type} (xs : List α) (f : α → List Violation) :
    texts (xs.flatMap f) = (xs : Multiset α).bind fun x => texts (f x) := by
  simp [texts, List.map_flatMap]

section Record

variable {follow : String → Checker} {names : List String} {known : List (String × Contract)}
  {place : List Step} {ms ns : List (String × Json)}

/-- The text of a problem that does not show the document. -/
def problemText (place : List Step) (problem : Problem) : String := (Violation.mk place .null problem).text

/-- What is said of one name of a record, given what stands under it. -/
def share (follow : String → Checker) (names : List String) (place : List Step)
    (entry : String × Contract) : Option Json → Multiset String
  | some x => texts (violations follow entry.2 (place ++ [.member entry.1]) x)
  | none => if entry.1 ∈ names then {problemText place (.missing entry.1)} else 0

/-- What is said of the names that are not among the known ones, all of them together. -/
def unknownShare (listed : List String) (place : List Step) (ms : List (String × Json)) : Multiset String :=
  if unknownNames listed ms = [] then 0 else {problemText place (.unexpected (unknownNames listed ms))}

/-- What is gone through under a name is what is found under this name. -/
theorem bind_lookup {α β : Type} {entries : List (String × α)} (once : (entries.map (·.1)).Nodup)
    (name : String) (f : α → Multiset β) :
    ((entries : Multiset (String × α)).bind fun e => if e.1 = name then f e.2 else 0) =
      ((entries.lookup name).map f).getD 0 := by
  -- By induction on the entries, of which one has the name at most.
  induction entries with
  | nil => rfl
  | cons e entries ih =>
    obtain ⟨held, x⟩ := e
    rw [List.map_cons, List.nodup_cons] at once
    rw [← Multiset.cons_coe, Multiset.cons_bind, ih once.2, Json.lookup_cons]
    by_cases same : held = name
    · have absent : entries.lookup name = none := by
        rw [← Option.not_isSome_iff_eq_none, Json.isSome_lookup]
        rintro ⟨e, member, named⟩
        exact once.1 (List.mem_map.mpr ⟨e, member, named.trans same.symm⟩)
      simp [same, absent]
    · simp [same, Ne.symm same]

/-- The members of an object are told name by name. -/
theorem texts_members (sorted : Json.Increasing ms) (once : (known.map (·.1)).Nodup) :
    texts (ms.flatMap (insideMember follow known place)) =
      (known : Multiset (String × Contract)).bind fun entry =>
        ((ms.lookup entry.1).map fun x =>
          texts (violations follow entry.2 (place ++ [.member entry.1]) x)).getD 0 := by
  -- Each member is told under its name, and each known name under its member.
  have inside (m : String × Json) : texts (insideMember follow known place m) =
      (known : Multiset (String × Contract)).bind fun entry =>
        if entry.1 = m.1 then texts (violations follow entry.2 (place ++ [.member m.1]) m.2) else 0 := by
    rw [bind_lookup once m.1 fun contract =>
        texts (violations follow contract (place ++ [Step.member m.1]) m.2), insideMember]
    cases known.lookup m.1 <;> rfl
  have under (entry : String × Contract) : ((ms : Multiset (String × Json)).bind fun m =>
        if entry.1 = m.1 then texts (violations follow entry.2 (place ++ [.member m.1]) m.2) else 0) =
      ((ms.lookup entry.1).map fun x =>
        texts (violations follow entry.2 (place ++ [.member entry.1]) x)).getD 0 := by
    rw [← bind_lookup sorted.distinct]
    refine Multiset.bind_congr fun m _ => ?_
    by_cases same : entry.1 = m.1
    · rw [if_pos same, if_pos same.symm, same]
    · rw [if_neg same, if_neg (Ne.symm same)]
  -- Members and known names are gone through in either order.
  rw [texts_flatMap]
  simp only [inside]
  rw [Multiset.bind_bind]
  exact Multiset.bind_congr fun entry _ => under entry

/-- Missing names are told name by name. -/
theorem texts_required (follow : String → Checker) (once : (known.map (·.1)).Nodup) (demanded : names.Nodup)
    (listed : names ⊆ known.map (·.1)) :
    texts (checkRequired names place (.object ms)) =
      (known : Multiset (String × Contract)).bind fun entry =>
        if ms.lookup entry.1 = none then share follow names place entry none else 0 := by
  -- Missing names are told in the order in which they are known.
  have demands : (names : Multiset String) = ((known.map (·.1) : List String) : Multiset String).bind
      fun name => if name ∈ names then {name} else 0 := by
    rw [← Multiset.filter_eq_bind, Multiset.filter_coe, Multiset.coe_eq_coe]
    refine (List.perm_ext_iff_of_nodup demanded (once.filter _)).mpr fun name => ?_
    rw [List.mem_filter, decide_eq_true_iff]
    exact (and_iff_right_of_imp fun member => listed member).symm
  -- A name is told if no member has it.
  have told : texts (checkRequired names place (.object ms)) = (names : Multiset String).bind fun name =>
      if ms.lookup name = none then {problemText place (.missing name)} else 0 := by
    rw [checkRequired]
    clear demanded listed demands
    induction names with
    | nil => rfl
    | cons name names ih =>
      rw [← Multiset.cons_coe, Multiset.cons_bind, ← ih, List.filter_cons]
      cases ms.lookup name with
      | none => rfl
      | some x => exact (Multiset.zero_add _).symm
  rw [told, demands, Multiset.bind_assoc, ← Multiset.map_coe, Multiset.bind_map]
  refine Multiset.bind_congr fun entry _ => ?_
  rw [share]
  split <;> simp

/-- A record is told name by name, and unknown names are told together. -/
theorem texts_record (sorted : Json.Increasing ms) (once : (known.map (·.1)).Nodup) (demanded : names.Nodup)
    (listed : names ⊆ known.map (·.1)) :
    texts (violations follow (record names known) place (.object ms)) =
      ((known : Multiset (String × Contract)).bind fun entry =>
        share follow names place entry (ms.lookup entry.1)) + unknownShare (known.map (·.1)) place ms := by
  -- A record is a closed object that demands some of its names.
  have parts : violations follow (record names known) place (.object ms) =
      violations follow (.closed known) place (.object ms) ++ checkRequired names place (.object ms) := by
    show checkEach (violationsOfEach follow _) place _ = _
    rw [checkEach, violationsOfEach_eq]
    rw [List.flatMap_map]
    simp only [List.flatMap_cons, List.flatMap_nil, List.append_nil]
    exact congrArg (violations follow (.closed known) place (.object ms) ++ ·) (List.append_nil _)
  have unknown : texts (if unknownNames (known.map (·.1)) ms = [] then []
      else [⟨place, .object ms, .unexpected (unknownNames (known.map (·.1)) ms)⟩]) =
        unknownShare (known.map (·.1)) place ms := by
    rw [unknownShare]
    split <;> rfl
  rw [parts, texts_append, violations_closed_object, texts_append, unknown, texts_members sorted once,
    texts_required follow once demanded listed, add_right_comm, ← Multiset.bind_add]
  congr 1
  refine Multiset.bind_congr fun entry _ => ?_
  cases ms.lookup entry.1 with
  | none => simp
  | some x => simp [share]

/-- Two records hold the same, but under one name. -/
def SameBut (name : String) (ms ns : List (String × Json)) : Prop :=
  ∀ other, other ≠ name → ms.lookup other = ns.lookup other

/-- Records that differ under a known name have the same unknown names. -/
theorem SameBut.unknownNames_eq {name : String} {listed : List String} (same : SameBut name ms ns)
    (sorted : Json.Increasing ms) (sorted' : Json.Increasing ns) (known : name ∈ listed) :
    unknownNames listed ms = unknownNames listed ns := by
  -- The unknown names increase on both sides, and are the same names.
  have increasing {ms : List (String × Json)} (sorted : Json.Increasing ms) :
      (unknownNames listed ms).Pairwise (· < ·) := (List.pairwise_map.mpr sorted).filter _
  have mem {ms : List (String × Json)} (other : String) :
      other ∈ unknownNames listed ms ↔ (ms.lookup other).isSome = true ∧ other ∉ listed := by
    rw [unknownNames, List.mem_filter, List.mem_map, Json.isSome_lookup]
    simp
  have perm : (unknownNames listed ms).Perm (unknownNames listed ns) := by
    refine (List.perm_ext_iff_of_nodup ((increasing sorted).imp ne_of_lt)
      ((increasing sorted').imp ne_of_lt)).mpr fun other => ?_
    rw [mem, mem]
    exact and_congr_left fun unknown => by rw [same other fun equal => unknown (equal ▸ known)]
  exact perm.eq_of_pairwise (fun _ _ _ _ less greater => absurd greater (lt_asymm less))
    (increasing sorted) (increasing sorted')

/-- Two changes of a record, each under a name of its own, made alone and together. -/
structure Changes (a b : String) (base onlyA onlyB both : List (String × Json)) : Prop where
  differ : a ≠ b
  first : SameBut a base onlyA
  second : SameBut b base onlyB
  firstToo : SameBut a onlyB both
  secondToo : SameBut b onlyA both
  sorted : ∀ ms ∈ [base, onlyA, onlyB, both], Json.Increasing ms

/-- What two changes do to a record adds up, unless both make unknown names, which are told together. -/
theorem Changes.texts_add {base onlyA onlyB both : List (String × Json)} {a b : String}
    (changes : Changes a b base onlyA onlyB both) (someKnown : a ∈ known.map (·.1) ∨ b ∈ known.map (·.1))
    (once : (known.map (·.1)).Nodup) (demanded : names.Nodup) (listed : names ⊆ known.map (·.1)) :
    texts (violations follow (record names known) place (.object both)) +
        texts (violations follow (record names known) place (.object base)) =
      texts (violations follow (record names known) place (.object onlyA)) +
        texts (violations follow (record names known) place (.object onlyB)) := by
  -- All four objects are sorted, so that each name is looked up in them once.
  have sorted : Json.Increasing base ∧ Json.Increasing onlyA ∧ Json.Increasing onlyB ∧ Json.Increasing both := by
    simpa using changes.sorted
  obtain ⟨base', onlyA', onlyB', both'⟩ := sorted
  have shares : ((known : Multiset (String × Contract)).bind fun entry =>
        share follow names place entry (both.lookup entry.1)) +
      ((known : Multiset (String × Contract)).bind fun entry =>
        share follow names place entry (base.lookup entry.1)) =
      ((known : Multiset (String × Contract)).bind fun entry =>
        share follow names place entry (onlyA.lookup entry.1)) +
      ((known : Multiset (String × Contract)).bind fun entry =>
        share follow names place entry (onlyB.lookup entry.1)) := by
    rw [← Multiset.bind_add, ← Multiset.bind_add]
    refine Multiset.bind_congr fun entry _ => ?_
    -- Under each name at most one of the changes is seen.
    by_cases changed : entry.1 = a
    · have other : entry.1 ≠ b := changed ▸ changes.differ
      rw [changes.second _ other, changes.secondToo _ other]
    · rw [changes.first _ changed, changes.firstToo _ changed, add_comm]
  -- Of the two names one is known at least, and makes no difference to what is unknown.
  have unknown : unknownShare (known.map (·.1)) place both + unknownShare (known.map (·.1)) place base =
      unknownShare (known.map (·.1)) place onlyA + unknownShare (known.map (·.1)) place onlyB := by
    unfold unknownShare
    rcases someKnown with known | known
    · rw [changes.first.unknownNames_eq base' onlyA' known, changes.firstToo.unknownNames_eq onlyB' both' known,
        add_comm]
    · rw [changes.second.unknownNames_eq base' onlyB' known, changes.secondToo.unknownNames_eq onlyA' both' known]
  rw [texts_record both' once demanded listed, texts_record base' once demanded listed,
    texts_record onlyA' once demanded listed, texts_record onlyB' once demanded listed, add_add_add_comm, shares,
    unknown, add_add_add_comm]

end Record

/-- Violations that miss nothing and mask nothing: every keyword that fails at a place it reaches is
there, each of them once, under the pointer to its place. -/
structure Complete (contract : Contract) (j : Json) (vs : List Violation) : Prop where
  /-- What is listed is what fails, wherever else something fails. -/
  each : ∀ v, v ∈ vs ↔ ∃ keyword, Reaches contract j keyword v.place v.subject ∧ Fails keyword v.subject v.problem
  once : vs.Nodup
  located : ∀ v ∈ vs, j.partAt? v.place = some v.subject
  /-- One violation for each keyword at a place, but for names that are missing. -/
  single : ∀ v ∈ vs, ∀ w ∈ vs, v.place = w.place → v.problem.keyword = w.problem.keyword →
    v = w ∨ ∃ name name', v.problem = .missing name ∧ w.problem = .missing name'

/-- A keyword has one problem with a document, but for names that are missing. -/
theorem fails_unique {keyword : Contract} {j : Json} {problem problem' : Problem}
    (fails : Fails keyword j problem) (fails' : Fails keyword j problem') :
    problem = problem' ∨ ∃ name name', problem = .missing name ∧ problem' = .missing name' := by
  -- Every keyword but the one that demands names has one problem to tell.
  unfold Fails at fails fails'
  split at fails
  case h_2 =>
    obtain ⟨name, -, -, rfl⟩ := fails
    obtain ⟨name', -, -, rfl⟩ := fails'
    exact .inr ⟨name, name', rfl, rfl⟩
  case h_9 =>
    -- What a pattern tells depends on whether the search was stopped.
    dsimp only at fails'
    split at fails
    · rename_i found
      rw [found] at fails'
      exact .inl (fails.2.trans fails'.2.symm)
    · rename_i stopped
      rw [stopped] at fails'
      exact .inl (fails.trans fails'.symm)
  case h_11 => exact fails.elim
  all_goals exact .inl (fails.2.trans fails'.2.symm)

/-- The violations of an orderly contract miss nothing and mask nothing. -/
theorem complete_violations {follow : String → Checker} {contract : Contract} {j : Json}
    (orderly : contract.Orderly) (sorted : j.EveryObject Json.Increasing) :
    Complete contract j (violations follow contract [] j) := by
  -- The violations are the keywords that fail, each at the place that it looks at.
  have each (v : Violation) : v ∈ violations follow contract [] j ↔
      ∃ keyword, Reaches contract j keyword v.place v.subject ∧ Fails keyword v.subject v.problem := by
    rw [mem_violations orderly]
    simp only [List.nil_append, exists_eq_left']
  refine ⟨each, nodup_violations orderly sorted, ?_, ?_⟩
  · intro v violated
    obtain ⟨keyword, reaches, -⟩ := (each v).mp violated
    exact partAt?_of_reaches sorted reaches
  · intro v violated w violated' place named
    obtain ⟨keyword, reaches, fails⟩ := (each v).mp violated
    obtain ⟨keyword', reaches', fails'⟩ := (each w).mp violated'
    obtain ⟨place', subject, problem⟩ := v
    obtain ⟨_, subject', problem'⟩ := w
    obtain rfl : place' = _ := place
    obtain rfl := reaches_unique orderly sorted reaches fails reaches' fails' named
    obtain rfl := Option.some.inj
      ((partAt?_of_reaches sorted reaches).symm.trans (partAt?_of_reaches sorted reaches'))
    exact (fails_unique fails fails').imp_left fun same => by
      dsimp only at same
      rw [same]

/-- Nothing is violated by the documents that satisfy an orderly contract. -/
theorem violations_eq_nil_iff {follow : String → Checker} {contract : Contract} {place : List Step} {j : Json}
    (orderly : contract.Orderly) : violations follow contract place j = [] ↔ Satisfies contract j := by
  -- No finding stands exactly when no keyword fails anywhere that the schema reaches.
  rw [satisfies_iff orderly, List.eq_nil_iff_forall_not_mem]
  constructor
  · intro never keyword inner x reaches problem fails
    exact never ⟨place ++ inner, x, problem⟩ ((mem_violations orderly).mpr ⟨keyword, inner, rfl, reaches, fails⟩)
  · intro never v violated
    obtain ⟨keyword, inner, -, reaches, fails⟩ := (mem_violations orderly).mp violated
    exact never keyword inner _ reaches _ fails

/-- A document is valid when nothing is violated, and otherwise every violation is reported. -/
theorem validate_eq (schema : Schema) (j : Json) :
    (schema.violations j = [] ∧ schema.validate j = .ok ()) ∨
      schema.violations j ≠ [] ∧
        schema.validate j = .error (.schemaValidationFailed ((schema.violations j).map Violation.text)) := by
  -- `validate` only asks whether the list of findings is empty.
  rw [Schema.validate]
  cases schema.violations j with
  | nil => exact .inl ⟨rfl, rfl⟩
  | cons v vs => exact .inr ⟨List.cons_ne_nil v vs, rfl⟩

/-- Changing what stands under an unknown name changes only what is said of unknown names. -/
theorem SameBut.texts_add {follow : String → Checker} {names : List String}
    {known : List (String × Contract)} {place : List Step} {base changed : List (String × Json)} {a : String}
    (same : SameBut a base changed) (sorted : Json.Increasing base) (sorted' : Json.Increasing changed)
    (unknown : a ∉ known.map (·.1)) (once : (known.map (·.1)).Nodup) (demanded : names.Nodup)
    (listed : names ⊆ known.map (·.1)) :
    texts (violations follow (record names known) place (.object changed)) +
        unknownShare (known.map (·.1)) place base =
      texts (violations follow (record names known) place (.object base)) +
        unknownShare (known.map (·.1)) place changed := by
  -- Every known name finds the same, so that only the unknown ones can differ.
  have shares : ((known : Multiset (String × Contract)).bind fun entry =>
        share follow names place entry (changed.lookup entry.1)) =
      (known : Multiset (String × Contract)).bind fun entry =>
        share follow names place entry (base.lookup entry.1) := by
    refine Multiset.bind_congr fun entry member => ?_
    rw [same entry.1 fun equal => unknown (equal ▸ List.mem_map_of_mem member)]
  rw [texts_record sorted once demanded listed, texts_record sorted' once demanded listed, shares, add_right_comm]

/-- The names that the contract for facts knows. -/
def factsNames : List String :=
  ["capabilities", "componentId", "meta", "modules", "outputs", "parameters", "schemaVersion", "scopes",
    "source"]

/-- The bundled contract misses nothing and masks nothing. A document is valid exactly if it satisfies the
contract, and otherwise all that fails is listed under its pointer. Two changes of a record violate what
each of them does alone, so that undoing one leaves what the other one violates; and unknown names, which
are told together, change nothing else. -/
theorem nothing_missed_nothing_masked :
    (∀ j : Json, (bundled.validate j = .ok () ↔ Satisfies factsContract j) ∧
      (¬ Satisfies factsContract j → bundled.validate j = .error (.schemaValidationFailed
        ((bundled.violations j).map fun v => pointer v.place ++ " " ++ v.message))) ∧
      (j.EveryObject Json.Increasing → Complete factsContract j (bundled.violations j))) ∧
    (∀ a b base onlyA onlyB both, Changes a b base onlyA onlyB both → a ∈ factsNames ∨ b ∈ factsNames →
      texts (bundled.violations (.object both)) + texts (bundled.violations (.object base)) =
        texts (bundled.violations (.object onlyA)) + texts (bundled.violations (.object onlyB))) ∧
    ∀ a base changed, SameBut a base changed → Json.Increasing base → Json.Increasing changed →
      a ∉ factsNames →
      texts (bundled.violations (.object changed)) + unknownShare factsNames [] base =
        texts (bundled.violations (.object base)) + unknownShare factsNames [] changed := by
  -- The document conforms when the list of findings is empty; the two clauses on changes count the
  -- texts per place.
  refine ⟨fun j => ?_, ?_, ?_⟩
  · have meaning : bundled.violations j = [] ↔ Satisfies factsContract j :=
      violations_eq_nil_iff orderly_factsContract
    rcases validate_eq bundled j with ⟨none, valid⟩ | ⟨some, invalid⟩
    · exact ⟨iff_of_true valid (meaning.mp none), fun wrong => absurd (meaning.mp none) wrong,
        complete_violations orderly_factsContract⟩
    · refine ⟨iff_of_false (fun valid => ?_) fun good => some (meaning.mpr good), fun _ => invalid,
        complete_violations orderly_factsContract⟩
      cases valid.symm.trans invalid
  · intro a b base onlyA onlyB both changes someKnown
    exact changes.texts_add someKnown (by decide) (by decide) (by decide)
  · intro a base changed same sorted sorted' unknown
    exact same.texts_add sorted sorted' unknown (by decide) (by decide) (by decide)

/-- A valid record of facts, but for its stamp and for what comes behind it. -/
def recordWith (stamp : String) (behind : List (String × Json)) : List (String × Json) :=
  [("capabilities", .object [("category", .text "unknown")]),
    ("componentId", .text "store"),
    ("meta", .object [("generatedAt", .text stamp), ("generator", .text "facts")]),
    ("outputs", .list []),
    ("parameters", .list []),
    ("schemaVersion", .text "facts.v1"),
    ("scopes", .object [("allowed", .list [.text "tenant"]), ("default", .text "tenant")]),
    ("source", .object [("compilerVersion", .text "0.30.3"),
      ("hash", .text (String.ofList (List.replicate 64 '0'))), ("path", .text "main.bicep")])] ++ behind

/-- The names of such a record increase. -/
theorem increasing_recordWith (stamp : String) :
    (Json.object (recordWith stamp [("tenant", .null)])).EveryObject Json.Increasing := by
  -- The record is written with its names in order at each level, which is read off level by level.
  have sorted {ms : List (String × Json)} (names : (ms.map (·.1)).Pairwise (· < ·)) : Json.Increasing ms :=
    List.pairwise_map.mp names
  have all : Json.Increasing (recordWith stamp [("tenant", .null)]) := sorted <| show
    (["capabilities", "componentId", "meta", "outputs", "parameters", "schemaVersion", "scopes", "source",
      "tenant"] : List String).Pairwise (· < ·) by decide
  have provenance : Json.Increasing [("generatedAt", .text stamp), ("generator", .text "facts")] :=
    sorted <| show (["generatedAt", "generator"] : List String).Pairwise (· < ·) by decide
  exact ⟨all, ⟨sorted (by decide), trivial, trivial⟩, trivial, ⟨provenance, trivial, trivial, trivial⟩, trivial,
    trivial, trivial, ⟨sorted (by decide), ⟨trivial, trivial⟩, trivial, trivial⟩,
    ⟨sorted (by decide), trivial, trivial, trivial, trivial⟩, trivial, trivial⟩

/-- A wrong stamp and an unknown member are told apart from one another, and nothing else is wrong. -/
theorem nothing_missed_nothing_masked_twice :
    Satisfies factsContract (.object (recordWith "2024-05-01T12:00:00Z" [])) ∧
      Complete factsContract (.object (recordWith "yesterday" [("tenant", .null)]))
        (bundled.violations (.object (recordWith "yesterday" [("tenant", .null)]))) ∧
      texts (bundled.violations (.object (recordWith "yesterday" [("tenant", .null)]))) =
        {"/meta/generatedAt \"yesterday\" is not a \"date-time\"",
          " Additional properties are not allowed ('tenant' was unexpected)"} := by
  -- A changed stamp and an unknown member, each apart and both together; the two texts are evaluated on
  -- their own.
  have valid : bundled.violations (.object (recordWith "2024-05-01T12:00:00Z" [])) = [] := by
    decide +kernel
  have sorted (stamp : String) : Json.Increasing (recordWith stamp [("tenant", .null)]) ∧
      Json.Increasing (recordWith stamp []) :=
    ⟨(increasing_recordWith stamp).1, (increasing_recordWith stamp).1.sublist (List.prefix_append _ _).sublist⟩
  have changes : Changes "meta" "tenant" (recordWith "2024-05-01T12:00:00Z" []) (recordWith "yesterday" [])
      (recordWith "2024-05-01T12:00:00Z" [("tenant", .null)]) (recordWith "yesterday" [("tenant", .null)]) := by
    have restamped (behind : List (String × Json)) : SameBut "meta" (recordWith "2024-05-01T12:00:00Z" behind)
        (recordWith "yesterday" behind) := fun other differ => by simp [recordWith, Json.lookup_cons, differ]
    have extended (stamp : String) : SameBut "tenant" (recordWith stamp [])
        (recordWith stamp [("tenant", .null)]) := fun other differ => by
      simp [recordWith, Json.lookup_cons, differ]
    refine ⟨by decide, restamped _, extended _, restamped _, extended _, ?_⟩
    simp only [List.forall_mem_cons, (sorted _).1, (sorted _).2, List.not_mem_nil, false_imp_iff, implies_true,
      and_self]
  obtain ⟨checks, adds, -⟩ := nothing_missed_nothing_masked
  refine ⟨((checks _).1).mp ?_, (checks _).2.2 (increasing_recordWith _), ?_⟩
  · rw [Schema.validate, valid]
  · have stamp : (bundled.violations (.object (recordWith "yesterday" []))).map Violation.text =
        ["/meta/generatedAt \"yesterday\" is not a \"date-time\""] := by decide +kernel
    have unknown : (bundled.violations (.object (recordWith "2024-05-01T12:00:00Z" [("tenant", .null)]))).map
        Violation.text = [" Additional properties are not allowed ('tenant' was unexpected)"] := by decide +kernel
    have sum := adds _ _ _ _ _ _ changes (.inl (by decide))
    rw [valid, texts_nil, add_zero, texts, texts, texts, stamp, unknown] at sum
    exact sum

end TemplateFacts.Contract
