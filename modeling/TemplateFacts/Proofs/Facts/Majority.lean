import Mathlib.Data.List.Forall2
import Mathlib.Data.List.Induction
import Mathlib.Data.Prod.Lex
import Mathlib.Data.String.Basic
import TemplateFacts.Facts.Capabilities
import TemplateFacts.Proofs.Path.Components

/-!
The category of a deployment is the one that most of its resource types have, and of several such
the first one by name. Neither the order of the types, nor the order in which their table is gone
through, nor the case of the letters of their providers matters.
-/

namespace TemplateFacts

/-- How many of some types have a category. -/
def occurrences (types : List String) (category : Category) : Nat :=
  types.countP fun type => categoryOf type = category

/-- A category occurs among types, and each other one occurs less often, or as often under a later
name. -/
structure IsMajority (types : List String) (category : Category) : Prop where
  occurs : ∃ type ∈ types, categoryOf type = category
  others : ∀ other, other ≠ category →
    occurrences types other < occurrences types category ∨
      occurrences types other = occurrences types category ∧ category.text < other.text

/-- Two resource types differ at most in the case of ASCII letters before the first slash. -/
def SameProvider (type other : String) : Prop :=
  ∃ provider recased rest, type = provider ++ rest ∧ other = recased ++ rest ∧
    '/' ∉ provider.toList ∧ (rest = "" ∨ rest.toList.head? = some '/') ∧
    Text.asciiLower provider = Text.asciiLower recased

/-- Categories are written in different ways. -/
theorem Category.text_injective {a b : Category} (same : a.text = b.text) : a = b := by
  -- The texts of any two constructors differ.
  cases a <;> cases b <;> first | rfl | exact absurd same (by decide)

section Tally

variable {types : List String} {category other : Category} {table : List (Category × Nat)}

/-- A category occurs when it is that of some type. -/
theorem occurrences_pos : 0 < occurrences types category ↔ ∃ type ∈ types, categoryOf type = category := by
  rw [occurrences, List.countP_pos_iff]
  simp

/-- One more type counts for its category only. -/
theorem occurrences_concat (types : List String) (type : String) (category : Category) :
    occurrences (types ++ [type]) category =
      occurrences types category + if category = categoryOf type then 1 else 0 := by
  rw [occurrences, List.countP_append, ← occurrences, List.countP_singleton]
  simp only [decide_eq_true_eq, @eq_comm _ category]

/-- A table counts types: it has one entry for each category that occurs, and no other. -/
structure Counts (types : List String) (table : List (Category × Nat)) : Prop where
  apart : (table.map Prod.fst).Nodup
  mem_iff : ∀ category count,
    (category, count) ∈ table ↔ count = occurrences types category ∧ 0 < count

/-- Counting a type adds its category to those of the table. -/
theorem mem_keys_countType :
    other ∈ (countType category table).map Prod.fst ↔ other = category ∨ other ∈ table.map Prod.fst := by
  -- Counting a category adds its name when it is new and else changes a number only.
  induction table with
  | nil => simp [countType]
  | cons entry rest ih =>
    rw [countType]
    split
    · rename_i same
      simp [same]
    · rw [List.map_cons, List.mem_cons, ih, List.map_cons, List.mem_cons]
      exact or_left_comm

/-- Counting a type makes no second entry for its category. -/
theorem apart_countType (apart : (table.map Prod.fst).Nodup) :
    ((countType category table).map Prod.fst).Nodup := by
  -- A name is added at the end only after it was found nowhere before.
  induction table with
  | nil => simp [countType]
  | cons entry rest ih =>
    obtain ⟨first, later⟩ := List.nodup_cons.mp apart
    rw [countType]
    split
    · exact apart
    · rename_i differs
      refine List.nodup_cons.mpr ⟨fun member => ?_, ih later⟩
      exact (mem_keys_countType.mp member).elim differs first

/-- Counting a type raises the entry of its category, or makes it, and leaves all others alone. -/
theorem mem_countType (apart : (table.map Prod.fst).Nodup) {count : Nat} :
    (other, count) ∈ countType category table ↔
      if other = category then
        (∃ before, (category, before) ∈ table ∧ count = before + 1) ∨
          category ∉ table.map Prod.fst ∧ count = 1
      else (other, count) ∈ table := by
  induction table with
  | nil =>
    rw [countType]
    split
    · rename_i same
      simp [same]
    · rename_i differs
      simp [differs]
  | cons entry rest ih =>
    obtain ⟨first, later⟩ := List.nodup_cons.mp apart
    obtain ⟨known, counted⟩ := entry
    rw [countType]
    by_cases same : known = category
    · subst same
      rw [if_pos rfl, List.mem_cons]
      -- The category has no entry further on.
      have none (count : Nat) : (known, count) ∉ rest := fun member =>
        first (List.mem_map.mpr ⟨_, member, rfl⟩)
      by_cases counts : other = known
      · subst counts
        simp [none]
      · simp [counts]
    · rw [if_neg same, List.mem_cons, ih later]
      by_cases counts : other = category
      · subst counts
        simp [Ne.symm same]
      · simp [counts]

/-- The table of some types counts them. -/
theorem counts_tally (types : List String) : Counts types (tally types) := by
  -- The types are counted from the front, so the last one is split off.
  induction types using List.reverseRecOn with
  | nil => exact ⟨List.nodup_nil, by simp [tally, occurrences]⟩
  | append_singleton types type ih =>
    have next : tally (types ++ [type]) = countType (categoryOf type) (tally types) := by
      rw [tally, List.foldl_concat, ← tally]
    have listed : categoryOf type ∈ (tally types).map Prod.fst ↔
        0 < occurrences types (categoryOf type) := by
      simp [List.mem_map, ih.mem_iff]
    rw [next]
    refine ⟨apart_countType ih.apart, fun category count => ?_⟩
    rw [mem_countType ih.apart, occurrences_concat, listed]
    split
    · rename_i same
      rw [same]
      simp only [ih.mem_iff, and_assoc, exists_eq_left]
      omega
    · rw [ih.mem_iff, Nat.add_zero]

/-- A table counts the same types in whatever order its entries are. -/
theorem Counts.perm {permuted : List (Category × Nat)} (counts : Counts types table)
    (perm : permuted.Perm table) : Counts types permuted :=
  ⟨((perm.map Prod.fst).nodup_iff).mpr counts.apart, fun category count => by
    rw [perm.mem_iff, counts.mem_iff]⟩

end Tally

section Majority

/-- The rank of an entry: great counts come first, and then early names. -/
def rank (entry : Category × Nat) : Natᵒᵈ ×ₗ String := toLex (OrderDual.toDual entry.2, entry.1.text)

/-- An entry has a lower rank than those that count less, or as much under a later name. -/
theorem rank_lt_iff {entry other : Category × Nat} :
    rank entry < rank other ↔
      other.2 < entry.2 ∨ other.2 = entry.2 ∧ entry.1.text < other.1.text := by
  -- The counts are compared the other way round, and texts decide between equal ones.
  rw [rank, rank, Prod.Lex.toLex_lt_toLex, OrderDual.toDual_lt_toDual, OrderDual.toDual_inj,
    @eq_comm _ entry.2]

/-- An entry goes before those of higher rank. -/
theorem prevails_iff {entry other : Category × Nat} : prevails entry other = true ↔ rank entry < rank other := by
  rw [rank_lt_iff, prevails, Bool.or_eq_true, Bool.and_eq_true, decide_eq_true_eq, decide_eq_true_eq,
    beq_iff_eq]

/-- A table gives the category of an entry of least rank. -/
theorem majorityCategory_cons (rest : List (Category × Nat)) (entry : Category × Nat) :
    ∃ kept ∈ entry :: rest, majorityCategory (entry :: rest) = kept.1 ∧
      ∀ other ∈ entry :: rest, rank kept ≤ rank other := by
  -- The entry that has been kept so far is the first one for the rest of the table.
  induction rest generalizing entry with
  | nil => exact ⟨entry, List.mem_cons_self, rfl, by simp⟩
  | cons candidate rest ih =>
    have next : majorityCategory (entry :: candidate :: rest) =
        majorityCategory ((if prevails candidate entry then candidate else entry) :: rest) := rfl
    rw [next]
    split
    · rename_i before
      obtain ⟨kept, member, gives, least⟩ := ih candidate
      refine ⟨kept, List.mem_cons_of_mem _ member, gives, List.forall_mem_cons.mpr ⟨?_, least⟩⟩
      exact (least candidate List.mem_cons_self).trans (prevails_iff.mp before).le
    · rename_i behind
      obtain ⟨kept, member, gives, least⟩ := ih entry
      obtain ⟨first, later⟩ := List.forall_mem_cons.mp least
      have second : rank kept ≤ rank candidate :=
        first.trans (not_lt.mp fun less => behind (prevails_iff.mpr less))
      refine ⟨kept, ?_, gives, List.forall_mem_cons.mpr ⟨first, List.forall_mem_cons.mpr ⟨second, later⟩⟩⟩
      simp only [List.mem_cons] at member ⊢
      tauto

variable {types : List String} {category other : Category} {table : List (Category × Nat)}

/-- A majority has the least rank of all. -/
theorem IsMajority.rank_lt (majority : IsMajority types category) (differs : other ≠ category) :
    rank (category, occurrences types category) < rank (other, occurrences types other) :=
  rank_lt_iff.mpr (majority.others other differs)

/-- No two categories are the majority. -/
theorem IsMajority.unique (first : IsMajority types category) (second : IsMajority types other) :
    category = other := by
  -- Each of two different ones would have to come before the other.
  by_contra differs
  exact lt_asymm (first.rank_lt (Ne.symm differs)) (second.rank_lt differs)

/-- The majority depends only on how often each category occurs. -/
theorem IsMajority.congr {others : List String} (majority : IsMajority types category)
    (same : ∀ category, occurrences others category = occurrences types category) :
    IsMajority others category where
  occurs := occurrences_pos.mp (same category ▸ occurrences_pos.mpr majority.occurs)
  others other differs := by
    rw [same, same]
    exact majority.others other differs

/-- A table that counts types gives the majority of them. -/
theorem Counts.isMajority (counts : Counts types table) (some : types ≠ []) :
    IsMajority types (majorityCategory table) := by
  cases table with
  | nil =>
    obtain ⟨type, member⟩ := List.exists_mem_of_ne_nil types some
    have listed := (counts.mem_iff (categoryOf type) _).mpr ⟨rfl, occurrences_pos.mpr ⟨type, member, rfl⟩⟩
    cases listed
  | cons entry rest =>
    obtain ⟨⟨chosen, count⟩, member, gives, least⟩ := majorityCategory_cons rest entry
    obtain ⟨rfl, positive⟩ := (counts.mem_iff chosen count).mp member
    have occurs : ∃ type ∈ types, categoryOf type = chosen := occurrences_pos.mp positive
    rw [gives]
    refine ⟨occurs, fun other differs => ?_⟩
    -- A category without an entry does not occur at all.
    rcases Nat.eq_zero_or_pos (occurrences types other) with none | occurs
    · exact .inl (by rw [none]; exact positive)
    · have listed := (counts.mem_iff other _).mpr ⟨rfl, occurs⟩
      have apart : rank (chosen, occurrences types chosen) ≠ rank (other, occurrences types other) := by
        intro same
        exact differs (Category.text_injective (congrArg (fun r => (ofLex r).2) same).symm)
      exact rank_lt_iff.mp (lt_of_le_of_ne (least _ listed) apart)

end Majority

section Provider

variable {types others : List String} {category : Category}

/-- Lowering a text neither makes nor removes a slash. -/
theorem slash_mem_asciiLower {s : String} : '/' ∈ (Text.asciiLower s).toList ↔ '/' ∈ s.toList := by
  have lowered {c : Char} (slash : c.toLower = '/') : c = '/' := by
    delta Char.toLower at slash
    split at slash
    · -- No capital lies so far below the slash.
      have code : c.val + ('a'.val - 'A'.val) = '/'.val := congrArg Char.val slash
      grind
    · exact slash
  rw [Text.asciiLower, String.toList_ofList, List.mem_map]
  constructor
  · rintro ⟨c, member, slash⟩
    exact lowered slash ▸ member
  · intro member
    exact ⟨'/', member, rfl⟩

/-- What stands before the first slash. -/
theorem headD_split {provider rest : String} (noSlash : '/' ∉ provider.toList)
    (ends : rest = "" ∨ rest.toList.head? = some '/') :
    (Text.split '/' (provider ++ rest)).headD "" = provider := by
  -- The provider has no slash, so the first part ends at the first slash of the rest.
  have whole : Text.splitChars (· == '/') provider.toList = [provider.toList] :=
    Text.splitChars_whole fun c member => beq_eq_false_iff_ne.mpr fun slash => noSlash (slash ▸ member)
  rw [Text.split, String.toList_append]
  rcases ends with rfl | slash
  · simp [whole]
  · obtain ⟨more, chars⟩ := List.head?_eq_some_iff.mp slash
    rw [chars, Text.splitChars_separator _ (by rfl), whole]
    simp

/-- The category of a type is told by what stands before its first slash, whatever the case. -/
theorem SameProvider.categoryOf_eq {type other : String} (same : SameProvider type other) :
    categoryOf type = categoryOf other := by
  -- Lowering letters neither makes nor removes a slash, so both providers are cut at the same place.
  obtain ⟨provider, recased, rest, rfl, rfl, noSlash, ends, lowered⟩ := same
  have noSlashToo : '/' ∉ recased.toList := by
    rwa [← slash_mem_asciiLower, ← lowered, slash_mem_asciiLower]
  rw [categoryOf, categoryOf, headD_split noSlash ends, headD_split noSlashToo ends, lowered]

/-- Types with the same providers have each category as often. -/
theorem occurrences_congr (same : List.Forall₂ SameProvider types others) :
    occurrences types category = occurrences others category := by
  -- The categories agree at each place, so they are counted alike.
  induction same with
  | nil => rfl
  | cons first _ ih =>
    simp only [occurrences, List.countP_cons, first.categoryOf_eq] at ih ⊢
    rw [ih]

end Provider

/-- With types, the category that is told is their majority. -/
theorem isMajority_classifyFrom {types : List String} {table : List (Category × Nat)}
    (order : table.Perm (tally types)) (some : types ≠ []) :
    IsMajority types (classifyFrom table types).category := by
  -- The table counts every category truly, in whichever order it stands.
  have tells : (classifyFrom table types).category = majorityCategory table := by
    rw [classifyFrom, if_neg (by simpa using some)]
  rw [tells]
  exact ((counts_tally types).perm order).isMajority some

/-- In whatever order the table of some types is gone through, the same is told: nothing when there
are no types, and else the types themselves with the one category that is their majority. Types in
another order, or with their providers in another case, tell the same category. -/
theorem classified_by_majority {types : List String} {table : List (Category × Nat)}
    (order : table.Perm (tally types)) :
    classifyFrom table types = classify types ∧
    (types = [] → classifyFrom table types = { category := .unknown, features := none }) ∧
    (types ≠ [] → (classifyFrom table types).features = some types ∧
      ∀ category, IsMajority types category ↔ category = (classifyFrom table types).category) ∧
    ∀ permuted others otherTable, types.Perm permuted → List.Forall₂ SameProvider permuted others →
      otherTable.Perm (tally others) →
      (classifyFrom otherTable others).category = (classifyFrom table types).category := by
  -- The majority is unique, so any table that counts the same occurrences gives the same category.
  have empty (table : List (Category × Nat)) :
      classifyFrom table [] = { category := .unknown, features := none } := rfl
  refine ⟨?_, fun none => none ▸ empty table, fun some => ⟨?_, fun category => ⟨fun majority => ?_, ?_⟩⟩, ?_⟩
  · rcases eq_or_ne types [] with rfl | some
    · rfl
    · have same := (isMajority_classifyFrom order some).unique
        (isMajority_classifyFrom (List.Perm.refl (tally types)) some)
      simp only [classify, classifyFrom, List.isEmpty_iff, if_neg some] at same ⊢
      rw [same]
  · rw [classifyFrom, if_neg (by simpa using some)]
  · exact majority.unique (isMajority_classifyFrom order some)
  · rintro rfl
    exact isMajority_classifyFrom order some
  · intro permuted others otherTable perm recased otherOrder
    have same (category : Category) : occurrences others category = occurrences types category :=
      (occurrences_congr recased).symm.trans (perm.countP_eq _).symm
    have length : others.length = types.length := recased.length_eq.symm.trans perm.length_eq.symm
    rcases eq_or_ne types [] with rfl | some
    · obtain rfl := List.eq_nil_of_length_eq_zero length
      rfl
    · have someToo : others ≠ [] := List.ne_nil_of_length_pos (length ▸ List.length_pos_of_ne_nil some)
      exact (isMajority_classifyFrom otherOrder someToo).unique
        ((isMajority_classifyFrom order some).congr same)

/-- Three categories occur once each, and the first one by name is told, also by a table that is
gone through backwards, and for the types in another order and in capitals. -/
theorem classified_by_majority_tied :
    let types := ["Microsoft.Network/loadBalancers", "Contoso.Widgets/widgets", "Microsoft.Sql/servers"]
    let recased := ["MICROSOFT.SQL/servers", "CONTOSO.WIDGETS/widgets", "MICROSOFT.NETWORK/loadBalancers"]
    (tally types).reverse.Perm (tally types) ∧
      classifyFrom (tally types).reverse types = { category := .data, features := some types } ∧
      (classifyFrom (tally recased) recased).category = .data := by
  -- Three categories once each, the table turned around, and the providers in capitals and turned
  -- around too.
  intro types recased
  have told := classified_by_majority (List.reverse_perm (tally types))
  have tied : classify types = { category := .data, features := some types } := by decide +kernel
  refine ⟨List.reverse_perm _, told.1.trans tied, ?_⟩
  have providers : List.Forall₂ SameProvider types.reverse recased :=
    .cons ⟨"Microsoft.Sql", "MICROSOFT.SQL", "/servers", by decide⟩ <|
    .cons ⟨"Contoso.Widgets", "CONTOSO.WIDGETS", "/widgets", by decide⟩ <|
    .cons ⟨"Microsoft.Network", "MICROSOFT.NETWORK", "/loadBalancers", by decide⟩ .nil
  rw [told.2.2.2 _ recased _ (List.reverse_perm types).symm providers (.refl _), told.1, tied]

end TemplateFacts
