import Mathlib.Data.List.Forall2
import Mathlib.Data.String.Basic
import TemplateFacts.Json.Shape
import TemplateFacts.Proofs.Json.Reader

/-!
Records: the members of an object come in any order and among any others, and what is kept of them
are the known fields, each as its shape keeps it.
-/

namespace TemplateFacts.Json

/-- The first entry under a name is found. -/
theorem lookup_cons {α : Type} (held name : String) (kept : α) (entries : List (String × α)) :
    ((held, kept) :: entries).lookup name = if name = held then some kept else entries.lookup name := by
  -- By whether the first entry has the name.
  by_cases same : name = held
  · rw [same, List.lookup_cons_self, if_pos rfl]
  · have differs : (name == held) = false := beq_eq_false_iff_ne.mpr same
    rw [List.lookup_cons, differs, if_neg same]

section Once

/-- All that the members give for a name: one value, or none. -/
def Once (ms : List (String × Json)) (name : String) (given : Option Json) : Prop :=
  (ms.filter fun m => m.1 == name).map Prod.snd = given.toList

instance (ms : List (String × Json)) (name : String) (given : Option Json) :
    Decidable (Once ms name given) := inferInstanceAs (Decidable (_ = _))

variable {ms sorted : List (String × Json)} {m : String × Json} {name : String} {given : Option Json}

/-- Of a name that is given once no other value is given behind it. -/
theorem once_cons_same (once : Once (m :: ms) m.1 given) : given = some m.2 ∧ Once ms m.1 none := by
  -- The first member of the name is the given one, so there is no other.
  simp only [Once, List.filter_cons, BEq.rfl, if_true, List.map_cons] at once
  cases given with
  | none => cases once
  | some x =>
    obtain ⟨value, none⟩ := List.cons.inj once
    exact ⟨by rw [value], none⟩

/-- The first member may have another name. -/
theorem once_cons_other (other : m.1 ≠ name) : Once (m :: ms) name given ↔ Once ms name given := by
  have differs : (m.1 == name) = false := beq_eq_false_iff_ne.mpr other
  simp only [Once, List.filter_cons, differs, Bool.false_eq_true, if_false]

/-- A name that is not given names no member. -/
theorem once_none_iff : Once ms name none ↔ ∀ m ∈ ms, m.1 ≠ name := by
  simp only [Once, Option.toList_none, List.map_eq_nil_iff, List.filter_eq_nil_iff, beq_iff_eq]

/-- What is given for a name is found under it. -/
theorem lookup_once (once : Once ms name given) : ms.lookup name = given := by
  -- By induction on the members, up to the one of the name.
  induction ms generalizing given with
  | nil =>
    cases given with
    | none => rfl
    | some x => cases once
  | cons m ms ih =>
    obtain ⟨held, kept⟩ := m
    rw [lookup_cons]
    split
    · rename_i same
      subst same
      exact (once_cons_same once).1.symm
    · rename_i differs
      exact ih ((once_cons_other (Ne.symm differs)).mp once)

/-- The values may be changed under their names. -/
theorem Once.map (f : Json → Json) (once : Once ms name given) :
    Once (ms.map fun m => (m.1, f m.2)) name (given.map f) := by
  -- The values of that name are mapped as all the others are.
  unfold Once at once ⊢
  rw [List.filter_map, List.map_map]
  have values : ((ms.filter fun m => m.1 == name).map Prod.snd).map f = (given.map f).toList := by
    rw [once]
    cases given with
    | none => rfl
    | some x => rfl
  rw [← values, List.map_map]
  rfl

/-- A member that is set is found under its name, and all others as before. -/
theorem lookup_putMember (value : Json) (other : String) :
    (putMember name value sorted).lookup other =
      if other = name then some value else sorted.lookup other := by
  -- By induction on the members, up to the first whose name is not before the new one.
  induction sorted with
  | nil => rw [putMember, lookup_cons]
  | cons m sorted ih =>
    obtain ⟨held, kept⟩ := m
    unfold putMember
    split
    · rw [lookup_cons]
    · split
      · rename_i same
        subst same
        rw [lookup_cons, lookup_cons]
        split
        · rfl
        · rfl
      · rename_i differs
        rw [lookup_cons, lookup_cons, ih]
        split
        · rename_i same
          rw [if_neg fun named => differs (named.symm.trans same)]
        · rfl

/-- Members are kept under their names. -/
theorem lookup_foldl_putMember (once : Once ms name given) :
    (ms.foldl (fun sorted m => putMember m.1 m.2 sorted) sorted).lookup name =
      given.or (sorted.lookup name) := by
  -- By induction on the members: the one of the name replaces what was kept, and all others leave it.
  induction ms generalizing given sorted with
  | nil =>
    cases given with
    | none => rfl
    | some x => cases once
  | cons m ms ih =>
    rw [List.foldl_cons]
    by_cases same : m.1 = name
    · subst same
      obtain ⟨rfl, none⟩ := once_cons_same once
      rw [ih none, lookup_putMember, if_pos rfl]
      rfl
    · rw [ih ((once_cons_other same).mp once), lookup_putMember, if_neg (Ne.symm same)]

/-- The names of members increase. -/
def Increasing (ms : List (String × Json)) : Prop := ms.Pairwise fun m n => m.1 < n.1

/-- A member that is set brings in no name but its own. -/
theorem mem_putMember {value : Json} {m : String × Json} (member : m ∈ putMember name value sorted) :
    m.1 = name ∨ m ∈ sorted := by
  -- By induction on the members, up to the first whose name is not before the new one.
  induction sorted with
  | nil => exact .inl (by rw [List.mem_singleton.mp member])
  | cons first sorted ih =>
    obtain ⟨held, kept⟩ := first
    unfold putMember at member
    split at member
    · exact (List.mem_cons.mp member).imp (fun own => by rw [own]) id
    · split at member
      · exact (List.mem_cons.mp member).imp (fun own => by rw [own]) (List.mem_cons_of_mem _)
      · rcases List.mem_cons.mp member with rfl | later
        · exact .inr List.mem_cons_self
        · exact (ih later).imp_right (List.mem_cons_of_mem _)

/-- A member is set among increasing names without breaking their order. -/
theorem increasing_putMember {value : Json} (increasing : Increasing sorted) :
    Increasing (putMember name value sorted) := by
  -- By induction on the members: the new one comes before the first with a greater name.
  induction sorted with
  | nil => exact List.pairwise_singleton _ _
  | cons m sorted ih =>
    obtain ⟨held, kept⟩ := m
    obtain ⟨before, later⟩ := List.pairwise_cons.mp increasing
    unfold putMember
    split
    · -- The new member comes before all the others.
      rename_i less
      refine List.pairwise_cons.mpr ⟨fun n member => ?_, increasing⟩
      rcases List.mem_cons.mp member with rfl | inside
      · exact less
      · exact lt_trans less (before n inside)
    · split
      · -- It takes the place of the member of its name.
        rename_i same
        subst same
        exact List.pairwise_cons.mpr ⟨before, later⟩
      · -- It comes behind this one.
        rename_i notLess differs
        have greater : held < name := lt_of_le_of_ne (not_lt.mp notLess) (Ne.symm differs)
        refine List.pairwise_cons.mpr ⟨fun n member => ?_, ih later⟩
        rcases mem_putMember member with named | inside
        · rw [named]
          exact greater
        · exact before n inside

/-- The members of a kept object have increasing names. -/
theorem increasing_foldl_putMember (increasing : Increasing sorted) :
    Increasing (ms.foldl (fun sorted m => putMember m.1 m.2 sorted) sorted) := by
  -- Each member is put where it belongs, whatever came before.
  induction ms generalizing sorted with
  | nil => exact increasing
  | cons m ms ih => exact ih (increasing_putMember increasing)

end Once

section Fit

variable {α : Type} {ms seen : List (String × Json)} {checks : List FieldCheck} {name : String}

/-- An entry is found under its name if no other has this name. -/
theorem lookup_of_mem {entries : List (String × α)} {e : String × α}
    (distinct : (entries.map Prod.fst).Nodup) (member : e ∈ entries) :
    entries.lookup e.1 = some e.2 := by
  obtain ⟨name, x⟩ := e
  -- By induction on the entries, of which only the one that is looked for has the name.
  induction entries with
  | nil => cases member
  | cons first later ih =>
    obtain ⟨held, kept⟩ := first
    rw [List.map_cons, List.nodup_cons] at distinct
    rw [lookup_cons]
    rcases List.mem_cons.mp member with same | inside
    · obtain ⟨rfl, rfl⟩ := Prod.mk.inj same
      rw [if_pos rfl]
    · have other : name ≠ held := by
        rintro rfl
        exact distinct.1 (List.mem_map.mpr ⟨(name, x), inside, rfl⟩)
      rw [if_neg other]
      exact ih distinct.2 inside

/-- An entry that is found is there. -/
theorem mem_of_lookup {entries : List (String × α)} {x : α} (found : entries.lookup name = some x) :
    (name, x) ∈ entries := by
  obtain ⟨before, later, rfl, -⟩ := List.lookup_eq_some_iff.mp found
  exact List.mem_append_right before List.mem_cons_self

/-- A name is found exactly when there is an entry of this name. -/
theorem isSome_lookup {entries : List (String × α)} :
    (entries.lookup name).isSome = true ↔ ∃ e ∈ entries, e.1 = name := by
  -- A lookup that finds something finds an entry of that name.
  rw [List.lookup_isSome_iff]
  constructor
  · rintro ⟨e, member, same⟩
    exact ⟨e, member, (beq_iff_eq.mp same).symm⟩
  · rintro ⟨e, member, rfl⟩
    exact ⟨e, member, beq_self_eq_true _⟩

/-- Increasing names are distinct. -/
theorem Increasing.distinct (increasing : Increasing ms) : (ms.map Prod.fst).Nodup := by
  -- No name is below itself.
  rw [List.Nodup, List.pairwise_map]
  exact increasing.imp fun less => ne_of_lt less

/-- What the check of a known field makes of the member of its name. -/
def fittedAt (checks : List FieldCheck) (ms : List (String × Json)) (name : String) : Option Json :=
  match checks.lookup name, ms.lookup name with
  | some (_, check), some x => (check x).toOption
  | _, _ => none

/-- Members that fit are kept under their names, behind those that are kept already. -/
theorem fitMembers_lookup (increasing : Increasing ms) (fresh : ∀ m ∈ ms, seen.lookup m.1 = none)
    (fits : ∀ m ∈ ms, ∀ absence check, checks.lookup m.1 = some (absence, check) →
      ∃ y, check m.2 = .ok y) :
    ∃ all, fitMembers checks seen ms = .ok all ∧
      ∀ name, all.lookup name = (seen.lookup name).or (fittedAt checks ms name) := by
  -- By induction on the members, whose names are not met again.
  induction ms generalizing seen with
  | nil =>
    refine ⟨seen, rfl, fun name => ?_⟩
    simp only [fittedAt, List.lookup_nil]
    cases checks.lookup name <;> exact (Option.or_none).symm
  | cons m ms ih =>
    -- The first name is the least, so that it stands nowhere among the others.
    obtain ⟨held, x⟩ := m
    obtain ⟨before, later⟩ := List.pairwise_cons.mp increasing
    have new : ∀ m ∈ ms, m.1 ≠ held := fun m member => ne_of_gt (before m member)
    have once : ms.lookup held = none := lookup_once (once_none_iff.mpr new)
    have freshLater : ∀ m ∈ ms, seen.lookup m.1 = none :=
      fun m member => fresh m (List.mem_cons_of_mem _ member)
    have fitsLater : ∀ m ∈ ms, ∀ absence check, checks.lookup m.1 = some (absence, check) →
        ∃ y, check m.2 = .ok y := fun m member => fits m (List.mem_cons_of_mem _ member)
    cases known : checks.lookup held with
    | none =>
      -- A member that is not known is left out.
      obtain ⟨all, reads, kept⟩ := ih later freshLater fitsLater
      refine ⟨all, by simp only [fitMembers, known, reads], fun name => ?_⟩
      rw [kept name]
      by_cases same : name = held
      · subst same
        simp only [fittedAt, known]
      · simp only [fittedAt, lookup_cons, if_neg same]
    | some field =>
      obtain ⟨absence, check⟩ := field
      obtain ⟨y, fit⟩ := fits (held, x) List.mem_cons_self absence check known
      -- A known one is new, and stays apart from those behind it.
      have unseen : seen.lookup held = none := fresh (held, x) List.mem_cons_self
      have freshLater' : ∀ m ∈ ms, (seen ++ [(held, y)]).lookup m.1 = none := by
        intro m member
        rw [List.lookup_append, freshLater m member, lookup_cons, if_neg (new m member)]
        rfl
      obtain ⟨all, reads, kept⟩ := ih later freshLater' fitsLater
      refine ⟨all, ?_, fun name => ?_⟩
      · simp only [fitMembers, known, unseen, Option.isSome_none, Bool.false_eq_true, if_false, fit,
          Except.bind, bind, reads]
      · rw [kept name, List.lookup_append, lookup_cons]
        by_cases same : name = held
        · subst same
          simp only [fittedAt, known, lookup_cons, if_true, unseen, fit, Option.none_or,
            Except.toOption, Option.some_or]
        · simp only [fittedAt, lookup_cons, if_neg same, List.lookup_nil, Option.or_none]

/-- What is kept for each field of a record: what is given for it, or else its stand-in. -/
def Complete (seen : List (String × Json)) (field : String × (Absence × α)) (value : String × Json) :
    Prop :=
  value.1 = field.1 ∧ (seen.lookup field.1 = some value.2 ∨
    seen.lookup field.1 = none ∧ field.2.1 = .replaced value.2)

/-- A record is complete when each field is given or has a stand-in. -/
theorem completeRecord_complete {fields : List (String × (Absence × α))}
    {values : List (String × Json)} (complete : List.Forall₂ (Complete seen) fields values) :
    completeRecord seen fields = .ok values := by
  -- By induction on the fields, each of which was seen or has something to stand in for it.
  induction complete with
  | nil => rfl
  | @cons field value fields values first later ih =>
    obtain ⟨name, absence, what⟩ := field
    obtain ⟨other, kept⟩ := value
    obtain ⟨rfl, given | ⟨absent, replaced⟩⟩ := first
    · simp only at given
      simp only [completeRecord, given, ih, Except.map]
    · simp only at absent replaced
      simp only [completeRecord, absent, replaced, ih, Except.map]

/-- The checks of fields are those of their shapes. -/
theorem fitFields_eq (fields : List (String × (Absence × Shape))) :
    Shape.fitFields fields = fields.map fun field => (field.1, field.2.1, field.2.2.fit) := by
  -- The recursion through the fields, as a map.
  induction fields with
  | nil => rfl
  | cons field fields ih =>
    obtain ⟨name, absence, shape⟩ := field
    rw [Shape.fitFields, ih]
    rfl

/-- What is kept of the members of an object for a field. -/
def Kept (ms : List (String × Json)) (field : String × (Absence × Shape)) (value : String × Json) :
    Prop :=
  value.1 = field.1 ∧ ∃ given, Once ms field.1 given ∧
    match given with
    | some x => field.2.2.fit (settle x) = .ok value.2
    | none => field.2.1 = .replaced value.2

/-- An object is a record of its known members, in whatever order and among whatever others. -/
theorem fit_record {fields : List (String × (Absence × Shape))} {values : List (String × Json)}
    (record : String) (distinct : (fields.map Prod.fst).Nodup)
    (kept : List.Forall₂ (Kept ms) fields values) :
    (Shape.record record fields).fit (settle (.object ms)) = .ok (.object values) := by
  generalize same : (settleMembers ms).foldl (fun sorted m => putMember m.1 m.2 sorted) [] = sorted
  -- The members are put in order, and looking one up gives what was given once.
  have increasing : Increasing sorted := same ▸ increasing_foldl_putMember List.Pairwise.nil
  have found {name : String} {given : Option Json} (once : Once ms name given) :
      sorted.lookup name = given.map settle := by
    have settled := once.map settle
    rw [← settleMembers_eq] at settled
    rw [← same, lookup_foldl_putMember settled, List.lookup_nil, Option.or_none]
  -- Each field's check is found under its name, as the names are distinct.
  have checkOf {field : String × (Absence × Shape)} (member : field ∈ fields) :
      (Shape.fitFields fields).lookup field.1 = some (field.2.1, field.2.2.fit) := by
    have names : (Shape.fitFields fields).map Prod.fst = fields.map Prod.fst := by
      rw [fitFields_eq, List.map_map]
      rfl
    have inside : (field.1, field.2.1, field.2.2.fit) ∈ Shape.fitFields fields := by
      rw [fitFields_eq]
      exact List.mem_map_of_mem member
    exact lookup_of_mem (names ▸ distinct) inside
  have each : ∀ field ∈ fields, ∃ value, Kept ms field value := by
    clear checkOf
    induction kept with
    | nil => exact fun field member => by cases member
    | cons first later ih =>
      intro field member
      rcases List.mem_cons.mp member with rfl | inside
      · exact ⟨_, first⟩
      · exact ih (List.nodup_cons.mp distinct).2 field inside
  -- A member that is known belongs to a field, and fits its shape.
  have fits : ∀ m ∈ sorted, ∀ absence check,
      (Shape.fitFields fields).lookup m.1 = some (absence, check) → ∃ y, check m.2 = .ok y := by
    intro m member absence check known
    have inside := mem_of_lookup known
    rw [fitFields_eq] at inside
    obtain ⟨field, member', same'⟩ := List.mem_map.mp inside
    obtain ⟨name, rest⟩ := Prod.mk.inj same'
    obtain ⟨_, rfl⟩ := Prod.mk.inj rest
    obtain ⟨value, _, given, once, fit⟩ := each field member'
    have value' := found once
    rw [name, lookup_of_mem increasing.distinct member] at value'
    cases given with
    | none => cases value'
    | some x =>
      rw [Option.map_some, Option.some.injEq] at value'
      rw [value']
      exact ⟨_, fit⟩
  have unseen : ∀ m ∈ sorted, ([] : List (String × Json)).lookup m.1 = none := fun _ _ => rfl
  obtain ⟨all, reads, kept'⟩ := fitMembers_lookup increasing unseen fits
  -- Every field gets its value, or is left out where it may be.
  have complete : List.Forall₂ (Complete all) (Shape.fitFields fields) values := by
    rw [fitFields_eq, List.forall₂_map_left_iff]
    have inside := (List.forall₂_and_left fields values).mpr ⟨fun _ member => member, kept⟩
    refine inside.imp fun field value ⟨member, name, given, once, fit⟩ => ⟨name, ?_⟩
    have value' := found once
    have check := checkOf member
    simp only [kept' field.1, List.lookup_nil, Option.none_or, fittedAt, check, value']
    cases given with
    | none => exact .inr ⟨rfl, fit⟩
    | some x =>
      refine .inl ?_
      simp only at fit
      simp only [Option.map_some, fit, Except.toOption]
  have object : settle (.object ms) = .object sorted := by
    rw [settle, ofMembers, same]
  rw [object]
  show fitRecord record (Shape.fitFields fields) (.object sorted) = _
  simp only [fitRecord, reads, Except.bind, bind, completeRecord_complete complete]
  rfl

end Fit

section Read

variable {ms seen : List (String × Json)} {readers : List FieldReader} {bytes rest : List UInt8}
  {position : Position}

/-- A reader is known for the field. -/
def Known (readers : List FieldReader) (name : String) : Bool := (readers.lookup name).isSome

/-- The known members, as they are kept. -/
def knownOf (readers : List FieldReader) (ms : List (String × Json)) : List (String × Json) :=
  (ms.filter fun m => Known readers m.1).map fun m => (m.1, settle m.2)

/-- What is given for a known field is kept. -/
theorem lookup_knownOf {name : String} {given : Option Json} (known : Known readers name = true)
    (once : Once ms name given) : (knownOf readers ms).lookup name = given.map settle := by
  -- A known name passes the filter, so what is given once is given once among the known.
  have inside : Once (ms.filter fun m => Known readers m.1) name given := by
    have both : (fun m : String × Json => m.1 == name && Known readers m.1) =
        fun m => m.1 == name := by
      funext m
      by_cases same : m.1 = name
      · rw [same, known, Bool.and_true]
      · rw [beq_eq_false_iff_ne.mpr same, Bool.false_and]
    unfold Once at once ⊢
    rw [List.filter_filter, both, once]
  exact lookup_once (inside.map settle)

/-- How the value of a member is read if it is known, and passed over if not. -/
structure Takes (total depth bound : Nat) (readers : List FieldReader)
    (part : String → Json → List UInt8 → Prop) (m : String × Json) : Prop where
  reads : ∀ absence read, readers.lookup m.1 = some (absence, read) →
    ∀ blank inside rest position, IsBlank blank → part m.1 m.2 inside → inside.length ≤ bound →
      Closed rest → read depth ⟨blank ++ (inside ++ rest), position⟩ =
        .ok (settle m.2, ⟨rest, (position.afterAll blank).afterAll inside⟩)
  skips : readers.lookup m.1 = none →
    ∀ blank inside rest position, IsBlank blank → part m.1 m.2 inside → inside.length ≤ bound →
      Closed rest → skipValue total ⟨blank ++ (inside ++ rest), position⟩ =
        .ok ⟨rest, (position.afterAll blank).afterAll inside⟩

/-- The members of a record are read one after another, and those that are known are kept. -/
theorem readFields_listed {total depth budget : Nat} {part : String → Json → List UInt8 → Prop}
    {first : Bool} (bound : Nat) (listed : Listed (SpellsPair SpellsText part) first ms bytes)
    (takes : ∀ m ∈ ms, Takes total depth bound readers part m)
    (once : ∀ name, Known readers name = true → ∃ given, Once ms name given)
    (fresh : ∀ m ∈ ms, Known readers m.1 = true → seen.lookup m.1 = none)
    (within : bytes.length ≤ bound) (enough : bytes.length < budget) :
    readFields total readers depth budget first seen ⟨bytes ++ 0x7D :: rest, position⟩ =
      .ok (seen ++ knownOf readers ms, ⟨0x7D :: rest, position.afterAll bytes⟩) := by
  -- By induction on the members, each of which takes a byte of the budget at least.
  induction ms generalizing first bytes budget position seen with
  | nil =>
    obtain ⟨budget, rfl⟩ := Nat.exists_eq_succ_of_ne_zero (Nat.ne_of_gt (Nat.zero_lt_of_lt enough))
    rw [readFields, nextName_end listed]
    simp only [Except.bind, bind, knownOf, List.filter_nil, List.map_nil, List.append_nil]
    rfl
  | cons m ms ih =>
    obtain ⟨budget, rfl⟩ := Nat.exists_eq_succ_of_ne_zero (Nat.ne_of_gt (Nat.zero_lt_of_lt enough))
    obtain ⟨lead, pair, later, isLead, ⟨inName, colon, inside, spellsName,
      ⟨before, behind, isBlank, isBlank', rfl⟩, isPart, rfl⟩, isLater, rfl⟩ := listed
    -- What holds of all the members holds of those behind the first.
    simp only [List.length_append, List.length_cons] at within enough
    have closed : Closed (later ++ 0x7D :: rest) := closed_listed isLater (closed_cons (by decide))
    have takesFirst := takes m List.mem_cons_self
    have takesLater : ∀ n ∈ ms, Takes total depth bound readers part n :=
      fun n member => takes n (List.mem_cons_of_mem m member)
    have onceLater : ∀ name, Known readers name = true → ∃ given, Once ms name given := by
      intro name known
      obtain ⟨given, once⟩ := once name known
      by_cases same : m.1 = name
      · subst same
        exact ⟨none, (once_cons_same once).2⟩
      · exact ⟨given, (once_cons_other same).mp once⟩
    have freshLater : ∀ n ∈ ms, Known readers n.1 = true → seen.lookup n.1 = none :=
      fun n member => fresh n (List.mem_cons_of_mem m member)
    cases found : readers.lookup m.1 with
    | none =>
      -- It is skipped, and what has been seen stays.
      have unknown : Known readers m.1 = false := by rw [Known, found]; rfl
      have kept : knownOf readers (m :: ms) = knownOf readers ms := by
        simp only [knownOf, List.filter_cons, unknown, Bool.false_eq_true, if_false]
      have skipFirst (place : Position) := takesFirst.skips found behind inside
        (later ++ 0x7D :: rest) place isBlank' isPart (by omega) closed
      have readLater (place : Position) : readFields total readers depth budget false seen
          ⟨later ++ 0x7D :: rest, place⟩ =
            .ok (seen ++ knownOf readers ms, ⟨0x7D :: rest, place.afterAll later⟩) :=
        ih isLater takesLater onceLater freshLater (by omega) (by omega)
      rw [readFields]
      simp only [List.append_assoc, List.cons_append, nextName_lead isLead spellsName, Except.bind,
        bind, found, readColon_blank isBlank, skipFirst, readLater, kept, Position.afterAll_append,
        Position.afterAll_cons]
    | some field =>
      -- It is read and kept, and no member behind it has its name.
      obtain ⟨absence, read⟩ := field
      have known : Known readers m.1 = true := by rw [Known, found]; rfl
      have unseen : seen.lookup m.1 = none := fresh m List.mem_cons_self known
      have kept : seen ++ knownOf readers (m :: ms) =
          (seen ++ [(m.1, settle m.2)]) ++ knownOf readers ms := by
        simp only [knownOf, List.filter_cons, known, if_true, List.map_cons, List.append_assoc,
          List.singleton_append]
      have new : ∀ n ∈ ms, n.1 ≠ m.1 := by
        obtain ⟨given, once⟩ := once m.1 known
        exact once_none_iff.mp (once_cons_same once).2
      have freshLater' : ∀ n ∈ ms, Known readers n.1 = true →
          (seen ++ [(m.1, settle m.2)]).lookup n.1 = none := by
        intro n member knownToo
        rw [List.lookup_append, freshLater n member knownToo, lookup_cons, if_neg (new n member)]
        rfl
      have readFirst (place : Position) := takesFirst.reads absence read found behind inside
        (later ++ 0x7D :: rest) place isBlank' isPart (by omega) closed
      have readLater (place : Position) : readFields total readers depth budget false
          (seen ++ [(m.1, settle m.2)]) ⟨later ++ 0x7D :: rest, place⟩ =
            .ok ((seen ++ [(m.1, settle m.2)]) ++ knownOf readers ms,
              ⟨0x7D :: rest, place.afterAll later⟩) :=
        ih isLater takesLater onceLater freshLater' (by omega) (by omega)
      rw [readFields, kept]
      simp only [List.append_assoc, List.cons_append, List.nil_append] at readLater ⊢
      simp only [nextName_lead isLead spellsName, Except.bind, bind, found, unseen,
        Option.isSome_none, Bool.false_eq_true, if_false, readColon_blank isBlank, readFirst,
        readLater, Position.afterAll_append, Position.afterAll_cons]

/-- Blanks before a record are skipped. -/
theorem readRecord_blank {budget depth : Nat} {record : String} {blank : List UInt8}
    (isBlank : IsBlank blank) (begins : Begins rest) :
    readRecord budget record readers depth ⟨blank ++ rest, position⟩ =
      readRecord budget record readers depth ⟨rest, position.afterAll blank⟩ := by
  unfold readRecord
  rw [skipSpace_blank isBlank begins, skipSpace_begins begins]

/-- A record is read from an object in braces when it is complete. -/
theorem readRecord_listed {budget depth : Nat} {part : String → Json → List UInt8 → Prop}
    {values : List (String × Json)} (record : String)
    (listed : Listed (SpellsPair SpellsText part) true ms bytes)
    (takes : ∀ m ∈ ms, Takes budget depth bytes.length readers part m)
    (once : ∀ name, Known readers name = true → ∃ given, Once ms name given)
    (enough : bytes.length < budget)
    (complete : List.Forall₂ (Complete (knownOf readers ms)) readers values) :
    readRecord budget record readers (depth + 1) ⟨0x7B :: (bytes ++ 0x7D :: rest), position⟩ =
      .ok (.object values, ⟨rest, ((position.after 0x7B).afterAll bytes).after 0x7D⟩) := by
  -- The fields are read up to the brace behind them, and then the record is completed.
  have noBracket : ((0x7B : UInt8) == 0x5B) = false := rfl
  have fields : readFields budget readers depth budget true []
      ⟨bytes ++ 0x7D :: rest, position.after 0x7B⟩ =
        .ok (knownOf readers ms, ⟨0x7D :: rest, (position.after 0x7B).afterAll bytes⟩) :=
    readFields_listed bytes.length listed takes once (fun _ _ _ => rfl) (Nat.le_refl _) enough
  rw [readRecord, skipSpace_begins (begins_cons (by decide))]
  simp only [noBracket, Bool.false_eq_true, if_false, BEq.rfl, if_true, Cursor.next_cons, fields,
    Except.bind, bind, completeRecord_complete complete]
  rfl

end Read

end TemplateFacts.Json
