import TemplateFacts.Proofs.Contract.Demands
import TemplateFacts.Proofs.Facts.Order
import TemplateFacts.Proofs.Json.Compact
import TemplateFacts.Proofs.Json.Record
import TemplateFacts.Proofs.Utf8

/-!
The canonical text is a normal form: two documents have the same one exactly if they differ in the
order of members only, and it is read back as the canonical form of the document.
-/

namespace TemplateFacts.Json

section Every

mutual
/-- Something holds of the members of every object of a document. -/
def EveryObject (p : List (String × Json) → Prop) : Json → Prop
  -- Objects are looked for in lists and in objects.
  | .list xs => EveryObjectItems p xs
  | .object ms => p ms ∧ EveryObjectMembers p ms
  | .null => True
  | .bool _ => True
  | .int _ => True
  | .float _ => True
  | .text _ => True
termination_by structural j => j

/-- Something holds of the members of every object of some items. -/
def EveryObjectItems (p : List (String × Json) → Prop) : List Json → Prop
  | [] => True
  | x :: xs => EveryObject p x ∧ EveryObjectItems p xs
termination_by structural xs => xs

/-- Something holds of the members of every object of the values of some members. -/
def EveryObjectMembers (p : List (String × Json) → Prop) : List (String × Json) → Prop
  | [] => True
  | m :: ms => EveryObjectMember p m ∧ EveryObjectMembers p ms
termination_by structural ms => ms

/-- Something holds of the members of every object of the value of a member. -/
def EveryObjectMember (p : List (String × Json) → Prop) : String × Json → Prop
  | (_, x) => EveryObject p x
termination_by structural m => m
end

variable {p q : List (String × Json) → Prop} {xs : List Json} {ms : List (String × Json)}

theorem everyObjectItems_iff : EveryObjectItems p xs ↔ ∀ x ∈ xs, EveryObject p x := by
  -- The recursion through the items, as a statement on each of them.
  induction xs with
  | nil => simp [EveryObjectItems]
  | cons x xs ih => rw [EveryObjectItems, ih, List.forall_mem_cons]

theorem everyObjectMembers_iff : EveryObjectMembers p ms ↔ ∀ m ∈ ms, EveryObject p m.2 := by
  -- The recursion through the members, as a statement on each of them.
  induction ms with
  | nil => simp [EveryObjectMembers]
  | cons m ms ih =>
    obtain ⟨name, x⟩ := m
    rw [EveryObjectMembers, ih, List.forall_mem_cons, EveryObjectMember]

/-- What holds of every object is weakened in every object. -/
theorem EveryObject.imp {j : Json} (weaker : ∀ ms, p ms → q ms) (every : EveryObject p j) :
    EveryObject q j := by
  -- By induction on the document; scalars hold no object.
  induction j using inductionOn with
  | list xs ih =>
    rw [EveryObject, everyObjectItems_iff] at every ⊢
    exact fun x member => ih x member (every x member)
  | object ms ih =>
    rw [EveryObject, everyObjectMembers_iff] at every ⊢
    exact ⟨weaker ms every.1, fun m member => ih m member (every.2 m member)⟩
  | null => trivial
  | bool b => trivial
  | int n => trivial
  | float x => trivial
  | text s => trivial

end Every

section Parts

variable {xs : List Json} {ms ns : List (String × Json)}

theorem isExactItems_iff : IsExactItems xs ↔ ∀ x ∈ xs, IsExact x := by
  -- The recursion through the items, as a statement on each of them.
  induction xs with
  | nil => simp [IsExactItems]
  | cons x xs ih => rw [IsExactItems, ih, List.forall_mem_cons]

theorem isExactMembers_iff : IsExactMembers ms ↔ ∀ m ∈ ms, IsExact m.2 := by
  -- The recursion through the members, as a statement on each of them.
  induction ms with
  | nil => simp [IsExactMembers]
  | cons m ms ih =>
    obtain ⟨name, x⟩ := m
    rw [IsExactMembers, ih, List.forall_mem_cons, IsExactMember]

theorem nestingItems_le {n : Nat} : nestingItems xs ≤ n ↔ ∀ x ∈ xs, nesting x ≤ n := by
  -- A maximum is at most `n` when each of its parts is.
  induction xs with
  | nil => simp [nestingItems]
  | cons x xs ih => rw [nestingItems, Nat.max_le, ih, List.forall_mem_cons]

theorem nestingMembers_le {n : Nat} : nestingMembers ms ≤ n ↔ ∀ m ∈ ms, nesting m.2 ≤ n := by
  -- A maximum is at most `n` when each of its parts is.
  induction ms with
  | nil => simp [nestingMembers]
  | cons m ms ih =>
    obtain ⟨name, x⟩ := m
    rw [nestingMembers, Nat.max_le, ih, List.forall_mem_cons, nestingMember]

end Parts

/-- What changes no entry does not change the entries. -/
theorem map_eq_self {α : Type} {f : α → α} {xs : List α} (same : ∀ x ∈ xs, f x = x) :
    xs.map f = xs :=
  (List.map_congr_left same).trans (List.map_id xs)

section Sorted

variable {ms : List (String × Json)} {m : String × Json} {j : Json}

/-- The members of the canonical form of an object. -/
def sortedMembers (ms : List (String × Json)) : List (String × Json) :=
  (ms.map fun m => (m.1, canonicalize m.2)).mergeSort memberLe

theorem canonicalize_members (ms : List (String × Json)) :
    canonicalize (.object ms) = .object (sortedMembers ms) := by
  rw [canonicalize, canonicalMembers_eq]
  rfl

theorem canonicalize_items (xs : List Json) :
    canonicalize (.list xs) = .list (xs.map canonicalize) := by
  rw [canonicalize, canonicalItems_eq]

/-- Sorting keeps the members. -/
theorem sortedMembers_perm (ms : List (String × Json)) :
    (sortedMembers ms).Perm (ms.map fun m => (m.1, canonicalize m.2)) :=
  List.mergeSort_perm _ memberLe

theorem forall_mem_sortedMembers {p : String × Json → Prop} :
    (∀ m ∈ sortedMembers ms, p m) ↔ ∀ m ∈ ms, p (m.1, canonicalize m.2) := by
  -- Sorting only changes the order.
  simp only [(sortedMembers_perm ms).mem_iff, List.forall_mem_map]

/-- Canonical values do not change the names. -/
theorem map_fst_canonical (ms : List (String × Json)) :
    (ms.map fun m => (m.1, canonicalize m.2)).map Prod.fst = ms.map Prod.fst := by
  rw [List.map_map]
  rfl

/-- Each name is given once. -/
def NamedOnce (ms : List (String × Json)) : Prop := (ms.map Prod.fst).Nodup

/-- Sorted members whose names are given once have increasing names. -/
theorem increasing_sortedMembers (once : NamedOnce ms) : Increasing (sortedMembers ms) := by
  -- Sorted by name, and with no name twice, each name is below the next.
  have sorted : (sortedMembers ms).Pairwise fun m n => m.1 ≤ n.1 := sorted_mergeSort Prod.fst _
  have distinct : (sortedMembers ms).Pairwise fun m n => m.1 ≠ n.1 := by
    have names := (((sortedMembers_perm ms).map Prod.fst).nodup_iff).mpr
      ((map_fst_canonical ms).symm ▸ once)
    exact List.pairwise_map.mp names
  exact (sorted.and distinct).imp fun both => lt_of_le_of_ne both.1 both.2

/-- The canonical form of a document has increasing names in every object. -/
theorem increasing_canonicalize (once : EveryObject NamedOnce j) :
    EveryObject Increasing (canonicalize j) := by
  -- By induction on the document: members are sorted by names that differ.
  induction j using inductionOn with
  | list xs ih =>
    rw [EveryObject, everyObjectItems_iff] at once
    rw [canonicalize_items, EveryObject, everyObjectItems_iff, List.forall_mem_map]
    exact fun x member => ih x member (once x member)
  | object ms ih =>
    rw [EveryObject, everyObjectMembers_iff] at once
    rw [canonicalize_members, EveryObject, everyObjectMembers_iff, forall_mem_sortedMembers]
    exact ⟨increasing_sortedMembers once.1, fun m member => ih m member (once.2 m member)⟩
  | null => trivial
  | bool b => trivial
  | int n => trivial
  | float x => trivial
  | text s => trivial

/-- A document with increasing names is its own canonical form. -/
theorem canonicalize_of_increasing (increasing : EveryObject Increasing j) : canonicalize j = j := by
  induction j using inductionOn with
  -- By induction on the document: what is sorted already is left by the sort.
  | list xs ih =>
    rw [EveryObject, everyObjectItems_iff] at increasing
    rw [canonicalize_items, map_eq_self fun x member => ih x member (increasing x member)]
  | object ms ih =>
    rw [EveryObject, everyObjectMembers_iff] at increasing
    have values : (ms.map fun m => (m.1, canonicalize m.2)) = ms :=
      map_eq_self fun m member => by rw [ih m member (increasing.2 m member)]
    have sorted : ms.Pairwise fun m n => memberLe m n = true :=
      increasing.1.imp fun less => decide_eq_true (le_of_lt less)
    rw [canonicalize_members, sortedMembers, values, List.mergeSort_of_pairwise sorted]
  | null => rfl
  | bool b => rfl
  | int n => rfl
  | float x => rfl
  | text s => rfl

/-- A member with a name above all others is set behind them. -/
theorem putMember_last (above : ∀ n ∈ ms, n.1 < m.1) : putMember m.1 m.2 ms = ms ++ [m] := by
  -- A name above all the others goes past each of them to the end.
  induction ms with
  | nil => rfl
  | cons n ms ih =>
    obtain ⟨held, kept⟩ := n
    have less : held < m.1 := above (held, kept) List.mem_cons_self
    rw [putMember, if_neg (not_lt.mpr (le_of_lt less)), if_neg (ne_of_gt less),
      ih fun n member => above n (List.mem_cons_of_mem _ member), List.cons_append]

/-- Members with increasing names are kept as they come. -/
theorem foldl_putMember_increasing {before : List (String × Json)}
    (increasing : Increasing (before ++ ms)) :
    ms.foldl (fun sorted m => putMember m.1 m.2 sorted) before = before ++ ms := by
  -- Each member is above those before it, so each insertion is at the end.
  induction ms generalizing before with
  | nil => rw [List.foldl_nil, List.append_nil]
  | cons m ms ih =>
    have above : ∀ n ∈ before, n.1 < m.1 := fun n member =>
      (List.pairwise_append.mp increasing).2.2 n member m List.mem_cons_self
    rw [List.foldl_cons, putMember_last above, ih (by rwa [List.append_assoc]), List.append_assoc]
    rfl

/-- A document with increasing names is kept as it is. -/
theorem settle_of_increasing (increasing : EveryObject Increasing j) : settle j = j := by
  induction j using inductionOn with
  -- By induction on the document: members that come in order are kept in order.
  | list xs ih =>
    rw [EveryObject, everyObjectItems_iff] at increasing
    rw [settle, settleItems_eq, map_eq_self fun x member => ih x member (increasing x member)]
  | object ms ih =>
    rw [EveryObject, everyObjectMembers_iff] at increasing
    have values : (ms.map fun m => (m.1, settle m.2)) = ms :=
      map_eq_self fun m member => by rw [ih m member (increasing.2 m member)]
    have kept := @foldl_putMember_increasing ms [] increasing.1
    rw [settle, settleMembers_eq, values, ofMembers, kept, List.nil_append]
  | null => rfl
  | bool b => rfl
  | int n => rfl
  | float x => rfl
  | text s => rfl

/-- The canonical form is read back like the document. -/
theorem isExact_canonicalize (exact : IsExact j) : IsExact (canonicalize j) := by
  -- By induction on the document: sorting neither adds members nor changes scalars.
  induction j using inductionOn with
  | list xs ih =>
    rw [IsExact, isExactItems_iff] at exact
    rw [canonicalize_items, IsExact, isExactItems_iff, List.forall_mem_map]
    exact fun x member => ih x member (exact x member)
  | object ms ih =>
    rw [IsExact, isExactMembers_iff] at exact
    rw [canonicalize_members, IsExact, isExactMembers_iff, forall_mem_sortedMembers]
    exact fun m member => ih m member (exact m member)
  | null => trivial
  | bool b => trivial
  | int n => exact exact
  | float x => exact exact
  | text s => trivial

/-- The canonical form is nested no deeper than the document. -/
theorem nesting_canonicalize (j : Json) : nesting (canonicalize j) ≤ nesting j := by
  -- By induction on the document: sorted members are nested no deeper than they were.
  induction j using inductionOn with
  | list xs ih =>
    have inside : nestingItems (xs.map canonicalize) ≤ nestingItems xs := by
      rw [nestingItems_le, List.forall_mem_map]
      exact fun x member => Nat.le_trans (ih x member) (nestingItems_le.mp (Nat.le_refl _) x member)
    rw [canonicalize_items]
    exact Nat.succ_le_succ inside
  | object ms ih =>
    have inside : nestingMembers (sortedMembers ms) ≤ nestingMembers ms := by
      rw [nestingMembers_le, forall_mem_sortedMembers]
      exact fun m member => Nat.le_trans (ih m member) (nestingMembers_le.mp (Nat.le_refl _) m member)
    rw [canonicalize_members]
    exact Nat.succ_le_succ inside
  | null => exact Nat.le_refl 0
  | bool b => exact Nat.le_refl 0
  | int n => exact Nat.le_refl 0
  | float x => exact Nat.le_refl 0
  | text s => exact Nat.le_refl 0

end Sorted

section Rearranged

mutual
/-- Two documents are the same up to the order of the members of their objects. -/
def Rearranged : Json → Json → Prop
  -- The items of a list keep their places.
  | .list xs, k => ∃ ys, k = .list ys ∧ RearrangedItems xs ys
  | .object ms, k => ∃ ns, k = .object ns ∧ RearrangedMembers ms ns
  | .null, k => k = .null
  | .bool b, k => k = .bool b
  | .int n, k => k = .int n
  | .float x, k => k = .float x
  | .text s, k => k = .text s
termination_by structural j => j

/-- Each item is the same as the one in its place. -/
def RearrangedItems : List Json → List Json → Prop
  | [], ys => ys = []
  | x :: xs, ys => ∃ y later, ys = y :: later ∧ Rearranged x y ∧ RearrangedItems xs later
termination_by structural xs => xs

/-- Each member is the same as one of its own anywhere among the others. -/
def RearrangedMembers : List (String × Json) → List (String × Json) → Prop
  | [], ns => ns = []
  | m :: ms, ns => ∃ before n behind, ns = before ++ n :: behind ∧ RearrangedMember m n ∧
      RearrangedMembers ms (before ++ behind)
termination_by structural ms => ms

/-- Two members have one name and the same value. -/
def RearrangedMember : String × Json → String × Json → Prop
  | (name, x), n => n.1 = name ∧ Rearranged x n.2
termination_by structural m => m
end

variable {v w : Json} {xs ys : List Json} {ms ns : List (String × Json)}

/-- What is done to rearranged items alike gives the same. -/
theorem RearrangedItems.map_eq {α : Type} {f : Json → α} (rearranged : RearrangedItems xs ys)
    (same : ∀ x ∈ xs, ∀ y, Rearranged x y → f x = f y) : xs.map f = ys.map f := by
  -- The items agree place by place.
  induction xs generalizing ys with
  | nil => rw [rearranged]
  | cons x xs ih =>
    obtain ⟨y, later, rfl, first, rest⟩ := rearranged
    rw [List.map_cons, List.map_cons, same x List.mem_cons_self y first,
      ih rest fun x member => same x (List.mem_cons_of_mem _ member)]

/-- What is done to the values of rearranged members alike gives the same in another order. -/
theorem RearrangedMembers.map_perm {α : Type} {f : Json → α} (rearranged : RearrangedMembers ms ns)
    (same : ∀ m ∈ ms, ∀ y, Rearranged m.2 y → f m.2 = f y) :
    (ms.map fun m => (m.1, f m.2)).Perm (ns.map fun n => (n.1, f n.2)) := by
  -- By induction on the members, each of which is found among the others and taken out there.
  induction ms generalizing ns with
  | nil => rw [rearranged]
  | cons m ms ih =>
    obtain ⟨name, x⟩ := m
    obtain ⟨before, n, behind, rfl, ⟨named, value⟩, rest⟩ := rearranged
    have first : (name, f x) = (n.1, f n.2) := by
      rw [named, same (name, x) List.mem_cons_self n.2 value]
    have later := ih rest fun m member => same m (List.mem_cons_of_mem _ member)
    rw [List.map_append] at later
    rw [List.map_cons, List.map_append, List.map_cons, first]
    exact (later.cons _).trans List.perm_middle.symm

/-- Items that are the same when something is done to them are the same, if so are single ones. -/
theorem rearrangedItems_of_map {α : Type} {f : Json → α} (equal : xs.map f = ys.map f)
    (same : ∀ x ∈ xs, ∀ y, f x = f y → Rearranged x y) : RearrangedItems xs ys := by
  -- The lists have one length, and each item has its counterpart.
  induction xs generalizing ys with
  | nil => exact List.map_eq_nil_iff.mp equal.symm
  | cons x xs ih =>
    obtain ⟨y, later, rfl, first, rest⟩ := List.map_eq_cons_iff.mp equal.symm
    exact ⟨y, later, rfl, same x List.mem_cons_self y first.symm,
      ih rest.symm fun x member => same x (List.mem_cons_of_mem _ member)⟩

/-- Members that are the same in some order when something is done to their values are the same. -/
theorem rearrangedMembers_of_perm {α : Type} {f : Json → α}
    (perm : (ms.map fun m => (m.1, f m.2)).Perm (ns.map fun n => (n.1, f n.2)))
    (same : ∀ m ∈ ms, ∀ y, f m.2 = f y → Rearranged m.2 y) : RearrangedMembers ms ns := by
  -- By induction on the members: the first one has a partner on the other side, and the rest agree.
  induction ms generalizing ns with
  | nil => exact List.map_eq_nil_iff.mp perm.nil_eq.symm
  | cons m ms ih =>
    obtain ⟨name, x⟩ := m
    rw [List.map_cons] at perm
    obtain ⟨n, member, first⟩ := List.mem_map.mp (perm.subset List.mem_cons_self)
    obtain ⟨before, behind, rfl⟩ := List.append_of_mem member
    obtain ⟨named, value⟩ := Prod.mk.inj first
    rw [List.map_append, List.map_cons, first] at perm
    have later := (perm.trans List.perm_middle).cons_inv
    rw [← List.map_append] at later
    exact ⟨before, n, behind, rfl, ⟨named, same (name, x) List.mem_cons_self n.2 value.symm⟩,
      ih later fun m member => same m (List.mem_cons_of_mem _ member)⟩

/-- Documents that differ in the order of members have one canonical form. -/
theorem canonicalize_rearranged (once : EveryObject NamedOnce v) (rearranged : Rearranged v w) :
    canonicalize v = canonicalize w := by
  -- By induction on the document: distinct names leave one way to sort the members.
  induction v using inductionOn generalizing w with
  | list xs ih =>
    obtain ⟨ys, rfl, items⟩ := rearranged
    rw [EveryObject, everyObjectItems_iff] at once
    rw [canonicalize_items, canonicalize_items,
      items.map_eq fun x member y same => ih x member (once x member) same]
  | object ms ih =>
    obtain ⟨ns, rfl, members⟩ := rearranged
    rw [EveryObject, everyObjectMembers_iff] at once
    have perm := members.map_perm fun m member y same => ih m member (once.2 m member) same
    have distinct : ((ms.map fun m => (m.1, canonicalize m.2)).map Prod.fst).Nodup := by
      rw [map_fst_canonical]
      exact once.1
    rw [canonicalize_members, canonicalize_members]
    exact congrArg Json.object (mergeSort_perm_eq perm distinct)
  | null => rw [rearranged]
  | bool b => rw [rearranged]
  | int n => rw [rearranged]
  | float x => rw [rearranged]
  | text s => rw [rearranged]

/-- Documents with one canonical form differ in the order of members only. -/
theorem rearranged_of_canonicalize (same : canonicalize v = canonicalize w) : Rearranged v w := by
  -- By induction on the document: each side is a rearrangement of the form that both have.
  induction v using inductionOn generalizing w with
  | list xs ih =>
    cases w with
    | list ys =>
      rw [canonicalize_items, canonicalize_items] at same
      exact ⟨ys, rfl, rearrangedItems_of_map (Json.list.inj same) fun x member y => ih x member⟩
    | _ => cases same
  | object ms ih =>
    cases w with
    | object ns =>
      rw [canonicalize_members, canonicalize_members] at same
      have perm := (sortedMembers_perm ms).symm.trans
        (Json.object.inj same ▸ sortedMembers_perm ns)
      exact ⟨ns, rfl, rearrangedMembers_of_perm perm fun m member y => ih m member⟩
    | _ => cases same
  | null => cases w <;> first | rfl | cases same
  | bool b => cases w <;> first | exact same.symm | cases same
  | int n => cases w <;> first | exact same.symm | cases same
  | float x => cases w <;> first | exact same.symm | cases same
  | text s => cases w <;> first | exact same.symm | cases same

end Rearranged

section Text

variable {v w : Json}

/-- The names of an object increase in the order of their bytes. -/
def BytesIncrease (ms : List (String × Json)) : Prop :=
  ms.Pairwise fun m n => Utf8.encode m.1 < Utf8.encode n.1

/-- A document that is written without loss: no floats, integers and nesting within their bounds, and
each name once in an object. -/
structure Portable (j : Json) : Prop where
  exact : IsExact j
  shallow : nesting j ≤ greatestDepth
  once : EveryObject NamedOnce j

/-- The canonical text is read back as the canonical form. -/
theorem ofText_canonicalText (portable : Portable v) :
    ofText (canonicalText v) = .ok (canonicalize v) := by
  -- The canonical text is the pretty text of a value whose objects are sorted, so settling keeps it.
  have read := ofText_pretty (isExact_canonicalize portable.exact)
    (Nat.le_trans (nesting_canonicalize v) portable.shallow)
  rw [canonicalText, read, settle_of_increasing (increasing_canonicalize portable.once)]

/-- The canonical form of a canonical form is the same. -/
theorem canonicalize_canonicalize (once : EveryObject NamedOnce v) :
    canonicalize (canonicalize v) = canonicalize v :=
  canonicalize_of_increasing (increasing_canonicalize once)

/-- Two documents have one canonical text exactly if they are the same up to the order of members; it
is read back as the canonical form, which has its names in increasing order of their bytes and all
items in their places, and what is read back has the same text. -/
theorem canonicalText_normal_form (first : Portable v) (second : Portable w) :
    (canonicalText v = canonicalText w ↔ Rearranged v w) ∧
      ofText (canonicalText v) = .ok (canonicalize v) ∧
      EveryObject BytesIncrease (canonicalize v) ∧
      Rearranged v (canonicalize v) ∧
      canonicalText (canonicalize v) = canonicalText v := by
  have again := canonicalize_canonicalize first.once
  refine ⟨⟨fun same => ?_, fun rearranged => ?_⟩, ofText_canonicalText first, ?_, ?_, ?_⟩
  · -- Both are read back from the one text.
    have read := ofText_canonicalText second
    rw [← same, ofText_canonicalText first] at read
    exact rearranged_of_canonicalize (Except.ok.inj read)
  · rw [canonicalText, canonicalText, canonicalize_rearranged first.once rearranged]
  · exact (increasing_canonicalize first.once).imp fun ms increasing =>
      increasing.imp fun less => Utf8.encode_lt less
  · exact rearranged_of_canonicalize again.symm
  · rw [canonicalText, canonicalText, again]

/-- Two orders of the members of a document have one text, down to an object inside a list. -/
theorem canonicalText_two_orders :
    let inner : Json := .list [.int leastInt, .object [("b", .text "\n\u0001"), ("a", .list [])]]
    let turned : Json := .list [.int leastInt, .object [("a", .list []), ("b", .text "\n\u0001")]]
    let v : Json := .object [("é", inner), ("z", .int greatestInt)]
    let w : Json := .object [("z", .int greatestInt), ("é", turned)]
    Portable v ∧ Portable w ∧ Rearranged v w ∧ canonicalText v = canonicalText w := by
  -- The names of both objects are exchanged, at the outer level and inside the list.
  intro inner turned v w
  have first : Portable v :=
    ⟨by simp [v, inner, IsExact, IsExactMembers, IsExactMember, IsExactItems, leastInt, greatestInt],
      by decide, by
      simp [v, inner, EveryObject, EveryObjectMembers, EveryObjectMember, EveryObjectItems, NamedOnce]⟩
  have second : Portable w :=
    ⟨by simp [w, turned, IsExact, IsExactMembers, IsExactMember, IsExactItems, leastInt, greatestInt],
      by decide, by
      simp [w, turned, EveryObject, EveryObjectMembers, EveryObjectMember, EveryObjectItems, NamedOnce]⟩
  have moved : RearrangedMembers [("b", .text "\n\u0001"), ("a", .list [])]
      [("a", .list []), ("b", .text "\n\u0001")] :=
    ⟨[("a", .list [])], _, [], rfl, ⟨rfl, rfl⟩, [], _, [], rfl, ⟨rfl, _, rfl, rfl⟩, rfl⟩
  have rearranged : Rearranged v w :=
    ⟨_, rfl, [("z", .int greatestInt)], _, [], rfl,
      ⟨rfl, _, rfl, _, _, rfl, rfl, _, _, rfl, ⟨_, rfl, moved⟩, rfl⟩, [], _, [], rfl, ⟨rfl, rfl⟩, rfl⟩
  exact ⟨first, second, rearranged, (canonicalText_normal_form first second).1.mpr rearranged⟩

end Text

end TemplateFacts.Json
