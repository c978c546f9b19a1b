import TemplateFacts.Proofs.FileTree.Proper

/-!
Trees whose directories list their entries in another order: the same stands everywhere in them.
-/

namespace TemplateFacts.FileTree

/-- The directories of a tree list their entries in any other order. -/
inductive Relisted : FileTree → FileTree → Prop
  | refl (tree : FileTree) : Relisted tree tree
  | trans {tree between changed : FileTree} (first : Relisted tree between)
    (second : Relisted between changed) : Relisted tree changed
  /-- The entries of the directory itself are listed in another order. -/
  | permuted {es es' : List (String × FileTree)} (perm : es.Perm es') : Relisted (.directory es) (.directory es')
  /-- The entries inside one of its entries are. -/
  | inside {tree changed : FileTree} (before : List (String × FileTree)) (name : String)
    (after : List (String × FileTree)) (relisted : Relisted tree changed) :
    Relisted (.directory (before ++ (name, tree) :: after)) (.directory (before ++ (name, changed) :: after))

section Relisted

variable {tree changed : FileTree} {es es' : List (String × FileTree)} {name : String}

/-- An entry is found by its name in whatever order the entries are, if their names are distinct. -/
theorem lookup_perm (apart : (es.map Prod.fst).Nodup) (perm : es.Perm es') :
    es'.lookup name = es.lookup name := by
  -- With each name once, a lookup is membership, and a permutation keeps that.
  have apartToo := ((perm.map Prod.fst).nodup_iff).mp apart
  cases found : es.lookup name with
  | some entry => exact Json.lookup_of_mem apartToo (perm.mem_iff.mp (Json.mem_of_lookup found))
  | none =>
    cases foundToo : es'.lookup name with
    | none => rfl
    | some entry =>
      rw [Json.lookup_of_mem apart (perm.mem_iff.mpr (Json.mem_of_lookup foundToo))] at found
      cases found

/-- A proper tree stays so in whatever order its entries are listed. -/
theorem Relisted.proper (relisted : Relisted tree changed) (proper : tree.Proper) : changed.Proper := by
  induction relisted with
  | refl => exact proper
  | trans _ _ ih ihToo => exact ihToo (ih proper)
  | permuted perm =>
    cases proper with
    | directory named apart inside =>
      exact .directory (fun e member => named e (perm.mem_iff.mpr member))
        (((perm.map Prod.fst).nodup_iff).mp apart) fun e member => inside e (perm.mem_iff.mpr member)
  | @inside part changed before name after _ ih =>
    cases proper with
    | directory named apart inside =>
      -- The entry keeps its name, and the others are left alone.
      have kept {e : String × FileTree} (member : e ∈ before ++ (name, changed) :: after) :
          e = (name, changed) ∨ e ∈ before ++ (name, part) :: after := by
        simp only [List.mem_append, List.mem_cons] at member ⊢
        tauto
      refine .directory (fun e member => ?_) (by simpa using apart) fun e member => ?_
      · rcases kept member with rfl | old
        · exact named (name, part) (by simp)
        · exact named e old
      · rcases kept member with rfl | old
        · exact ih (inside (name, part) (by simp))
        · exact inside e old

/-- The same stands everywhere in a proper tree, in whatever order its entries are listed. -/
theorem Relisted.standing (relisted : Relisted tree changed) (proper : tree.Proper) (place : List String) :
    changed.standing place = tree.standing place := by
  -- By induction on the relisting, which reorders entries or relists what is inside of one.
  induction relisted generalizing place with
  | refl => rfl
  | trans first _ ih ihToo => rw [ihToo (first.proper proper), ih proper]
  | @permuted es es' perm =>
    cases place with
    | nil => rfl
    | cons name names =>
      have found : es'.lookup name = es.lookup name := lookup_perm proper.entries.2.1 perm
      rw [standing_cons, standing_cons, entries_directory, found, entries_directory]
  | @inside part changed before name after relisted ih =>
    cases place with
    | nil => rfl
    | cons other names =>
      have properToo := (Relisted.inside before name after relisted).proper proper
      obtain ⟨-, apart, inside⟩ := proper.entries
      obtain ⟨-, apartToo, -⟩ := properToo.entries
      rw [entries_directory] at apart inside apartToo
      rw [standing_cons, standing_cons, entries_directory, entries_directory]
      by_cases here : other = name
      · -- All names differ, so that the entry is found wherever it is listed.
        have found : (before ++ (name, part) :: after).lookup name = some part :=
          Json.lookup_of_mem (e := (name, part)) apart (by simp)
        have foundToo : (before ++ (name, changed) :: after).lookup name = some changed :=
          Json.lookup_of_mem (e := (name, changed)) apartToo (by simp)
        rw [here, found, foundToo]
        exact ih (inside (name, part) (by simp)) names
      · rw [List.lookup_append, List.lookup_append, Json.lookup_cons, Json.lookup_cons,
          if_neg here, if_neg here]

/-- The same stands in a proper tree, in whatever order its entries are listed, so that paths lead to the same
places in it. -/
theorem Relisted.alike (relisted : Relisted tree changed) (proper : tree.Proper) : Alike tree changed :=
  fun place => by rw [relisted.standing proper place]

end Relisted

end TemplateFacts.FileTree
