import TemplateFacts.FileTree.Basic

/-!
What stands at the places of a tree, and what becomes of it when a part that holds nothing is set or
removed: it changes at the place itself, and nowhere else.
-/

namespace TemplateFacts.FileTree

/-- What stands at a place of a tree, but for what it holds and its time. -/
inductive Standing where
  | nothing
  | file (bytes : List UInt8)
  | link (target : String)
  | directory
deriving DecidableEq, Repr

/-- What a tree is as a whole. -/
def kind : FileTree → Standing
  | .file bytes _ => .file bytes
  | .link target => .link target
  | .directory _ => .directory

/-- What stands at a place. -/
def standing (tree : FileTree) (place : List String) : Standing :=
  ((tree.at? place).map kind).getD .nothing

/-- A tree but for what it holds. -/
def face : FileTree → FileTree
  | .directory _ => .directory []
  | tree => tree

/-- What is at a place, with its time, but for what it holds. -/
def faceAt (tree : FileTree) (place : List String) : Option FileTree := (tree.at? place).map face

/-- Whatever is at a place holds nothing. -/
def Bare (tree : FileTree) (place : List String) : Prop :=
  ∀ part, tree.at? place = some part → part.entries = []

theorem at?_cons (tree : FileTree) (name : String) (names : List String) :
    tree.at? (name :: names) = (tree.entries.lookup name).bind (·.at? names) := by
  rw [at?]
  cases tree.entries.lookup name <;> rfl

/-- A place is reached through the places above it. -/
theorem at?_append (tree : FileTree) (above below : List String) :
    tree.at? (above ++ below) = (tree.at? above).bind (·.at? below) := by
  -- The induction is on the names above, each of which selects an entry.
  induction above generalizing tree with
  | nil => simp [at?]
  | cons name above ih =>
    rw [List.cons_append, at?_cons, at?_cons, Option.bind_assoc]
    simp only [ih]

theorem kind_eq_directory {tree : FileTree} : tree.kind = .directory ↔ ∃ es, tree = .directory es := by
  cases tree <;> simp [kind]

theorem standing_eq_directory {tree : FileTree} {place : List String} :
    tree.standing place = .directory ↔ ∃ es, tree.at? place = some (.directory es) := by
  -- What stands there is the kind of what is there.
  rw [standing]
  cases tree.at? place with
  | none => simp
  | some part => simp [kind_eq_directory]

theorem standing_eq_nothing {tree : FileTree} {place : List String} :
    tree.standing place = .nothing ↔ tree.at? place = none := by
  -- Only where nothing is does nothing stand.
  rw [standing]
  cases tree.at? place with
  | none => simp
  | some part => cases part <;> simp [kind]

theorem standing_eq_link {tree : FileTree} {place : List String} {target : String} :
    tree.standing place = .link target ↔ tree.at? place = some (.link target) := by
  -- A link stands with its target, so it is there with it.
  rw [standing]
  cases tree.at? place with
  | none => simp
  | some part => cases part <;> simp [kind]

theorem standing_eq_file {tree : FileTree} {place : List String} {bytes : List UInt8} :
    tree.standing place = .file bytes ↔ ∃ modified, tree.at? place = some (.file bytes modified) := by
  -- A file stands with its bytes, while its time is not told.
  rw [standing]
  cases tree.at? place with
  | none => simp
  | some part => cases part <;> simp [kind]

/-- Only a directory has something below it. -/
theorem standing_above {tree : FileTree} {above : List String} {name : String} {below : List String}
    (some : tree.standing (above ++ name :: below) ≠ .nothing) : tree.standing above = .directory := by
  rw [ne_eq, standing_eq_nothing, at?_append] at some
  rw [standing_eq_directory]
  -- Neither a file nor a link has entries.
  cases part : tree.at? above with
  | none => simp [part] at some
  | some there =>
    cases there with
    | directory es => exact ⟨es, rfl⟩
    | file bytes modified => simp [part, at?, entries] at some
    | link target => simp [part, at?, entries] at some

theorem lookup_setEntry (name other : String) (entry : FileTree) (es : List (String × FileTree)) :
    (setEntry name entry es).lookup other = if other = name then some entry else es.lookup other := by
  induction es with
  | nil =>
    by_cases same : other = name
    · simp [setEntry, same]
    · simp [setEntry, List.lookup_cons, same, beq_eq_false_iff_ne.mpr same]
  | cons e es ih =>
    obtain ⟨first, kept⟩ := e
    rw [setEntry]
    -- Only the first entry of the name is replaced, and only that one is found.
    by_cases here : first = name
    · subst here
      by_cases same : other = first
      · simp [same]
      · simp [List.lookup_cons, same, beq_eq_false_iff_ne.mpr same]
    · simp only [beq_eq_false_iff_ne.mpr here, Bool.false_eq_true, if_false, List.lookup_cons, ih]
      by_cases found : other = first
      · subst found
        simp [here]
      · simp [beq_eq_false_iff_ne.mpr found]

theorem lookup_dropEntry (name other : String) (es : List (String × FileTree)) :
    (dropEntry name es).lookup other = if other = name then none else es.lookup other := by
  induction es with
  | nil => simp [dropEntry]
  | cons e es ih =>
    obtain ⟨first, kept⟩ := e
    rw [dropEntry] at ih ⊢
    -- All entries of the name are dropped, so that none of them is found.
    by_cases here : first = name
    · subst here
      rw [List.filter_cons_of_neg (by simp), ih, List.lookup_cons]
      by_cases same : other = first
      · simp [same]
      · simp [same, beq_eq_false_iff_ne.mpr same]
    · rw [List.filter_cons_of_pos (by simpa using here), List.lookup_cons, List.lookup_cons, ih]
      by_cases found : other = first
      · subst found
        simp [here]
      · simp [beq_eq_false_iff_ne.mpr found]

@[simp] theorem entries_directory (es : List (String × FileTree)) : (directory es).entries = es := rfl

@[simp] theorem entries_file (bytes : List UInt8) (modified : Timestamp.Instant) :
    (file bytes modified).entries = [] := rfl

@[simp] theorem entries_link (target : String) : (link target).entries = [] := rfl

@[simp] theorem entries_empty : empty.entries = [] := rfl

@[simp] theorem standing_nil (tree : FileTree) : tree.standing [] = tree.kind := rfl

/-- What stands at a place stands in the entry on the way to it. -/
theorem standing_cons (tree : FileTree) (name : String) (names : List String) :
    tree.standing (name :: names) =
      ((tree.entries.lookup name).map (·.standing names)).getD .nothing := by
  rw [standing, at?_cons]
  cases tree.entries.lookup name <;> rfl

/-- What is at a place is in the entry on the way to it. -/
theorem faceAt_cons (tree : FileTree) (name : String) (names : List String) :
    tree.faceAt (name :: names) = (tree.entries.lookup name).bind (·.faceAt names) := by
  rw [faceAt, at?_cons]
  cases tree.entries.lookup name <;> rfl

@[simp] theorem faceAt_nil (tree : FileTree) : tree.faceAt [] = some tree.face := rfl

@[simp] theorem kind_face (tree : FileTree) : tree.face.kind = tree.kind := by
  cases tree <;> rfl

/-- What stands at a place is seen there. -/
theorem standing_eq_face (tree : FileTree) (place : List String) :
    tree.standing place = ((tree.faceAt place).map kind).getD .nothing := by
  rw [standing, faceAt]
  cases tree.at? place <;> simp

theorem face_eq_directory {tree : FileTree} (directory : tree.kind = .directory) :
    tree.face = .directory [] := by
  obtain ⟨es, rfl⟩ := kind_eq_directory.mp directory
  rfl

theorem faceAt_eq_file {tree : FileTree} {place : List String} {bytes : List UInt8}
    {modified : Timestamp.Instant} : tree.faceAt place = some (.file bytes modified) ↔
      tree.at? place = some (.file bytes modified) := by
  -- A face keeps a file's bytes and its time.
  rw [faceAt]
  cases tree.at? place with
  | none => simp
  | some part => cases part <;> simp [face]

/-- Below what holds nothing there is nothing. -/
theorem faceAt_of_entries_eq_nil {part : FileTree} (holds : part.entries = []) {below : List String}
    (some : below ≠ []) : part.faceAt below = none := by
  -- Only a directory's entries are looked up any further.
  obtain ⟨name, names, rfl⟩ := List.exists_cons_of_ne_nil some
  rw [faceAt_cons, holds]
  rfl

/-- A directory on the way to a place is an entry, and a directory. -/
theorem entry_of_standing {tree : FileTree} {name : String} {names : List String}
    (isDirectory : tree.standing (name :: names) = .directory) :
    ∃ inside, tree.entries.lookup name = some inside ∧ inside.kind = .directory ∧
      inside.standing names = .directory := by
  rw [standing_cons] at isDirectory
  cases entry : tree.entries.lookup name with
  | none => simp [entry] at isDirectory
  | some inside =>
    rw [entry, Option.map_some, Option.getD_some] at isDirectory
    refine ⟨inside, rfl, ?_, isDirectory⟩
    -- The entry is the place itself, or something is below it.
    cases names with
    | nil => exact isDirectory
    | cons next names =>
      have something : inside.standing ([] ++ next :: names) ≠ .nothing := by
        simp [isDirectory]
      exact standing_above something

/-- What is bare below an entry is bare in it. -/
theorem Bare.inside {tree inside : FileTree} {name : String} {names : List String}
    (bare : tree.Bare (name :: names)) (entry : tree.entries.lookup name = some inside) :
    inside.Bare names := by
  -- What is below the entry is below the folder as well.
  intro part there
  exact bare part (by rw [at?_cons, entry, Option.bind_some, there])

/-- Something set in a directory changes what is at its place only, if neither it nor what was there
before holds anything. -/
theorem faceAt_put {part tree : FileTree} {above : List String} {name : String}
    (holds : part.entries = []) (bare : tree.Bare (above ++ [name]))
    (opened : above = [] ∨ tree.standing above = .directory) {place : List String} (below : place ≠ []) :
    (put part (above ++ [name]) tree).faceAt place =
      if place = above ++ [name] then some part.face else tree.faceAt place := by
  obtain ⟨first, rest, rfl⟩ := List.exists_cons_of_ne_nil below
  -- The induction goes down to the directory of the part, along with the place that is looked at.
  induction above generalizing tree first rest with
  | nil =>
    rw [List.nil_append] at bare ⊢
    rw [put, put, faceAt_cons, faceAt_cons, entries_directory, lookup_setEntry]
    by_cases here : first = name
    · subst here
      rw [if_pos rfl, Option.bind_some]
      by_cases last : rest = []
      · simp [last]
      · -- Neither the new part nor the old one has anything below it.
        have old : (tree.entries.lookup first).bind (·.faceAt rest) = none := by
          cases found : tree.entries.lookup first with
          | none => rfl
          | some there =>
            have empty := bare.inside found there rfl
            exact faceAt_of_entries_eq_nil empty last
        rw [faceAt_of_entries_eq_nil holds last, old]
        simp [last]
    · simp [here]
  | cons top above ih =>
    obtain ⟨inside, entry, directory, there⟩ := entry_of_standing (opened.resolve_left (by simp))
    rw [List.cons_append] at bare ⊢
    rw [put, faceAt_cons, faceAt_cons, entries_directory, lookup_setEntry, entry, Option.getD_some]
    by_cases here : first = top
    · subst here
      rw [if_pos rfl, entry, Option.bind_some, Option.bind_some]
      cases rest with
      | nil =>
        -- The directory on the way is still one.
        obtain ⟨next, more, split⟩ := List.exists_cons_of_ne_nil (l := above ++ [name]) (by simp)
        rw [split, put, faceAt_nil, faceAt_nil, face_eq_directory directory]
        simp [face]
      | cons next rest =>
        have inner := ih (bare.inside entry) (.inr there) next rest (by simp)
        simpa using inner
    · simp [here]

/-- Something set in a directory changes what stands at its place, and nothing else. -/
theorem standing_put {part tree : FileTree} {above : List String} {name : String}
    (holds : part.entries = []) (bare : tree.Bare (above ++ [name]))
    (opened : above = [] ∨ tree.standing above = .directory) {place : List String} (below : place ≠ []) :
    (put part (above ++ [name]) tree).standing place =
      if place = above ++ [name] then part.kind else tree.standing place := by
  -- A part without entries shows its kind and nothing below it.
  rw [standing_eq_face, standing_eq_face, faceAt_put holds bare opened below]
  split <;> simp

/-- Removing goes into the entry on the way. -/
theorem erase_cons (tree : FileTree) (name : String) {names : List String} (more : names ≠ []) :
    erase (name :: names) tree = match tree.entries.lookup name with
      | some entry => .directory (setEntry name (erase names entry) tree.entries)
      | none => tree := by
  obtain ⟨next, names, rfl⟩ := List.exists_cons_of_ne_nil more
  cases found : tree.entries.lookup name <;> rw [erase.eq_3 _ _ _ (by simp), found]

/-- A directory is still one when something in it has been removed. -/
theorem kind_erase {tree : FileTree} (directory : tree.kind = .directory) (names : List String) :
    (erase names tree).kind = .directory := by
  -- Only entries change, if anything does.
  cases names with
  | nil => exact directory
  | cons name names =>
    by_cases last : names = []
    · subst last
      rfl
    · rw [erase_cons tree name last]
      cases tree.entries.lookup name with
      | none => exact directory
      | some entry => rfl

/-- Something that holds nothing is removed from its place, and from no other one. -/
theorem faceAt_erase {tree : FileTree} {above : List String} {name : String}
    (bare : tree.Bare (above ++ [name]))
    (opened : above = [] ∨ tree.standing above = .directory) {place : List String} (below : place ≠ []) :
    (erase (above ++ [name]) tree).faceAt place =
      if place = above ++ [name] then none else tree.faceAt place := by
  obtain ⟨first, rest, rfl⟩ := List.exists_cons_of_ne_nil below
  -- The induction goes down to the directory that holds the part.
  induction above generalizing tree first rest with
  | nil =>
    rw [List.nil_append] at bare ⊢
    rw [erase, faceAt_cons, faceAt_cons, entries_directory, lookup_dropEntry]
    by_cases here : first = name
    · subst here
      rw [if_pos rfl, Option.bind_none]
      by_cases last : rest = []
      · simp [last]
      · -- Below what is removed there was nothing before.
        cases found : tree.entries.lookup first with
        | none => simp
        | some there =>
          have empty := bare.inside found there rfl
          simp [faceAt_of_entries_eq_nil empty last]
    · simp [here]
  | cons top above ih =>
    obtain ⟨inside, entry, directory, there⟩ := entry_of_standing (opened.resolve_left (by simp))
    have step : erase (top :: (above ++ [name])) tree =
        .directory (setEntry top (erase (above ++ [name]) inside) tree.entries) := by
      rw [erase_cons tree top (by simp), entry]
    rw [List.cons_append] at bare ⊢
    rw [step, faceAt_cons, faceAt_cons, entries_directory, lookup_setEntry]
    by_cases here : first = top
    · subst here
      rw [if_pos rfl, entry, Option.bind_some, Option.bind_some]
      cases rest with
      | nil =>
        -- The directory on the way is still one.
        rw [faceAt_nil, faceAt_nil, face_eq_directory (kind_erase directory _), face_eq_directory directory]
        simp
      | cons next rest =>
        have inner := ih (bare.inside entry) (.inr there) next rest (by simp)
        simpa using inner
    · simp [here]

/-- What is removed does not stand at its place any more, and all else stands. -/
theorem standing_erase {tree : FileTree} {above : List String} {name : String}
    (bare : tree.Bare (above ++ [name]))
    (opened : above = [] ∨ tree.standing above = .directory) {place : List String} (below : place ≠ []) :
    (erase (above ++ [name]) tree).standing place =
      if place = above ++ [name] then .nothing else tree.standing place := by
  -- Nothing was below the place, so only the place itself is empty now.
  rw [standing_eq_face, standing_eq_face, faceAt_erase bare opened below]
  split <;> simp

end TemplateFacts.FileTree
