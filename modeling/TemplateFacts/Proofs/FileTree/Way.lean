import TemplateFacts.FileTree.Walk
import TemplateFacts.Proofs.FileTree.Place

/-!
The ways that paths take in a tree, with the links that may still be followed on them. A way is taken
exactly as it is described here, can be cut behind any directory that it comes through, and is the same in
every tree that has the directories and the links of the first one.
-/

namespace TemplateFacts.FileTree

/-- The directory from which the target of a link is seen. -/
def startOf (target : String) (here : List String) : List String :=
  if target.toList.head? == some '/' then [] else here

/-- A segment that is neither of the dots. -/
def IsName (segment : String) : Prop := segment ≠ "." ∧ segment ≠ ".."

/-- A place in which names are looked up. -/
def Opened (root : FileTree) (here : List String) : Prop :=
  here = [] ∨ root.standing here = .directory

/-- A name that is not too long to be looked up. -/
def IsShort (segment : String) : Prop := segment.utf8ByteSize ≤ greatestName

/-- A name is not one of the dots that the walk looks for. -/
theorem IsName.noDots {segment : String} (isName : IsName segment) :
    (segment == ".") = false ∧ (segment == "..") = false :=
  ⟨beq_eq_false_iff_ne.mpr isName.1, beq_eq_false_iff_ne.mpr isName.2⟩

/-- A short name is not refused for its length. -/
theorem IsShort.fits {segment : String} (short : IsShort segment) :
    ¬ segment.utf8ByteSize > greatestName :=
  Nat.not_lt_of_le short

/-- Segments lead from a directory to a place, with some links to follow at first and some left then; a
link at the very end is followed if that is told, or if a directory is asked for. -/
inductive Way (root : FileTree) (followLast : Bool) :
    (links : Nat) → (slash : Bool) → (here segments there : List String) → (left : Nat) → Prop
  | done (links : Nat) (slash : Bool) (here : List String) : Way root followLast links slash here [] here links
  /-- The last segment may be missing. -/
  | missing {here : List String} {segment : String} (links : Nat) (slash : Bool) (isName : IsName segment)
    (short : IsShort segment) (stands : root.standing (here ++ [segment]) = .nothing) :
    Way root followLast links slash here [segment] (here ++ [segment]) links
  /-- The last segment may be that of a file, if no directory is asked for. -/
  | file {here : List String} {segment : String} {bytes : List UInt8} (links : Nat) (isName : IsName segment)
    (short : IsShort segment) (stands : root.standing (here ++ [segment]) = .file bytes) :
    Way root followLast links false here [segment] (here ++ [segment]) links
  /-- The last segment may be that of a link that is not followed. -/
  | link {here : List String} {segment target : String} (links : Nat) (isName : IsName segment)
    (short : IsShort segment) (stands : root.standing (here ++ [segment]) = .link target)
    (stays : followLast = false) : Way root followLast links false here [segment] (here ++ [segment]) links
  | dot {links left : Nat} {slash : Bool} {here rest there : List String}
    (way : Way root followLast links slash here rest there left) :
    Way root followLast links slash here ("." :: rest) there left
  | up {links left : Nat} {slash : Bool} {here rest there : List String}
    (way : Way root followLast links slash here.dropLast rest there left) :
    Way root followLast links slash here (".." :: rest) there left
  | enter {links left : Nat} {slash : Bool} {here rest there : List String} {segment : String}
    (isName : IsName segment) (short : IsShort segment)
    (stands : root.standing (here ++ [segment]) = .directory)
    (way : Way root followLast links slash (here ++ [segment]) rest there left) :
    Way root followLast links slash here (segment :: rest) there left
  | follow {links left : Nat} {slash : Bool} {here rest there : List String} {segment target : String}
    (isName : IsName segment) (short : IsShort segment)
    (stands : root.standing (here ++ [segment]) = .link target)
    (follows : rest ≠ [] ∨ slash = true ∨ followLast = true)
    (way : Way root followLast links (slash || (rest.isEmpty && endsInSlash target)) (startOf target here)
      (segments target ++ rest) there left) :
    Way root followLast (links + 1) slash here (segment :: rest) there left

/-- How it goes on behind a link, with so many links to follow. -/
def behindLink (root : FileTree) (followLast : Bool) (links : Nat) (slash : Bool) (here : List String)
    (target : String) (rest : List String) : Except Errno Spot :=
  match links with
  | 0 => .error .tooManyLinks
  | links + 1 => goFollowing root followLast links (slash || (rest.isEmpty && endsInSlash target))
      (startOf target here) (segments target ++ rest)

/-- Segments are gone along, and links are followed as long as some are left. -/
theorem goFollowing_eq (root : FileTree) (followLast : Bool) (links : Nat) (slash : Bool)
    (here path : List String) : goFollowing root followLast links slash here path =
      goAlong root followLast (behindLink root followLast links slash) slash here path := by
  -- With no links left the walk stops at a link, which is what being behind one means then.
  cases links <;> rfl

section Way

variable {root : FileTree} {followLast slash : Bool} {links left : Nat} {here path there : List String}

/-- Going along segments takes the way, given that it does so behind links. -/
theorem way_of_goAlong {onLink : List String → String → List String → Except Errno Spot} {spot : Spot}
    (behind : ∀ here target rest, onLink here target rest = .ok spot → ∃ fewer left, links = fewer + 1 ∧
      Way root followLast fewer (slash || (rest.isEmpty && endsInSlash target)) (startOf target here)
        (segments target ++ rest) spot.names left)
    (ends : goAlong root followLast onLink slash here path = .ok spot) :
    ∃ left, Way root followLast links slash here path spot.names left := by
  -- The induction is on the segments; behind a link the assumption takes over.
  induction path generalizing here with
  | nil =>
    rw [goAlong] at ends
    obtain rfl := Except.ok.inj ends
    exact ⟨links, .done links slash here⟩
  | cons segment rest ih =>
    rw [goAlong] at ends
    by_cases dot : segment = "."
    · obtain ⟨left, way⟩ := ih (by simpa [dot] using ends)
      exact ⟨left, dot ▸ .dot way⟩
    by_cases up : segment = ".."
    · obtain ⟨left, way⟩ := ih (by simpa [up] using ends)
      exact ⟨left, up ▸ .up way⟩
    rw [if_neg (by simpa using dot), if_neg (by simpa using up)] at ends
    split at ends
    · cases ends
    rename_i long
    have short : IsShort segment := Nat.le_of_not_lt long
    -- What stands there decides how to go on.
    cases part : root.at? (here ++ [segment]) with
    | none =>
      -- A last name that is free is where the way ends, and a free name before it is a failure.
      simp only [part] at ends
      split at ends
      · rename_i alone
        obtain rfl := Except.ok.inj ends
        rw [List.isEmpty_iff] at alone
        subst alone
        exact ⟨links, .missing links slash ⟨dot, up⟩ short (standing_eq_nothing.mpr part)⟩
      · cases ends
    | some child =>
      cases child with
      | directory es =>
        simp only [part] at ends
        obtain ⟨left, way⟩ := ih ends
        exact ⟨left, .enter ⟨dot, up⟩ short (standing_eq_directory.mpr ⟨es, part⟩) way⟩
      | file bytes modified =>
        -- A file ends the way, unless something is asked of what is behind it.
        simp only [part] at ends
        split at ends
        · rename_i alone
          obtain rfl := Except.ok.inj ends
          rw [Bool.and_eq_true, List.isEmpty_iff, Bool.not_eq_true'] at alone
          obtain ⟨rfl, rfl⟩ := alone
          exact ⟨links, .file links ⟨dot, up⟩ short (standing_eq_file.mpr ⟨modified, part⟩)⟩
        · cases ends
      | link target =>
        -- A link is stayed at if it is the last and not followed, and gone behind otherwise.
        have stands := standing_eq_link.mpr part
        simp only [part] at ends
        split at ends
        · rename_i stays
          obtain rfl := Except.ok.inj ends
          rw [Bool.and_eq_true, Bool.and_eq_true, List.isEmpty_iff, Bool.not_eq_true',
            Bool.not_eq_true'] at stays
          obtain ⟨⟨rfl, rfl⟩, stays⟩ := stays
          exact ⟨links, .link links ⟨dot, up⟩ short stands stays⟩
        · rename_i follows
          obtain ⟨fewer, left, rfl, way⟩ := behind _ _ _ ends
          refine ⟨left, .follow ⟨dot, up⟩ short stands ?_ way⟩
          simpa [Classical.or_iff_not_imp_left] using follows

/-- What is found is at the end of a way. -/
theorem way_of_goFollowing {spot : Spot}
    (ends : goFollowing root followLast links slash here path = .ok spot) :
    ∃ left, Way root followLast links slash here path spot.names left := by
  -- The induction is on the number of links that may still be followed.
  induction links generalizing slash here path with
  | zero =>
    rw [goFollowing] at ends
    exact way_of_goAlong (by intro _ _ _ tooMany; cases tooMany) ends
  | succ links ih =>
    rw [goFollowing] at ends
    refine way_of_goAlong (fun here target rest onward => ?_) ends
    obtain ⟨left, way⟩ := ih onward
    exact ⟨links, left, rfl, way⟩

/-- A way is taken to its end. -/
theorem Way.goFollowing (way : Way root followLast links slash here path there left) :
    FileTree.goFollowing root followLast links slash here path = .ok ⟨there, root.at? there⟩ := by
  -- By induction on the way, each step of which is one case of the walk.
  induction way with
  | done links slash here => rw [goFollowing_eq, goAlong]
  | missing links slash isName short stands =>
    rw [standing_eq_nothing] at stands
    rw [goFollowing_eq, goAlong]
    simp [isName.noDots, short.fits, stands]
  | file links isName short stands =>
    -- Where the walk looks, the same stands.
    obtain ⟨modified, stands⟩ := standing_eq_file.mp stands
    rw [goFollowing_eq, goAlong]
    simp [isName.noDots, short.fits, stands]
  | link links isName short stands stays =>
    rw [standing_eq_link] at stands
    rw [goFollowing_eq, goAlong]
    simp [isName.noDots, short.fits, stands, stays]
  | dot way ih =>
    rw [goFollowing_eq] at ih ⊢
    rw [goAlong]
    simpa using ih
  | up way ih =>
    rw [goFollowing_eq] at ih ⊢
    rw [goAlong]
    simpa using ih
  | enter isName short stands way ih =>
    obtain ⟨es, stands⟩ := standing_eq_directory.mp stands
    rw [goFollowing_eq] at ih ⊢
    rw [goAlong]
    simpa [isName.noDots, short.fits, stands] using ih
  | @follow links left slash here rest there segment target isName short stands follows way ih =>
    rw [standing_eq_link] at stands
    rw [goFollowing_eq, goAlong]
    -- A link that is not stayed at has something behind it, is asked to lead on, or is followed.
    have onward : (rest.isEmpty && !slash && !followLast) = false := by
      rcases follows with more | asks | follows
      · simp [more]
      · simp [asks]
      · simp [follows]
    simpa [isName.noDots, short.fits, stands, onward, behindLink] using ih

/-- What is found at the end of a way is what is at its place. -/
theorem at?_of_goFollowing {spot : Spot}
    (ends : FileTree.goFollowing root followLast links slash here path = .ok spot) :
    spot.tree? = root.at? spot.names := by
  -- The walk ends where a way ends, and a way tells what is there.
  obtain ⟨left, way⟩ := way_of_goFollowing ends
  exact congrArg Spot.tree? (Except.ok.inj (ends.symm.trans way.goFollowing))

/-- Above a place in which names are looked up there is another one. -/
theorem Opened.above (opened : root.Opened here) : root.Opened here.dropLast := by
  -- Above something that stands there is a directory.
  rcases List.eq_nil_or_concat here with rfl | ⟨above, name, rfl⟩
  · exact .inl rfl
  · rw [List.concat_eq_append] at opened ⊢
    rw [List.dropLast_concat]
    have directory := opened.resolve_left (by simp)
    have something : root.standing (above ++ name :: []) ≠ .nothing := by simp [directory]
    exact .inr (standing_above something)

/-- A way behind a link starts at a place in which names are looked up. -/
theorem Opened.startOf (opened : root.Opened here) (target : String) :
    root.Opened (FileTree.startOf target here) := by
  -- A link's target starts at the root or in the folder of the link.
  rw [FileTree.startOf]
  split
  · exact .inl rfl
  · exact opened

/-- A way on which a directory is asked for ends at one, if anything is there. -/
theorem Way.opened (way : Way root followLast links true here path there left) (opened : root.Opened here)
    (something : root.standing there ≠ .nothing) : root.Opened there := by
  -- By induction on the way; every directory that is entered is one to look names up in.
  generalize asked : true = slash at way
  induction way with
  | done => exact opened
  | missing _ _ _ _ stands => exact absurd stands something
  | file => cases asked
  | link => cases asked
  | dot way ih => exact ih opened something asked
  | up way ih => exact ih opened.above something asked
  | enter _ _ stands way ih => exact ih (.inr stands) something asked
  | follow _ _ _ _ way ih =>
    subst asked
    exact ih (opened.startOf _) something rfl

/-- Behind a directory that was come to, it goes on from there. -/
theorem Way.goFollowing_append {folder more : List String} {follows : Bool} {middle : Nat} (slash : Bool)
    (way : Way root follows links true here path folder middle) (opened : root.Opened folder)
    (some : more ≠ []) :
    FileTree.goFollowing root followLast links slash here (path ++ more) =
      FileTree.goFollowing root followLast middle slash folder more := by
  have last (rest : List String) : (rest ++ more).isEmpty = false := by simp [some]
  generalize asked : true = asks at way
  -- The same steps are taken, as there is still something behind the last one of them.
  induction way with
  | done => rfl
  | missing _ _ _ _ stands =>
    -- Nothing opens at a place where nothing stands, so there is no way on.
    have directory := opened.resolve_left (by simp)
    rw [stands] at directory
    cases directory
  | file => cases asked
  | link => cases asked
  | dot way ih =>
    rw [← ih opened asked, List.cons_append, goFollowing_eq, goFollowing_eq, goAlong]
    simp
  | up way ih =>
    rw [← ih opened asked, List.cons_append, goFollowing_eq, goFollowing_eq, goAlong]
    simp
  | enter isName short stands way ih =>
    obtain ⟨es, stands⟩ := standing_eq_directory.mp stands
    rw [← ih opened asked, List.cons_append, goFollowing_eq, goFollowing_eq, goAlong]
    simp [isName.noDots, short.fits, stands]
  | follow isName short stands follows way ih =>
    rw [standing_eq_link] at stands
    subst asked
    rw [← ih opened rfl, List.cons_append, goFollowing_eq, goAlong]
    simp [isName.noDots, short.fits, stands, behindLink, last]

/-- A way comes to a directory before its last segments. -/
theorem Way.split {before more : List String}
    (way : Way root followLast links slash here (before ++ more) there left) (opened : root.Opened here)
    (some : more ≠ []) : ∃ folder middle, Way root true links true here before folder middle ∧
      root.Opened folder ∧ Way root followLast middle slash folder more there left := by
  generalize whole : before ++ more = segments at way
  -- The last step of a way has nothing behind it, so it is no step in front.
  have alone {first : String} {rest : List String} {segment : String}
      (single : first :: rest ++ more = [segment]) : False := by
    rw [List.cons_append] at single
    simp [some] at single
  -- The induction takes the way; in front of the last segments each step is the same without them.
  induction way generalizing before with
  | done links slash here =>
    simp [some] at whole
  | missing links slash isName short stands =>
    -- A way that ends here begins with what is behind, or there would be nothing behind.
    cases before with
    | nil =>
      obtain rfl := whole
      exact ⟨_, links, .done .., opened, .missing links slash isName short stands⟩
    | cons => exact (alone whole).elim
  | file links isName short stands =>
    cases before with
    | nil =>
      obtain rfl := whole
      exact ⟨_, links, .done .., opened, .file links isName short stands⟩
    | cons => exact (alone whole).elim
  | link links isName short stands stays =>
    cases before with
    | nil =>
      obtain rfl := whole
      exact ⟨_, links, .done .., opened, .link links isName short stands stays⟩
    | cons => exact (alone whole).elim
  | @dot links left slash here rest there way ih =>
    cases before with
    | nil =>
      obtain rfl := whole
      exact ⟨_, links, .done .., opened, .dot way⟩
    | cons first before =>
      rw [List.cons_append] at whole
      obtain ⟨rfl, rfl⟩ := List.cons.inj whole
      obtain ⟨folder, middle, early, inside, late⟩ := ih opened rfl
      exact ⟨folder, middle, .dot early, inside, late⟩
  | @up links left slash here rest there way ih =>
    cases before with
    | nil =>
      obtain rfl := whole
      exact ⟨_, links, .done .., opened, .up way⟩
    | cons first before =>
      rw [List.cons_append] at whole
      obtain ⟨rfl, rfl⟩ := List.cons.inj whole
      -- The place above a directory is a directory.
      obtain ⟨folder, middle, early, inside, late⟩ := ih opened.above rfl
      exact ⟨folder, middle, .up early, inside, late⟩
  | @enter links left slash here rest there segment isName short stands way ih =>
    cases before with
    | nil =>
      obtain rfl := whole
      exact ⟨_, links, .done .., opened, .enter isName short stands way⟩
    | cons first before =>
      rw [List.cons_append] at whole
      obtain ⟨rfl, rfl⟩ := List.cons.inj whole
      obtain ⟨folder, middle, early, inside, late⟩ := ih (.inr stands) rfl
      exact ⟨folder, middle, .enter isName short stands early, inside, late⟩
  | @follow links left slash here rest there segment target isName short stands follows way ih =>
    cases before with
    | nil =>
      obtain rfl := whole
      exact ⟨_, links + 1, .done .., opened, .follow isName short stands follows way⟩
    | cons first before =>
      rw [List.cons_append] at whole
      obtain ⟨rfl, rfl⟩ := List.cons.inj whole
      obtain ⟨folder, middle, early, inside, late⟩ := ih (opened.startOf _) (List.append_assoc ..)
      -- What is behind the link's own segments is the rest, so that the slash is not asked for by
      -- them.
      have further : (slash || ((before ++ more).isEmpty && endsInSlash target)) = slash := by simp [some]
      rw [further] at late
      exact ⟨folder, middle, .follow isName short stands (.inr (.inl rfl)) early, inside, late⟩

/-- A way that does not end at a link is the same whether or not links are followed at its end. -/
theorem Way.following (way : Way root followLast links slash here path there left)
    (noLink : ∀ target, root.standing there ≠ .link target) :
    Way root true links slash here path there left := by
  -- Only a link at the very end depends on whether links are followed.
  induction way with
  | done => exact .done ..
  | missing links slash isName short stands => exact .missing links slash isName short stands
  | file links isName short stands => exact .file links isName short stands
  | link _ _ _ stands => exact absurd stands (noLink _)
  | dot _ ih => exact .dot (ih noLink)
  | up _ ih => exact .up (ih noLink)
  | enter isName short stands _ ih => exact .enter isName short stands (ih noLink)
  | follow isName short stands _ _ ih => exact .follow isName short stands (.inr (.inr rfl)) (ih noLink)

/-- A way to a directory is the same whether or not a directory is asked for. -/
theorem Way.asking (way : Way root true links slash here path there left) (opened : root.Opened there)
    (asks : Bool) : Way root true links asks here path there left := by
  -- By induction on the way, of which only the end can tell whether a directory is asked for.
  induction way generalizing asks with
  | done => exact .done ..
  | missing links _ isName short stands => exact .missing links asks isName short stands
  | file _ _ _ stands =>
    have directory := opened.resolve_left (by simp)
    rw [stands] at directory
    cases directory
  | link _ _ _ _ stays => cases stays
  | dot _ ih => exact .dot (ih opened asks)
  | up _ ih => exact .up (ih opened asks)
  | enter isName short stands _ ih => exact .enter isName short stands (ih opened asks)
  | follow isName short stands _ _ ih => exact .follow isName short stands (.inr (.inr rfl)) (ih opened _)

/-- A way that does not climb stays below a place that it has come through, if no links are there. -/
theorem Way.stays_below {place : List String} (way : Way root followLast links slash here path there left)
    (noClimb : ".." ∉ path) (noLinks : ∀ below target, root.standing (place ++ below) ≠ .link target)
    (inside : place <+: here) : place <+: there := by
  -- By induction on the way: names lead further down, and a link could only stand below the place.
  induction way with
  | done => exact inside
  | missing => exact inside.trans (List.prefix_append ..)
  | file => exact inside.trans (List.prefix_append ..)
  | link => exact inside.trans (List.prefix_append ..)
  | dot _ ih => exact ih (fun climbs => noClimb (List.mem_cons_of_mem _ climbs)) inside
  | up => exact absurd List.mem_cons_self noClimb
  | enter _ _ _ _ ih =>
    exact ih (fun climbs => noClimb (List.mem_cons_of_mem _ climbs)) (inside.trans (List.prefix_append ..))
  | follow _ _ stands =>
    obtain ⟨more, rfl⟩ := inside
    rw [List.append_assoc] at stands
    exact absurd stands (noLinks _ _)

end Way

/-- One tree has the directories and the links of another one. -/
structure Framed (root changed : FileTree) : Prop where
  directory {place : List String} (stands : root.standing place = .directory) :
    changed.standing place = .directory
  link {folder : List String} {name target : String}
    (stands : root.standing (folder ++ [name]) = .link target) :
    changed.standing (folder ++ [name]) = .link target

theorem Framed.refl (root : FileTree) : Framed root root := ⟨id, id⟩

theorem Framed.trans {root between changed : FileTree} (first : Framed root between)
    (second : Framed between changed) : Framed root changed :=
  ⟨fun stands => second.directory (first.directory stands), fun stands => second.link (first.link stands)⟩

/-- A directory or a link, through which a way may go. -/
def Standing.IsFrame : Standing → Prop
  | .directory | .link _ => True
  | .file _ | .nothing => False

theorem Standing.not_isFrame {stands : Standing} (noDirectory : stands ≠ .directory)
    (noLink : ∀ target, stands ≠ .link target) : ¬ stands.IsFrame := by
  -- Directories and links are all the frames there are.
  cases stands with
  | directory => exact absurd rfl noDirectory
  | link target => exact absurd rfl (noLink target)
  | _ => exact id

/-- A tree has the directories and the links of another one if none of them has changed. -/
theorem Framed.of_kept {root changed : FileTree}
    (rooted : root.kind = .directory → changed.kind = .directory)
    (kept : ∀ place, place ≠ [] → (root.standing place).IsFrame →
      changed.standing place = root.standing place) : Framed root changed where
  -- Both fields are about frames, which are kept; the root is spoken of on its own.
  directory {place} directory := by
    by_cases below : place = []
    · subst below
      exact rooted directory
    · rw [kept place below (by rw [directory]; trivial), directory]
  link isLink := by rw [kept _ (by simp) (by rw [isLink]; trivial), isLink]

/-- What stands at a place, whatever the bytes of a file. -/
def Standing.shape : Standing → Standing
  | .file _ => .file []
  | stands => stands

section Transfer

variable {root changed : FileTree} {followLast slash : Bool} {links left : Nat}
  {here path there : List String}

/-- A way is the same in every tree with the directories and the links of the first one, if the same
stands at its end. -/
theorem Way.transfer (way : Way root followLast links slash here path there left)
    (framed : Framed root changed)
    (stands : there ≠ [] → (changed.standing there).shape = (root.standing there).shape) :
    Way changed followLast links slash here path there left := by
  -- By induction on the way: all but its end are directories and links, which stay.
  induction way with
  | done => exact .done ..
  | missing links slash isName short free =>
    -- At the end something of the same shape stands, which here is nothing.
    refine .missing links slash isName short ?_
    have same := stands (by simp)
    rw [free] at same
    cases now : changed.standing _ <;> rw [now] at same <;> first | rfl | cases same
  | @file here segment bytes links isName short isFile =>
    have same := stands (by simp)
    rw [isFile] at same
    cases now : changed.standing (here ++ [segment]) with
    | file bytes => exact .file links isName short now
    | nothing => simp [now, Standing.shape] at same
    | link => simp [now, Standing.shape] at same
    | directory => simp [now, Standing.shape] at same
  | link links isName short isLink stays => exact .link links isName short (framed.link isLink) stays
  | dot _ ih => exact .dot (ih stands)
  | up _ ih => exact .up (ih stands)
  | enter isName short directory _ ih => exact .enter isName short (framed.directory directory) (ih stands)
  | follow isName short isLink follows _ ih =>
    exact .follow isName short (framed.link isLink) follows (ih stands)

/-- A place in which names are looked up is one in every tree with the same directories. -/
theorem Opened.transfer (opened : root.Opened here) (framed : Framed root changed) : changed.Opened here :=
  opened.imp id framed.directory

/-- A way to a directory is the same in every tree with the directories and the links of the first one. -/
theorem Way.transfer_opened (way : Way root followLast links slash here path there left)
    (framed : Framed root changed) (opened : root.Opened there) :
    Way changed followLast links slash here path there left := by
  -- An opened place is the root or a directory, and both stay.
  refine way.transfer framed fun below => ?_
  have directory := opened.resolve_left below
  rw [directory, framed.directory directory]

end Transfer

end TemplateFacts.FileTree
