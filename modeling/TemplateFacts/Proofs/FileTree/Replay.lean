import TemplateFacts.Proofs.FileTree.Attempt

/-!
The replacement of a file, done once more in a tree that differs from what was left the first time in the
bytes of files only: it comes as far as it did before, and what it leaves differs from what was there in
the bytes of the target only, if it succeeds, and not at all otherwise.
-/

namespace TemplateFacts.FileTree

/-- Nothing stands at any place of a name. -/
def Free (name : String) (tree : FileTree) : Prop := ∀ folder, tree.standing (folder ++ [name]) = .nothing

/-- Where nothing has a name, no link has it. -/
theorem Free.unlinked {name : String} {tree : FileTree} (free : tree.Free name) : tree.Unlinked name :=
  fun folder target link => by
    rw [free folder] at link
    cases link

/-- All that is needed to write bytes to a target is there. -/
structure Writable (disk : Disk) (target : Path) (bytes : List UInt8) (facts : String) (tree : FileTree)
    (folder spare : List String) : Prop where
  settled : Settled disk.setting.cwd target tree
  creates : disk.refuses (.create (temporaryPath disk.processId target)) = none
  fills : disk.refuses (.fill (temporaryPath disk.processId target) bytes) = none
  moves : disk.refuses (.rename (temporaryPath disk.processId target) target) = none
  spare : tree.resolveParent disk.setting.cwd (temporaryPath disk.processId target) =
    .ok (spare, .name (spareOf disk.processId target))
  spareShort : IsShort (spareOf disk.processId target)
  leads : tree.resolveParent disk.setting.cwd target = .ok (folder, .name facts)
  short : IsShort facts

section Writable

variable {disk again : Disk} {target : Path} {content : String} {bytes : List UInt8} {facts : String}
  {tree left : FileTree} {folder spare : List String}

/-- It is still there in a tree with the same directories and links. -/
theorem Writable.framed (writable : Writable disk target bytes facts tree folder spare)
    (framed : Framed tree left) : Writable disk target bytes facts left folder spare where
  settled folder parent named := framed.isDirectoryAt (writable.settled folder parent named)
  creates := writable.creates
  fills := writable.fills
  moves := writable.moves
  spare := framed.resolveParent writable.spare
  spareShort := writable.spareShort
  leads := framed.resolveParent writable.leads
  short := writable.short

/-- It is there for every disk that goes on in the same way. -/
theorem Writable.repeated (writable : Writable disk target bytes facts tree folder spare)
    (repeats : again.Repeats disk) : Writable again target bytes facts tree folder spare where
  settled := repeats.cwd ▸ writable.settled
  creates := (repeats.creates target).trans writable.creates
  fills := (repeats.fills target bytes).trans writable.fills
  moves := (repeats.moves target).trans writable.moves
  spare := repeats.cwd ▸ resolveParent_temporaryPath repeats.digits writable.spare
  spareShort := writable.spareShort.digits repeats.digits
  leads := repeats.cwd ▸ writable.leads
  short := writable.short

variable (ends : target.EndsIn facts) (plain : (Component.name facts).IsPlain)

include ends plain

/-- What has been written can be written again, and only the target has changed, directories apart. -/
theorem writable_of_attempt {opening passage : Passage Unit}
    (attempt : Attempt disk target bytes opening passage)
    (settled : opening.result = .ok () → Settled disk.setting.cwd target opening.tree)
    (rooted : opening.tree.kind = .directory)
    (unlinked : opening.tree.Unlinked (spareOf disk.processId target))
    (factsUnlinked : opening.tree.Unlinked facts) (succeeds : passage.result = .ok ()) :
    ∃ folder spare, Writable disk target bytes facts passage.tree folder spare ∧
      ∀ place, place ≠ [] → passage.tree.standing place =
        if place = folder ++ [facts] then .file bytes
        else if place = spare ++ [spareOf disk.processId target] then .nothing
        else opening.tree.standing place := by
  -- Each step has been done, and none moved a directory or a link, so that all can be done again.
  obtain ⟨opens, created, filled, creates, fills, moves⟩ := attempt.moved_of_ok succeeds
  obtain ⟨spare, done⟩ := filled_of_creates unlinked.spare rooted creates
  have done := done.fills fills.performed
  have framed := done.framed_moved moves ends plain factsUnlinked
  obtain ⟨folder, name, leads, after⟩ := done.moved moves
  obtain rfl := ends.name plain leads
  obtain ⟨willing, -, -, short, -⟩ := (done.moves_iff ends plain).mp ⟨_, moves⟩
  have writable : Writable disk target bytes facts opening.tree folder spare :=
    ⟨settled opens, creates.willing, fills.willing, willing, done.leads, done.short, leads, short⟩
  exact ⟨folder, spare, writable.framed framed, after⟩

/-- What can be written is written, and changes nothing but the target. -/
theorem Writable.attempt {opening passage : Passage Unit}
    (writable : Writable disk target bytes facts opening.tree folder spare)
    (attempt : Attempt disk target bytes opening passage) (opens : opening.result = .ok ())
    (rooted : opening.tree.kind = .directory) (free : opening.tree.Free (spareOf disk.processId target))
    (noDirectory : opening.tree.standing (folder ++ [facts]) ≠ .directory) :
    passage.result = .ok () ∧ ∀ place, place ≠ [] → passage.tree.standing place =
      if place = folder ++ [facts] then .file bytes else opening.tree.standing place := by
  have creatable := (creates_iff free.unlinked.spare).mpr
    ⟨writable.creates, spare, writable.spare, writable.spareShort, by simp [free spare]⟩
  -- No step fails, as each of them is known to succeed.
  cases attempt with
  | unopened shut => rw [opens] at shut; cases shut
  | uncreated _ uncreated =>
    obtain ⟨created, creates⟩ := creatable
    exact absurd creates (uncreated created)
  | unfilled _ creates unfilled =>
    obtain ⟨spare', done⟩ := filled_of_creates free.unlinked.spare rooted creates
    obtain ⟨filled, fills⟩ := done.exists_fills writable.fills
    exact absurd fills (unfilled filled)
  | moved _ creates fills moves succeeds =>
    -- The only way left: the file is moved to the target.
    obtain ⟨spare', done⟩ := filled_of_creates free.unlinked.spare rooted creates
    obtain ⟨folder', name, leads, after⟩ := (done.fills fills.performed).moved moves
    obtain ⟨rfl, rfl⟩ : folder = folder' ∧ facts = name := by simpa using writable.leads.symm.trans leads
    refine ⟨succeeds, fun place below => ?_⟩
    rw [after place below]
    split
    · -- At the target its bytes stand, at the temporary place nothing, and elsewhere what stood.
      rfl
    · split
      · rename_i here
        rw [here, free spare']
      · rfl
  | withdrawn _ creates fills unmoved =>
    obtain ⟨spare', done⟩ := filled_of_creates free.unlinked.spare rooted creates
    obtain ⟨moved, moves⟩ := ((done.fills fills.performed).moves_iff ends plain).mpr
      ⟨writable.moves, folder, writable.leads, writable.short, noDirectory⟩
    exact absurd moves (unmoved moved)
  | stranded _ creates fills unmoved =>
    obtain ⟨spare', done⟩ := filled_of_creates free.unlinked.spare rooted creates
    obtain ⟨moved, moves⟩ := ((done.fills fills.performed).moves_iff ends plain).mpr
      ⟨writable.moves, folder, writable.leads, writable.short, noDirectory⟩
    exact absurd moves (unmoved moved)

section Again

variable {opening passage : Passage Unit} (attempt : Attempt again target bytes opening passage)
  (opens : opening.result = .ok ()) (repeats : again.Repeats disk)
  (free : opening.tree.Free (spareOf again.processId target))

include attempt opens repeats free

omit ends plain in
/-- Where the temporary file could not be made, it cannot be made once more. -/
theorem uncreated_again
    (uncreated : ∀ created, ¬ disk.Does (.create (temporaryPath disk.processId target)) tree created)
    (freeFirst : tree.Free (spareOf disk.processId target)) (back : Framed opening.tree tree) :
    (∃ e, passage.result = .error e) ∧ passage.tree = opening.tree := by
  have uncreatedToo (created : FileTree) :
      ¬ again.Does (.create (temporaryPath again.processId target)) opening.tree created := by
    -- What the second run would make, the first one could have made under its own number.
    intro creates
    obtain ⟨willing, spare, leads, short, -⟩ := (creates_iff free.unlinked.spare).mp ⟨created, creates⟩
    rw [repeats.cwd] at leads
    have leads := resolveParent_temporaryPath repeats.digits.symm (back.resolveParent leads)
    obtain ⟨created, creates⟩ := (creates_iff freeFirst.unlinked.spare).mpr
      ⟨(repeats.creates target).symm.trans willing, spare, leads, short.digits repeats.digits.symm,
        by simp [freeFirst spare]⟩
    exact uncreated created creates
  cases attempt with
  | unopened shut => rw [opens] at shut; cases shut
  | uncreated _ _ fails leaves => exact ⟨⟨_, fails⟩, leaves⟩
  | unfilled _ creates => exact absurd creates (uncreatedToo _)
  | moved _ creates => exact absurd creates (uncreatedToo _)
  | withdrawn _ creates => exact absurd creates (uncreatedToo _)
  | stranded _ creates => exact absurd creates (uncreatedToo _)

/-- Where the temporary file could not be moved into place and was removed, it is so once more. -/
theorem withdrawn_again {filled : FileTree} (rooted : opening.tree.kind = .directory)
    (done : Filled disk target bytes tree filled spare)
    (creates : disk.refuses (.create (temporaryPath disk.processId target)) = none)
    (fills : disk.refuses (.fill (temporaryPath disk.processId target) bytes) = none)
    (unmoved : ∀ moved, ¬ disk.Does (.rename (temporaryPath disk.processId target) target) filled moved)
    (removes : disk.refuses (.remove (temporaryPath disk.processId target)) = none)
    (framed : Framed tree opening.tree) (back : Framed opening.tree tree) :
    (∃ e, passage.result = .error e) ∧ ∀ place, place ≠ [] →
      passage.tree.standing place = opening.tree.standing place := by
  have leads : opening.tree.resolveParent again.setting.cwd (temporaryPath again.processId target) =
      .ok (spare, .name (spareOf again.processId target)) := by
    rw [repeats.cwd]
    exact resolveParent_temporaryPath repeats.digits (framed.resolveParent done.leads)
  have creatable := (creates_iff free.unlinked.spare).mpr ⟨(repeats.creates target).trans creates, spare, leads,
    done.short.digits repeats.digits, by simp [free spare]⟩
  -- What keeps the file from being moved is still there, as the trees differ in no directory.
  have unmovedToo {filled moved : FileTree} {spare : List String}
      (done' : Filled again target bytes opening.tree filled spare) :
      ¬ again.Does (.rename (temporaryPath again.processId target) target) filled moved := by
    intro moves
    obtain ⟨willing, folder, leads, short, free⟩ := (done'.moves_iff ends plain).mp ⟨moved, moves⟩
    rw [repeats.cwd] at leads
    obtain ⟨moved, moves⟩ := (done.moves_iff ends plain).mpr ⟨(repeats.moves target).symm.trans willing,
      folder, back.resolveParent leads, short, fun directory => free (framed.directory directory)⟩
    exact unmoved moved moves
  -- The same steps are taken as before, one after the other.
  cases attempt with
  | unopened shut => rw [opens] at shut; cases shut
  | uncreated _ uncreated =>
    obtain ⟨created, creates⟩ := creatable
    exact absurd creates (uncreated created)
  | unfilled _ creates unfilled =>
    obtain ⟨spare', done'⟩ := filled_of_creates free.unlinked.spare rooted creates
    obtain ⟨filled, fills⟩ := done'.exists_fills ((repeats.fills target _).trans fills)
    exact absurd fills (unfilled filled)
  | moved _ creates fills moves =>
    obtain ⟨spare', done'⟩ := filled_of_creates free.unlinked.spare rooted creates
    exact absurd moves (unmovedToo (done'.fills fills.performed))
  | withdrawn _ creates fills _ removes fails =>
    -- The temporary file is removed once more, so every place is as it was.
    obtain ⟨spare', done'⟩ := filled_of_creates free.unlinked.spare rooted creates
    refine ⟨⟨_, fails⟩, fun place below => ?_⟩
    rw [(done'.fills fills.performed).removed removes place below]
    split
    · rename_i here
      rw [here, free spare']
    · rfl
  | stranded _ creates fills _ unremoved =>
    obtain ⟨spare', done'⟩ := filled_of_creates free.unlinked.spare rooted creates
    obtain ⟨removed, does⟩ :=
      (done'.fills fills.performed).exists_removes ((repeats.removes target).trans removes)
    exact absurd does (unremoved removed)

end Again

/-- What has been written can be written again: all that is needed for it is left. -/
theorem writable_of_replaceFile (rooted : tree.kind = .directory)
    (unlinked : tree.Unlinked (spareOf disk.processId target)) (factsUnlinked : tree.Unlinked facts)
    (succeeds : (replaceFile disk target content tree).result = .ok ()) :
    ∃ folder spare, Writable disk target (Utf8.encode content) facts
        (replaceFile disk target content tree).tree folder spare ∧
      ∀ place, place ≠ [] → (replaceFile disk target content tree).tree.standing place =
        if place = folder ++ [facts] then .file (Utf8.encode content)
        else if place = spare ++ [spareOf disk.processId target] then .nothing
        else (openFolder disk target tree).tree.standing place :=
  have opened := passes_openFolder disk target tree
  writable_of_attempt ends plain (attempt_replaceFile disk target content tree) settled_of_openFolder
    (opened.rooted rooted) (opened.unlinked unlinked) (opened.unlinked factsUnlinked) succeeds

/-- What can be written is written, and changes nothing but the target. -/
theorem Writable.replaceFile (writable : Writable disk target (Utf8.encode content) facts tree folder spare)
    (rooted : tree.kind = .directory) (free : tree.Free (spareOf disk.processId target))
    (noDirectory : tree.standing (folder ++ [facts]) ≠ .directory) :
    (FileTree.replaceFile disk target content tree).result = .ok () ∧ ∀ place, place ≠ [] →
      (FileTree.replaceFile disk target content tree).tree.standing place =
        if place = folder ++ [facts] then .file (Utf8.encode content) else tree.standing place := by
  -- The folders are there already, so the opening leaves the tree as it is.
  obtain ⟨opens, same⟩ := openFolder_of_settled rooted writable.settled
  have attempt := attempt_replaceFile disk target content tree
  generalize openFolder disk target tree = opening at opens same attempt
  subst same
  exact writable.attempt ends plain attempt opens rooted free noDirectory

/-- What could not be written cannot be written once more, and nothing changes, if the first attempt has left
no temporary file. -/
theorem Disk.Repeats.replaceFile {e : Errno} (repeats : again.Repeats disk) (rooted : tree.kind = .directory)
    (unlinked : tree.Unlinked (spareOf disk.processId target))
    (fails : (FileTree.replaceFile disk target content tree).result = .error e)
    (alike : Alike (FileTree.replaceFile disk target content tree).tree left)
    (free : (FileTree.replaceFile disk target content tree).tree.Free (spareOf disk.processId target))
    (freeToo : left.Free (spareOf again.processId target)) :
    (∃ e', (FileTree.replaceFile again target content left).result = .error e') ∧ ∀ place, place ≠ [] →
      (FileTree.replaceFile again target content left).tree.standing place = left.standing place := by
  have rootedLeft := alike.rooted ((passes_replaceFile content unlinked).rooted rooted)
  have opened := passes_openFolder disk target tree
  have rooted := opened.rooted rooted
  have unlinked := opened.unlinked unlinked
  have settled : (FileTree.openFolder disk target tree).result = .ok () →
      Settled disk.setting.cwd target (FileTree.openFolder disk target tree).tree := settled_of_openFolder
  have shutToo {e : Errno} (shut : (FileTree.openFolder disk target tree).result = .error e)
      (alike : Alike (FileTree.openFolder disk target tree).tree left) :=
    repeats.openFolder shut alike rootedLeft
  have attempt := attempt_replaceFile disk target content tree
  generalize FileTree.replaceFile disk target content tree = passage at fails alike free attempt
  generalize FileTree.openFolder disk target tree = opening at rooted unlinked settled shutToo attempt
  have attemptToo := attempt_replaceFile again target content left
  generalize FileTree.replaceFile again target content left = passageToo at attemptToo
  -- The directory of the target is there, unless it could not be made.
  have opensToo (opens : opening.result = .ok ()) (framed : Framed opening.tree left) :
      (FileTree.openFolder again target left).result = .ok () ∧
        (FileTree.openFolder again target left).tree = left :=
    openFolder_of_settled rootedLeft fun folder parent named =>
      repeats.cwd ▸ framed.isDirectoryAt (settled opens folder parent named)
  generalize FileTree.openFolder again target left = openingToo at shutToo attemptToo opensToo
  cases attempt with
  | unopened shut _ leaves =>
    -- The directory could not be made, and nothing has changed.
    rw [leaves] at alike
    obtain ⟨⟨e', shut⟩, same⟩ := shutToo shut alike
    obtain ⟨failsToo, stays⟩ := attemptToo.shut shut
    exact ⟨failsToo, fun place _ => by rw [stays, same]⟩
  | uncreated opens uncreated _ leaves =>
    -- The temporary file could not be made, and nothing has changed since.
    rw [leaves] at alike free
    obtain ⟨stillOpens, rfl⟩ := opensToo opens alike.framed
    obtain ⟨failsToo, same⟩ :=
      uncreated_again attemptToo stillOpens repeats freeToo uncreated free alike.symm.framed
    exact ⟨failsToo, fun place _ => by rw [same]⟩
  | unfilled _ creates _ leaves =>
    -- The temporary file would be there, with some of the bytes.
    obtain ⟨spare, done⟩ := filled_of_creates unlinked.spare rooted creates
    obtain ⟨part, done⟩ : ∃ part, Filled disk target part opening.tree passage.tree spare := by
      rcases leaves with same | ⟨part, -, fills⟩
      · exact ⟨[], same ▸ done⟩
      · exact ⟨part, done.fills fills⟩
    have there := done.there
    rw [free spare] at there
    cases there
  | moved _ _ _ _ succeeds => rw [fails] at succeeds; cases succeeds
  | withdrawn opens creates fills unmoved removes =>
    -- The move failed, and fails again for the same reason.
    obtain ⟨spare, done⟩ := filled_of_creates unlinked.spare rooted creates
    have done := done.fills fills.performed
    obtain ⟨framed, back⟩ := done.framed_removed removes
    have framed := framed.trans alike.framed
    obtain ⟨stillOpens, rfl⟩ := opensToo opens framed
    exact withdrawn_again ends plain attemptToo stillOpens repeats freeToo rootedLeft done creates.willing
      fills.willing unmoved removes.willing framed (alike.symm.framed.trans back)
  | stranded _ creates fills =>
    -- A temporary file that could not be removed would be there.
    obtain ⟨spare, done⟩ := filled_of_creates unlinked.spare rooted creates
    have there := (done.fills fills.performed).there
    rw [free spare] at there
    cases there

end Writable

/-- A tree that is come to once more lies between the one that was left at last, and the one that was come to
the first time: it differs from the last one in the bytes of files only, and has those of either. -/
structure Midway (reached after left : FileTree) : Prop where
  alike : Alike after left
  either {place : List String} (below : place ≠ []) :
    left.standing place = after.standing place ∨ left.standing place = reached.standing place

section Midway

variable {disk again : Disk} {target : Path} {content facts : String} {tree after left : FileTree}

/-- Where nothing stands in one of two trees that are alike, nothing stands in the other. -/
theorem Free.alike {name : String} (free : after.Free name) (alike : Alike after left) : left.Free name :=
  fun folder => alike.nothing_iff.mpr (free folder)

/-- Where no file stands, trees that are alike have the same. -/
theorem Alike.standing_eq {place : List String} (alike : Alike after left)
    (noFile : ∀ bytes, after.standing place ≠ .file bytes) : left.standing place = after.standing place := by
  -- Two trees that are alike can differ only in what their files hold.
  have both := alike.both place
  generalize after.standing place = old, left.standing place = new at both noFile
  cases both with
  | nothing => rfl
  | directory => rfl
  | link => rfl
  | file bytes => exact absurd rfl (noFile bytes)

variable (ends : target.EndsIn facts) (plain : (Component.name facts).IsPlain) (repeats : again.Repeats disk)
  (rooted : tree.kind = .directory) (unlinked : tree.Unlinked (spareOf disk.processId target))

include ends plain repeats rooted unlinked

/-- A file that was replaced is replaced once more, with the same bytes. -/
theorem Midway.replaceFile_ok (factsUnlinked : tree.Unlinked facts)
    (succeeds : (replaceFile disk target content tree).result = .ok ()) (midway : Midway tree after left)
    (framed : Framed (replaceFile disk target content tree).tree after)
    (stays : ∀ {folder : List String} {bytes : List UInt8},
      (replaceFile disk target content tree).tree.standing (folder ++ [facts]) = .file bytes →
        ∃ now, after.standing (folder ++ [facts]) = .file now)
    (free : after.Free (spareOf disk.processId target))
    (freeToo : after.Free (spareOf again.processId target)) :
    (replaceFile again target content left).result = .ok () ∧ Midway
      (replaceFile disk target content tree).tree after (replaceFile again target content left).tree := by
  have rootedThen := (passes_replaceFile content unlinked).rooted rooted
  obtain ⟨folder, spare, writable, wrote⟩ :=
    writable_of_replaceFile ends plain rooted unlinked factsUnlinked succeeds
  have opened := fun {place : List String} (below : place ≠ []) => standing_openFolder disk target tree below
  generalize openFolder disk target tree = opening at wrote opened
  generalize replaceFile disk target content tree = passage at framed stays rootedThen writable wrote ⊢
  have alike := midway.alike
  have rootedLeft : left.kind = .directory := by
    rw [← standing_nil] at rootedThen
    exact alike.rooted (framed.directory rootedThen)
  obtain ⟨now, isFile⟩ := stays (wrote (folder ++ [facts]) (by simp) ▸ if_pos rfl)
  -- The target can be moved over, as it is a file by now.
  have noDirectory : left.standing (folder ++ [facts]) ≠ .directory := by
    rw [ne_eq, alike.directory_iff, isFile]
    simp
  have writable := (writable.framed (framed.trans alike.framed)).repeated repeats
  obtain ⟨succeedsToo, wroteToo⟩ :=
    writable.replaceFile ends plain rootedLeft (freeToo.alike alike) noDirectory
  have rootedToo := (passes_replaceFile content (freeToo.alike alike).unlinked).rooted rootedLeft
  refine ⟨succeedsToo, ?_⟩
  generalize replaceFile again target content left = passageToo at wroteToo rootedToo
  constructor
  · -- What is written is a file, where a file stands in the end.
    intro place
    by_cases below : place = []
    · have rootedAfter : after.standing [] = .directory := alike.directory_iff.mp rootedLeft
      rw [below, rootedAfter, standing_nil, rootedToo]
    · rw [wroteToo place below]
      split
      · rename_i here
        rw [here, isFile]
        rfl
      · exact alike place
  · -- At the target the bytes of the first time are written once more.
    intro place below
    rw [wroteToo place below, wrote place below]
    split
    · exact .inr rfl
    rename_i elsewhere
    rcases midway.either below with last | reached
    · exact .inl last
    split
    · -- No temporary file is left.
      rename_i here
      exact .inl (alike.standing_eq (by simp [here, free spare]))
    · rename_i other
      rcases opened below with kept | ⟨-, made⟩
      · exact .inr (reached.trans kept.symm)
      · -- The directory is there at last.
        have directory := wrote place below
        rw [if_neg elsewhere, if_neg other, made] at directory
        exact .inl (alike.standing_eq (by simp [framed.directory directory]))

/-- A file that could not be replaced cannot be replaced once more, and nothing changes then. -/
theorem Midway.replaceFile_error {e : Errno}
    (fails : (replaceFile disk target content tree).result = .error e)
    (midway : Midway tree (replaceFile disk target content tree).tree left)
    (free : (replaceFile disk target content tree).tree.Free (spareOf disk.processId target))
    (freeToo : (replaceFile disk target content tree).tree.Free (spareOf again.processId target)) :
    (∃ e', (replaceFile again target content left).result = .error e') ∧
      Midway (replaceFile disk target content tree).tree (replaceFile disk target content tree).tree
        (replaceFile again target content left).tree := by
  have alike := midway.alike
  have freeLeft := freeToo.alike alike
  obtain ⟨failsToo, same⟩ := repeats.replaceFile ends plain rooted unlinked fails alike free freeLeft
  have rootedThen := (passes_replaceFile content unlinked).rooted rooted
  have rootedLeft := alike.rooted rootedThen
  have rootedToo := (passes_replaceFile content freeLeft.unlinked).rooted rootedLeft
  -- A failure leaves directories made, and no other trace but the temporary file.
  have tame : Tame (spareOf disk.processId target) tree (replaceFile disk target content tree).tree := by
    have replaced : Replacement disk target (Utf8.encode content) _ tree _ :=
      replacement_replaceFile content unlinked
    cases replaced with
    | failed _ tame => exact tame
    | done succeeds =>
      rw [fails] at succeeds
      cases succeeds
  refine ⟨failsToo, ?_⟩
  generalize replaceFile disk target content tree = passage at midway free alike rootedThen tame ⊢
  generalize replaceFile again target content left = passageToo at same rootedToo
  constructor
  · intro place
    by_cases below : place = []
    · rw [below, standing_nil, standing_nil, rootedToo, rootedThen]
    · rw [same place below]
      exact alike place
  · intro place below
    rw [same place below]
    rcases midway.either below with last | reached
    · exact .inl last
    · -- What has changed the first time is a directory, or has no file left.
      rcases tame place below with kept | ⟨-, made⟩ | ⟨named, -⟩
      · exact .inl (reached.trans kept.symm)
      · exact .inl (alike.standing_eq (by simp [made]))
      · obtain ⟨folder, rfl⟩ := List.getLast?_eq_some_iff.mp named
        exact .inl (alike.standing_eq (by simp [free folder]))

end Midway

end TemplateFacts.FileTree
