import TemplateFacts.Proofs.FileTree.Replace
import TemplateFacts.Proofs.Generation.Turns
import TemplateFacts.Proofs.Utf8

/-!
Nothing is written that the contract has not accepted. A source without an accepted text changes nothing
at all, and one that succeeds has its accepted text written. Whatever stands at a place after a run stood
there before, or is a directory that was made, or has the name of a temporary file, or is the accepted
text of a source; and older facts that are not replaced by accepted ones keep their bytes. This holds
unless a link bears a temporary name of the run, through which anything may be written over.
-/

namespace TemplateFacts.Generation

open Compiler (Client)
open FileTree (Standing)

section Turn

variable {σ : Type} (client : Client σ) (disk : FileTree.Disk) (options : Options) (contract : Schema)
  (context : FactsContext)

/-- The text that was to be written in a turn. -/
def Turn.text (turn : Turn σ) : Except Error String :=
  (textFor client disk options contract context turn.file turn.before.1 turn.before.2).1

/-- Where the facts about a source are written in a run. -/
def Options.target (file : Path) : Path := SourceFile.outputPath file options.root options.outDir

/-- The name of the temporary file for the facts about a source. -/
def spareName (file : Path) : String :=
  FileTree.temporaryName disk.processId ((options.target file).fileName?.getD "")

/-- The path of the facts led to a place in a turn, while they were written there. -/
def Turn.Reaches (turn : Turn σ) (text : String) (place : List String) : Prop :=
  ∃ between ∈ (FileTree.replaceFile disk (options.target turn.file) text turn.before.2).earlier,
    ∃ folder name, between.resolveParent disk.setting.cwd (options.target turn.file) =
      .ok (folder, .name name) ∧ place = folder ++ [name]

/-- How a turn goes: without a text it fails for the same reason and changes nothing, and with one it
replaces the facts by the text, and ends as the replacement does. -/
inductive Turn.Course (turn : Turn σ) : Prop
  | textless (e : Error) (fails : turn.text client disk options contract context = .error e)
    (outcome : turn.outcome = .error e) (same : turn.after.2 = turn.before.2)
  | replaced (text : String) (writes : turn.text client disk options contract context = .ok text)
    (tree : turn.after.2 =
      (FileTree.replaceFile disk (options.target turn.file) text turn.before.2).tree)
    (ends : (turn.outcome = .ok (options.target turn.file) ∧
        (FileTree.replaceFile disk (options.target turn.file) text turn.before.2).result = .ok ()) ∨
      ∃ e, turn.outcome = .error (.io (.refused e)) ∧
        (FileTree.replaceFile disk (options.target turn.file) text turn.before.2).result = .error e)

/-- What may become in some turns of what stands at a place. -/
inductive Becomes (turns : List (Turn σ)) (place : List String) : Standing → Standing → Prop
  | kept (stands : Standing) : Becomes turns place stands stands
  /-- A directory is made where nothing was, for facts that were accepted. -/
  | made {turn : Turn σ} {text : String} (member : turn ∈ turns)
    (writes : turn.text client disk options contract context = .ok text) :
    Becomes turns place .nothing .directory
  /-- The place has the name of the temporary file for facts that were accepted. -/
  | spare {before after : Standing} {turn : Turn σ} {text : String} (member : turn ∈ turns)
    (writes : turn.text client disk options contract context = .ok text)
    (named : place.getLast? = some (spareName disk options turn.file))
    (noLink : ∀ target, after ≠ .link target) : Becomes turns place before after
  /-- The facts about a source have been accepted, and written there. -/
  | facts {before : Standing} {turn : Turn σ} {document : Json} (member : turn ∈ turns)
    (accepted : contract.violations document = [])
    (text : turn.text client disk options contract context = .ok (Json.canonicalText document))
    (reaches : turn.Reaches disk options (Json.canonicalText document) place) :
    Becomes turns place before (.file (Utf8.encode (Json.canonicalText document)))

end Turn

variable {σ : Type} {client : Client σ} {disk : FileTree.Disk} {options : Options} {contract : Schema}
  {context : FactsContext} {turns : List (Turn σ)} {place : List String} {s t u : Standing}

/-- An accepted text is the canonical text of a document that does not violate the contract. -/
theorem exists_document {facts : Facts} {text : String} (writes : accepted contract facts = .ok text) :
    ∃ document, contract.violations document = [] ∧ text = Json.canonicalText document := by
  -- A text is written only of a document without findings.
  rw [accepted, Schema.validate] at writes
  split at writes
  · rename_i none
    exact ⟨_, none, (Except.ok.inj writes).symm⟩
  · cases writes

/-- A text that is to be written has been accepted. -/
theorem exists_document_of_text {turn : Turn σ} {text : String}
    (writes : turn.text client disk options contract context = .ok text) :
    ∃ document, contract.violations document = [] ∧ text = Json.canonicalText document := by
  -- The text of a turn comes out of `accepted`, whatever was described.
  rw [Turn.text, textFor] at writes
  split at writes
  · cases writes
  · obtain ⟨facts, -, writes⟩ := ok_of_bind writes
    exact exists_document writes

/-- No links come about. -/
theorem Becomes.link {target : String} (becomes : Becomes client disk options contract context turns place s t)
    (link : t = .link target) : s = .link target := by
  -- What a turn brings in are directories and files.
  cases becomes with
  | kept => exact link
  | made => cases link
  | spare _ _ _ noLink => exact absurd link (noLink target)
  | facts => cases link

/-- What becomes of a place in some turns and then in others becomes of it in all of them. -/
theorem Becomes.trans {turn : Turn σ}
    (first : Becomes client disk options contract context [turn] place s t)
    (second : Becomes client disk options contract context turns place t u) :
    Becomes client disk options contract context (turn :: turns) place s u := by
  have here : turn ∈ turn :: turns := List.mem_cons_self
  -- What the later turns did counts, and what the first one did if they did nothing.
  cases second with
  | spare member writes named noLink =>
    exact .spare (List.mem_cons_of_mem turn member) writes named noLink
  | facts member accepted text reaches =>
    exact .facts (List.mem_cons_of_mem turn member) accepted text reaches
  | made member writes =>
    -- Only what was nothing, or has a temporary name, is nothing then.
    cases first with
    | kept => exact .made (List.mem_cons_of_mem turn member) writes
    | spare member writes named _ =>
      obtain rfl := List.mem_singleton.mp member
      exact .spare here writes named (by simp)
  | kept =>
    cases first with
    | kept => exact .kept _
    | made member writes =>
      obtain rfl := List.mem_singleton.mp member
      exact .made here writes
    | spare member writes named noLink =>
      obtain rfl := List.mem_singleton.mp member
      exact .spare here writes named noLink
    | facts member accepted text reaches =>
      obtain rfl := List.mem_singleton.mp member
      exact .facts here accepted text reaches

/-- A turn goes one of the two ways. -/
theorem course_of_turn {file : Path} {before after : σ × FileTree} {outcome : Except Error Path}
    (done : generateFile client disk options contract context file before.1 before.2 = (outcome, after)) :
    Turn.Course client disk options contract context ⟨file, before, outcome, after⟩ := by
  rw [generateFile_eq] at done
  cases described : textFor client disk options contract context file before.1 before.2 with
  | mk answer asked =>
    have text : Turn.text client disk options contract context ⟨file, before, outcome, after⟩ = answer :=
      congrArg Prod.fst described
    rw [described] at done
    cases answer with
    | error e =>
      -- Without a text nothing is done to the tree.
      cases done
      exact .textless e text rfl rfl
    | ok written =>
      have target : SourceFile.outputPath file options.root options.outDir = options.target file := rfl
      simp only [target] at done
      suffices ends : after.2 = (FileTree.replaceFile disk (options.target file) written before.2).tree ∧
          ((outcome = .ok (options.target file) ∧
              (FileTree.replaceFile disk (options.target file) written before.2).result = .ok ()) ∨
            ∃ e, outcome = .error (.io (.refused e)) ∧
              (FileTree.replaceFile disk (options.target file) written before.2).result = .error e) from
        .replaced written text ends.1 ends.2
      -- The tree is the same whether or not the replacement succeeded.
      generalize FileTree.replaceFile disk (options.target file) written before.2 = passage at done ⊢
      split at done
      · rename_i succeeds
        cases done
        exact ⟨rfl, .inl ⟨rfl, succeeds⟩⟩
      · rename_i e fails
        cases done
        exact ⟨rfl, .inr ⟨e, rfl, fails⟩⟩

/-- A turn that succeeds has replaced the facts by their text. -/
theorem Turn.Course.of_ok {turn : Turn σ} {target : Path}
    (course : turn.Course client disk options contract context) (succeeds : turn.outcome = .ok target) :
    ∃ text, turn.text client disk options contract context = .ok text ∧
      turn.after.2 = (FileTree.replaceFile disk (options.target turn.file) text turn.before.2).tree ∧
      (FileTree.replaceFile disk (options.target turn.file) text turn.before.2).result = .ok () := by
  -- A turn that succeeds has a text, and the replacement of the file succeeded with it.
  cases course with
  | textless e _ outcome => cases succeeds.symm.trans outcome
  | replaced text writes tree ends =>
    rcases ends with ⟨-, result⟩ | ⟨e, outcome, -⟩
    · exact ⟨text, writes, tree, result⟩
    · cases succeeds.symm.trans outcome

/-- What becomes of the places of a tree in one turn. -/
theorem becomes_of_turn {file : Path} {before after : σ × FileTree} {outcome : Except Error Path}
    (done : generateFile client disk options contract context file before.1 before.2 = (outcome, after))
    (unlinked : before.2.Unlinked (spareName disk options file)) (below : place ≠ []) :
    Becomes client disk options contract context [⟨file, before, outcome, after⟩] place
      (before.2.standing place) (after.2.standing place) := by
  cases course_of_turn done with
  | textless e _ _ same =>
    -- Nothing is written, and every place stays.
    have same : after.2 = before.2 := same
    rw [same]
    exact .kept _
  | replaced text writes tree =>
    have tree : after.2 = (FileTree.replaceFile disk (options.target file) text before.2).tree := tree
    rw [tree]
    have member : (⟨file, before, outcome, after⟩ : Turn σ) ∈ [⟨file, before, outcome, after⟩] :=
      List.mem_singleton_self _
    -- What is tame keeps a place, makes a directory of nothing, or touches the temporary name.
    have tamely {changed : FileTree} (tame : FileTree.Tame (spareName disk options file) before.2 changed) :
        Becomes client disk options contract context [⟨file, before, outcome, after⟩] place
          (before.2.standing place) (changed.standing place) := by
      rcases tame place below with same | ⟨free, made⟩ | ⟨named, noLink⟩
      · rw [same]
        exact .kept _
      · rw [free, made]
        exact .made member writes
      · exact .spare member writes named noLink
    have replaced : FileTree.Replacement disk (options.target file) _ _ before.2 _ :=
      FileTree.replacement_replaceFile text unlinked
    -- A replacement that succeeds has brought the text to the place of the target.
    cases replaced with
    | failed fails tame => exact tamely tame
    | @done between folder spare name succeeds through tame leads after =>
      rw [after place below]
      split
      · rename_i here
        obtain ⟨document, accepted, rfl⟩ := exists_document_of_text writes
        exact .facts member accepted writes ⟨between, through, folder, name, leads, here⟩
      · -- The place of the temporary file, or one that was made on the way.
        split
        · rename_i here
          have named : place.getLast? = some (spareName disk options file) := by
            rw [here, List.getLast?_concat]
            rfl
          exact .spare member writes named (by simp)
        · exact tamely tame

/-- A turn makes no links, and so leaves a name without links as it is. -/
theorem unlinked_of_turn {file : Path} {before after : σ × FileTree} {outcome : Except Error Path}
    (done : generateFile client disk options contract context file before.1 before.2 = (outcome, after))
    (unlinked : before.2.Unlinked (spareName disk options file)) {name : String}
    (others : before.2.Unlinked name) : after.2.Unlinked name :=
  fun folder target link =>
    others folder target ((becomes_of_turn done unlinked (by simp)).link link)

/-- After a turn that succeeds, the accepted text is where the path of the facts led to. -/
theorem written_of_turn {file target : Path} {before after : σ × FileTree}
    (done : generateFile client disk options contract context file before.1 before.2 = (.ok target, after))
    (unlinked : before.2.Unlinked (spareName disk options file)) :
    ∃ document place, contract.violations document = [] ∧
      Turn.text client disk options contract context ⟨file, before, .ok target, after⟩ =
        .ok (Json.canonicalText document) ∧
      Turn.Reaches disk options ⟨file, before, .ok target, after⟩ (Json.canonicalText document) place ∧
      after.2.standing place = .file (Utf8.encode (Json.canonicalText document)) := by
  obtain ⟨text, writes, tree, succeeds⟩ := (course_of_turn done).of_ok rfl
  obtain ⟨document, accepted, rfl⟩ := exists_document_of_text writes
  have tree : after.2 =
      (FileTree.replaceFile disk (options.target file) (Json.canonicalText document) before.2).tree := tree
  rw [tree]
  -- The turn succeeds only if the replacement does.
  cases FileTree.replacement_replaceFile (Json.canonicalText document) unlinked with
  | failed fails => cases fails.symm.trans succeeds
  | @done between folder spare name _ through _ leads after =>
    refine ⟨document, folder ++ [name], accepted, writes, ⟨between, through, folder, name, leads, rfl⟩, ?_⟩
    rw [after _ (by simp), if_pos rfl]

/-- What becomes of the places of a tree in turns one after the other. -/
theorem becomes_of_handled {before after : σ × FileTree}
    (handled : Handled client disk options contract context before turns after)
    (unlinked : ∀ turn ∈ turns, before.2.Unlinked (spareName disk options turn.file)) (below : place ≠ []) :
    Becomes client disk options contract context turns place (before.2.standing place)
      (after.2.standing place) := by
  -- The induction is on the turns; that no links bear temporary names is kept by each of them.
  induction handled with
  | none state => exact .kept _
  | @turn file before between after outcome turns done rest ih =>
    obtain ⟨here, later⟩ := List.forall_mem_cons.mp unlinked
    exact (becomes_of_turn done here below).trans
      (ih fun turn member => unlinked_of_turn done here (later turn member))

/-- No links of the temporary names come about before any turn. -/
theorem Handled.unlinked {before after : σ × FileTree} {turn : Turn σ}
    (handled : Handled client disk options contract context before turns after)
    (unlinked : ∀ turn ∈ turns, before.2.Unlinked (spareName disk options turn.file)) (member : turn ∈ turns) :
    turn.before.2.Unlinked (spareName disk options turn.file) := by
  -- Each turn keeps the names unlinked, so they are at the start of any turn on the list.
  induction handled with
  | none => cases member
  | turn done rest ih =>
    obtain ⟨here, others⟩ := List.forall_mem_cons.mp unlinked
    rcases List.mem_cons.mp member with rfl | later
    · exact here
    · exact ih (fun turn member => unlinked_of_turn done here (others turn member)) later

/-- Wherever the path of the facts about a source leads, it leads to their name. -/
theorem name_of_target {file : Path} {between : FileTree} {folder : List String} {name : String}
    (leads : between.resolveParent disk.setting.cwd (options.target file) = .ok (folder, .name name)) :
    name = SourceFile.stem file ++ SourceFile.factsEnding :=
  ((SourceFile.endsIn_outputPath file options.root options.outDir).name (SourceFile.isPlain_facts file)
    leads).symm

/-- What a run does to the tree: sources without an accepted text do nothing, and unless links bear
temporary names of the run, every place becomes what it may. Facts in particular are left as they were,
or are accepted facts. -/
structure Gated (client : Client σ) (disk : FileTree.Disk) (options : Options) (contract : Schema)
    (context : FactsContext) (files : List Path) (tree : FileTree) (turns : List (Turn σ))
    (after : FileTree) : Prop where
  /-- Every turn is that of a source of the run. -/
  inOrder : turns.map Turn.file <+: files
  /-- A source without an accepted text fails for that reason, and changes nothing. -/
  refused {turn : Turn σ} (member : turn ∈ turns) {e : Error}
    (fails : turn.text client disk options contract context = .error e) :
    turn.outcome = .error e ∧ turn.after.2 = turn.before.2
  /-- After a turn that succeeds, accepted facts stand at their place in their canonical text. -/
  written (unlinked : ∀ file ∈ files, tree.Unlinked (spareName disk options file)) {turn : Turn σ}
    (member : turn ∈ turns) {target : Path} (succeeds : turn.outcome = .ok target) :
    ∃ document place, contract.violations document = [] ∧
      turn.text client disk options contract context = .ok (Json.canonicalText document) ∧
      turn.Reaches disk options (Json.canonicalText document) place ∧
      turn.after.2.standing place = .file (Utf8.encode (Json.canonicalText document))
  /-- What stands at a place is left from before, or made, or accepted. -/
  becomes (unlinked : ∀ file ∈ files, tree.Unlinked (spareName disk options file)) {place : List String}
    (below : place ≠ []) :
    Becomes client disk options contract context turns place (tree.standing place) (after.standing place)
  /-- The path of the facts about a source leads to a place under their name only. -/
  named {file : Path} {between : FileTree} {folder : List String} {name : String}
    (leads : between.resolveParent disk.setting.cwd (options.target file) = .ok (folder, .name name)) :
    name = SourceFile.stem file ++ SourceFile.factsEnding
  /-- Under a name of facts nothing changes but that accepted facts come there, in their canonical
  text, or that a directory is made where nothing was. -/
  facts (unlinked : ∀ file ∈ files, tree.Unlinked (spareName disk options file)) (folder : List String)
    (stem : String) :
    let place := folder ++ [stem ++ SourceFile.factsEnding]
    after.standing place = tree.standing place ∨
      (∃ document, contract.violations document = [] ∧
        after.standing place = .file (Utf8.encode (Json.canonicalText document))) ∨
      tree.standing place = .nothing ∧ after.standing place = .directory
  /-- Older facts that no accepted ones have reached keep their bytes. -/
  keeps (unlinked : ∀ file ∈ files, tree.Unlinked (spareName disk options file)) {folder : List String}
    {stem : String}
    (unreached : ∀ turn ∈ turns, ∀ text, turn.text client disk options contract context = .ok text →
      ¬ turn.Reaches disk options text (folder ++ [stem ++ SourceFile.factsEnding]))
    {bytes : List UInt8} (older : tree.standing (folder ++ [stem ++ SourceFile.factsEnding]) = .file bytes) :
    after.standing (folder ++ [stem ++ SourceFile.factsEnding]) = .file bytes

/-- Turns one after the other do no more to a tree than they may. -/
theorem gated_of_handled {files : List Path} {before after : σ × FileTree}
    (handled : Handled client disk options contract context before turns after)
    (inOrder : turns.map Turn.file <+: files) :
    Gated client disk options contract context files before.2 turns after.2 := by
  have ofTurns (unlinked : ∀ file ∈ files, before.2.Unlinked (spareName disk options file)) :
      ∀ turn ∈ turns, before.2.Unlinked (spareName disk options turn.file) :=
    fun turn member => unlinked turn.file (inOrder.subset (List.mem_map_of_mem member))
  have becomes (unlinked : ∀ file ∈ files, before.2.Unlinked (spareName disk options file))
      {place : List String} (below : place ≠ []) :
      Becomes client disk options contract context turns place (before.2.standing place)
        (after.2.standing place) :=
    becomes_of_handled handled (ofTurns unlinked) below
  -- Facts do not have the name of a temporary file.
  have apart (file : Path) (folder : List String) (stem : String)
      (named : (folder ++ [stem ++ SourceFile.factsEnding]).getLast? = some (spareName disk options file)) :
      False := by
    rw [List.getLast?_concat, Option.some.injEq] at named
    exact FileTree.temporaryName_ne _ _ stem named.symm
  constructor
  case inOrder => exact inOrder
  case refused =>
    intro turn member e fails
    cases course_of_turn (handled.done member) with
    | textless e' fails' outcome same =>
      -- The only failure before there is a text leaves the tree as it is.
      obtain rfl := Except.error.inj (fails.symm.trans fails')
      exact ⟨outcome, same⟩
    | replaced text writes => cases fails.symm.trans writes
  case written =>
    intro unlinked turn member target succeeds
    have done := handled.done member
    have unlinkedThen := handled.unlinked (ofTurns unlinked) member
    obtain ⟨file, before, outcome, after⟩ := turn
    obtain rfl : outcome = .ok target := succeeds
    exact written_of_turn done unlinkedThen
  case becomes => exact becomes
  case named => exact name_of_target
  case facts =>
    intro unlinked folder stem place
    have fate := @becomes unlinked place (by simp [place])
    generalize after.2.standing place = now, before.2.standing place = older at fate
    cases fate with
    -- A place of facts is kept, becomes a directory, or gets facts that are accepted.
    | kept => exact .inl rfl
    | made => exact .inr (.inr ⟨rfl, rfl⟩)
    | spare _ _ named _ => exact (apart _ _ _ named).elim
    | facts _ accepted _ _ => exact .inr (.inl ⟨_, accepted, rfl⟩)
  case keeps =>
    intro unlinked folder stem unreached bytes older
    have fate := @becomes unlinked (folder ++ [stem ++ SourceFile.factsEnding]) (by simp)
    rw [older] at fate
    -- Nothing but accepted facts takes the place of a file.
    generalize after.2.standing _ = now at fate
    cases fate with
    | kept => rfl
    | spare _ _ named _ => exact (apart _ _ _ named).elim
    | facts member _ writes reaches => exact absurd reaches (unreached _ member _ writes)

/-- Nothing is written that has not been accepted: without the version of the compiler the tree stays as
it is, and with it the tree becomes what the turns of the sources may make of it. -/
theorem only_accepted_written {σ : Type} (client : Client σ) (disk : FileTree.Disk) (options : Options)
    (contract : Schema) (files : List Path) (compiler : σ) (tree : FileTree) :
    match client.version compiler with
    | (.error _, _) => (generateAll client disk options contract files compiler tree).2.tree = tree
    | (.ok version, asked) => ∃ turns progress,
      (generateAll client disk options contract files compiler tree).2 = progress ∧
        Handled client disk options contract (contextOf options version) (asked, tree) turns
          (progress.compiler, progress.tree) ∧
        Gated client disk options contract (contextOf options version) files tree turns progress.tree := by
  split
  · -- Without a version no source has its turn.
    rename_i e asked answer
    rw [generateAll, answer]
    rfl
  · rename_i version asked answer
    obtain ⟨turns, after, handled, reached⟩ := exists_turns client disk options contract
      (contextOf options version) files (asked, tree)
    obtain ⟨result, written, failed, run⟩ := generateAll_reached answer handled reached
    exact ⟨turns, _, congrArg Prod.snd run, handled, gated_of_handled handled reached.inOrder⟩

/-- A compiler that compiles all sources but one. -/
def picky : Client Nat where
  version asked := (.ok "0.30.23", asked + 1)
  describe file asked :=
    (.ok ⟨if file = ⟨"/a.bicep"⟩ then ⟨false, none, []⟩ else ⟨true, some "{}", []⟩, ⟨[], []⟩, ⟨[]⟩⟩, asked + 1)

/-- What is told to a run that goes on after failures. -/
def persistent : Options := ⟨⟨"/"⟩, none, .file, some "2024-05-01T12:00:00Z", true⟩

/-- A directory with facts about the source that does not compile, and with one that does. -/
def older : FileTree :=
  .directory [("a.facts.json", .file [123, 125] default), ("b.bicep", .file [] default)]

/-- No link stands anywhere in the directory. -/
theorem standing_older (place : List String) (target : String) : older.standing place ≠ .link target := by
  intro link
  rw [FileTree.standing_eq_link] at link
  cases place with
  | nil => cases link
  | cons name names =>
    rw [FileTree.at?_cons] at link
    obtain ⟨inside, entry, link⟩ := Option.bind_eq_some_iff.mp link
    obtain ⟨before, after, whole, -⟩ := List.lookup_eq_some_iff.mp entry
    have member : (name, inside) ∈ older.entries := by simp [whole]
    -- Both entries are files, and have nothing below them.
    obtain ⟨bytes, modified, rfl⟩ : ∃ bytes modified, inside = .file bytes modified := by
      simp only [older, FileTree.entries_directory, List.mem_cons, Prod.mk.injEq, List.not_mem_nil,
        or_false] at member
      rcases member with ⟨-, first⟩ | ⟨-, second⟩
      · exact ⟨_, _, first⟩
      · exact ⟨_, _, second⟩
    cases names with
    | nil => cases link
    | cons next names => simp [FileTree.at?_cons, FileTree.entries] at link

/-- Only the second source has its facts written, and the older facts about the first one are kept. -/
theorem only_accepted_written_older :
    let run := generateAll picky (.willing ⟨⟨"/"⟩, default⟩ 1) persistent ⟨.all [], []⟩
      [⟨"/a.bicep"⟩, ⟨"/b.bicep"⟩] 0 older
    run.2.written = [⟨"/b.facts.json"⟩] ∧ run.2.tree.standing ["a.facts.json"] = .file [123, 125] := by
  intro run
  have written : run.2.written = [⟨"/b.facts.json"⟩] := by decide +kernel
  obtain ⟨turns, progress, same, -, gated⟩ := only_accepted_written picky (.willing ⟨⟨"/"⟩, default⟩ 1)
    persistent ⟨.all [], []⟩ [⟨"/a.bicep"⟩, ⟨"/b.bicep"⟩] 0 older
  obtain rfl : run.2 = progress := same
  have unlinked : ∀ file ∈ [⟨"/a.bicep"⟩, ⟨"/b.bicep"⟩],
      older.Unlinked (spareName (.willing ⟨⟨"/"⟩, default⟩ 1) persistent file) :=
    fun _ _ _ target => standing_older _ target
  have kept : run.2.tree.standing ([] ++ ["a" ++ SourceFile.factsEnding]) = .file [123, 125] := by
    refine gated.keeps unlinked (fun turn member text writes => ?_) rfl
    rintro ⟨between, -, folder, name, leads, here⟩
    have source : turn.file = ⟨"/a.bicep"⟩ ∨ turn.file = ⟨"/b.bicep"⟩ := by
      simpa using gated.inOrder.subset (List.mem_map_of_mem member)
    rcases source with first | second
    · -- The first source does not compile.
      rw [Turn.text, first] at writes
      cases writes
    · -- The facts about the second source have another name.
      rw [gated.named leads, second] at here
      have names := congrArg List.getLast? here
      rw [List.getLast?_concat, List.getLast?_concat] at names
      exact absurd names (by decide +kernel)
  exact ⟨written, kept⟩

/-- A disk that refuses nothing, of a process in the uppermost directory. -/
def obliging : FileTree.Disk := .willing ⟨⟨"/"⟩, default⟩ 1

/-- A source that does not compile, beside a directory with the name of the facts about it. -/
def namesake : FileTree :=
  .directory [("a.bicep", .file [] default), ("a.facts.json", .directory [("b.bicep", .file [] default)])]

/-- The temporary name for the facts about one source is a link to older facts about another. -/
def misled : FileTree :=
  .directory [(".b.facts.json.1.tmp", .link "a.facts.json"), ("a.facts.json", .file [123, 125] default),
    ("b.bicep", .file [] default)]

/-- A canonical text ends with a line feed, so that it is more than two braces. -/
theorem canonicalText_ne_braces (document : Json) : Utf8.encode (Json.canonicalText document) ≠ [123, 125] := by
  -- The last bytes differ.
  intro same
  rw [Json.canonicalText, Utf8.encode_append] at same
  have last := congrArg List.getLast? same
  rw [show Utf8.encode "\n" = [10] by decide, List.getLast?_concat] at last
  cases last

/-- What replaces the facts about the second source is written where the link leads. -/
theorem standing_replaced_misled (text : String) :
    (FileTree.replaceFile obliging (persistent.target ⟨"/b.bicep"⟩) text misled).tree.standing
      ["a.facts.json"] = .file (Utf8.encode text) := rfl

/-- The facts about the second source are written through the link, and so over those about the first. -/
theorem standing_misled :
    ∃ document, (generateAll picky obliging persistent ⟨.all [], []⟩ [⟨"/a.bicep"⟩, ⟨"/b.bicep"⟩] 0
      misled).2.tree.standing ["a.facts.json"] = .file (Utf8.encode (Json.canonicalText document)) := by
  have answer : picky.version 0 = (.ok "0.30.23", 1) := rfl
  -- The first source does not compile, and the run goes on behind it.
  let turn (file : Path) (before : Nat × FileTree) :=
    generateFile picky obliging persistent ⟨.all [], []⟩ (contextOf persistent "0.30.23") file before.1 before.2
  obtain ⟨e, first, passed⟩ : ∃ e, turn ⟨"/a.bicep"⟩ (1, misled) = (.error e, 2, misled) ∧
      endsRun persistent (.error e) = false := ⟨_, rfl, rfl⟩
  have succeeds : (turn ⟨"/b.bicep"⟩ (2, misled)).1 = .ok ⟨"/b.facts.json"⟩ := rfl
  obtain ⟨after, second⟩ : ∃ after, turn ⟨"/b.bicep"⟩ (2, misled) = (.ok ⟨"/b.facts.json"⟩, after) :=
    ⟨_, Prod.ext succeeds rfl⟩
  -- Both sources have had their turn, so that the run ends with what the second one left.
  obtain ⟨turns, sources, handled, going⟩ : ∃ turns : List (Turn Nat),
      turns.map Turn.file = [⟨"/a.bicep"⟩, ⟨"/b.bicep"⟩] ∧
      Handled picky obliging persistent ⟨.all [], []⟩ (contextOf persistent "0.30.23") (1, misled) turns after ∧
      ∀ turn ∈ turns, endsRun persistent turn.outcome = false :=
    ⟨_, rfl, .turn first (.turn second (.none after)),
      List.forall_mem_cons.mpr ⟨passed, List.forall_mem_singleton.mpr rfl⟩⟩
  have run := generateAll_whole answer handled going
  rw [sources] at run
  rw [run]
  -- Whatever text is accepted, it is found where the link leads.
  obtain ⟨text, writes, replaced, -⟩ := (course_of_turn second).of_ok rfl
  obtain ⟨document, -, rfl⟩ := exists_document_of_text writes
  have left : after.2 = (FileTree.replaceFile obliging (persistent.target ⟨"/b.bicep"⟩)
      (Json.canonicalText document) misled).tree := replaced
  have through := standing_replaced_misled (Json.canonicalText document)
  rw [← left] at through
  exact ⟨document, through⟩

/--
A place of facts may change although they were not accepted: on the way to the facts about one source a
directory is made where those about another would be, which failed; and through a link that bears a
temporary name, older facts about a source that failed are written over.
-/
theorem changed_unaccepted :
    let run (options : Options) (files : List Path) (tree : FileTree) :=
      (generateAll picky obliging options ⟨.all [], []⟩ files 0 tree).2
    let made := run { persistent with outDir := some ⟨"/out"⟩ } [⟨"/a.bicep"⟩, ⟨"/a.facts.json/b.bicep"⟩] namesake
    let led := run persistent [⟨"/a.bicep"⟩, ⟨"/b.bicep"⟩] misled
    (made.written = [⟨"/out/a.facts.json/b.facts.json"⟩] ∧
      namesake.standing ["out", "a.facts.json"] = .nothing ∧
      made.tree.standing ["out", "a.facts.json"] = .directory) ∧
    led.written = [⟨"/b.facts.json"⟩] ∧ misled.standing ["a.facts.json"] = .file [123, 125] ∧
      led.tree.standing ["a.facts.json"] ≠ .file [123, 125] := by
  intro run made led
  -- The first tree is evaluated, and of the second one only the text that was accepted is left open.
  have directory : made.written = [⟨"/out/a.facts.json/b.facts.json"⟩] ∧
      namesake.standing ["out", "a.facts.json"] = .nothing ∧
      made.tree.standing ["out", "a.facts.json"] = .directory := by decide +kernel
  have written : led.written = [⟨"/b.facts.json"⟩] := by decide +kernel
  refine ⟨directory, written, rfl, fun kept => ?_⟩
  obtain ⟨document, overwritten⟩ := standing_misled
  exact canonicalText_ne_braces document (FileTree.Standing.file.inj (overwritten.symm.trans kept))

end TemplateFacts.Generation
