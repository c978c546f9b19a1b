import TemplateFacts.Proofs.Compiler.Described
import TemplateFacts.Proofs.Facts.Conformance
import TemplateFacts.Proofs.Timestamp

/-!
The stamps of a run and its contract: which stamps that are accepted, and which times of files, end
in facts that are refused.
-/

namespace TemplateFacts

/-- The facts with another stamp. -/
def Facts.stamped (f : Facts) (stamp : String) : Facts :=
  { f with provenance := { f.provenance with generatedAt := stamp } }

/-- Facts that conform do so under another stamp exactly if it is a date-time of the contract. -/
theorem Facts.Conforms.stamped_iff {f : Facts} (conforms : f.Conforms) (stamp : String) :
    (f.stamped stamp).Conforms ↔ Timestamp.isDateTime stamp = true :=
  ⟨fun stamped => stamped.generatedAt, fun holds => { conforms with generatedAt := holds }⟩

namespace Generation

open Compiler (Description)

/-- A stamp that is accepted has a reading. -/
theorem exists_reading_of_checkedStamp {stamp : String} (checked : checkedStamp stamp = .ok stamp) :
    ∃ r, Timestamp.stampReading? stamp = some r := by
  -- A stamp passes the check by being read.
  unfold checkedStamp at checked
  split at checked
  · rename_i isStamp
    exact Option.isSome_iff_exists.mp isStamp
  · cases checked

/-- Facts are written as they are if the contract finds nothing wrong with them. -/
theorem accepted_iff {contract : Schema} {facts : Facts} :
    (∃ text, accepted contract facts = .ok text) ↔
      contract.violations (Json.canonicalize facts.toJson) = [] := by
  -- The check asks only whether the list of findings is empty.
  unfold accepted Schema.validate
  dsimp only
  split
  · rename_i nothing
    exact iff_of_true ⟨_, rfl⟩ nothing
  · rename_i something
    exact iff_of_false (fun ⟨_, wrong⟩ => by cases wrong) something

variable {disk : FileTree.Disk} {options : Options} {context : FactsContext} {file : Path}
  {tree : FileTree} {bytes : List UInt8} {modified : Timestamp.Instant} {described : Description}
  {facts : Facts}

/-- A run with another stamp assembles the same facts but for the stamp. -/
theorem assemble_stamped (readable : tree.fileAt disk.setting.cwd file = .ok (bytes, modified))
    (made : assemble disk options context file described tree = .ok facts) (stamp? : Option String) :
    assemble disk { options with generatedAt := stamp? } context file described tree =
      .ok (facts.stamped (stamp?.getD modified.text)) := by
  rw [Compiler.assemble_readable readable, Compiler.factsOf, buildFacts_eq] at made ⊢
  dsimp only at made ⊢
  -- Whether the facts can be built at all does not depend on the stamp.
  cases read : ensureCompiled file described.compile >>= Template.parse file with
  | error e =>
    rw [read] at made
    cases made
  | ok template =>
    rw [read] at made
    cases made
    rfl

/-- Facts that conform under one stamp are accepted under another one exactly if it is a date-time of
the contract. -/
theorem accepted_stamped_iff (readable : tree.fileAt disk.setting.cwd file = .ok (bytes, modified))
    (made : assemble disk options context file described tree = .ok facts)
    (conforms : Contract.bundled.violations (Json.canonicalize facts.toJson) = [])
    (stamp? : Option String) :
    (∃ text, assemble disk { options with generatedAt := stamp? } context file described tree >>=
        accepted Contract.bundled = .ok text) ↔
      Timestamp.isDateTime (stamp?.getD modified.text) = true := by
  -- Only the stamp differs between the two records, so only its format can decide.
  rw [Contract.bundled_violations_eq_nil] at conforms
  rw [← conforms.stamped_iff, ← Contract.bundled_violations_eq_nil, ← accepted_iff,
    assemble_stamped readable made]
  rfl

/-- Where facts conform under one stamp, a stamp given by hand that is accepted is refused by the
contract exactly if it has a space or the true minus sign, or a leap second that is not the end of a
day in universal time; and the time of the source is refused exactly if it lies outside of the years
of four digits. -/
theorem accepted_stamp_refused_iff
    (readable : tree.fileAt disk.setting.cwd file = .ok (bytes, modified))
    (made : assemble disk options context file described tree = .ok facts)
    (conforms : Contract.bundled.violations (Json.canonicalize facts.toJson) = []) :
    (∀ stamp, checkedStamp stamp = .ok stamp → ∃ r, Timestamp.stampReading? stamp = some r ∧
      ((∃ text, assemble disk { options with generatedAt := some stamp } context file described tree >>=
          accepted Contract.bundled = .ok text) ↔
        ' ' ∉ stamp.toList ∧ '\u2212' ∉ stamp.toList ∧
          (r.clock.second < 60 ∨
            (r.clock.hour * 60 + r.clock.minute - r.offset : Int) % 1440 = 1439))) ∧
    ((∃ text, assemble disk { options with generatedAt := none } context file described tree >>=
        accepted Contract.bundled = .ok text) ↔
      -62167219200 ≤ modified.seconds ∧ modified.seconds < 253402300800) := by
  -- By the format alone: a given stamp through its reading, a file's time through the text made of it.
  constructor
  · intro stamp checked
    obtain ⟨r, reads⟩ := exists_reading_of_checkedStamp checked
    refine ⟨r, reads, ?_⟩
    rw [accepted_stamped_iff readable made conforms, Option.getD_some,
      Timestamp.isDateTime_iff_of_stamp reads]
  · rw [accepted_stamped_iff readable made conforms, Option.getD_none, Timestamp.isDateTime_text_iff]

/-- For a source below the root, a leap second at the end of a day is accepted by the contract as well,
and so is the beginning of 1970. -/
theorem accepted_stamp_at_midnight :
    let file : Path := ⟨"/main.bicep"⟩
    let tree : FileTree := .directory [("main.bicep", .file [0x0A] ⟨0, 0⟩)]
    let disk : FileTree.Disk := .willing ⟨⟨"/"⟩, ⟨0, 0⟩⟩ 1
    let options (stamp? : Option String) : Options := ⟨⟨"/"⟩, none, .file, stamp?, false⟩
    let described : Description := ⟨⟨true, some "\x7b\x7d", []⟩, ⟨[], []⟩, ⟨[]⟩⟩
    (∃ text, assemble disk (options (some "2016-12-31T15:59:60-08:00")) (contextOf (options none) "0.31.92")
      file described tree >>= accepted Contract.bundled = .ok text) ∧
    ∃ text, assemble disk (options none) (contextOf (options none) "0.31.92") file described tree >>=
      accepted Contract.bundled = .ok text := by
  -- A leap second that is one in UTC, and the time 0 of a file; the rest of the record is plain.
  intro file tree disk options described
  have readable : tree.fileAt disk.setting.cwd file = .ok ([0x0A], ⟨0, 0⟩) := by decide +kernel
  let inputs : FactsInputs := ⟨file, described.compile, described.metadata, described.graph,
    Sha256.hexDigest [0x0A], "2024-05-01T12:00:00Z"⟩
  have made : assemble disk (options (some "2024-05-01T12:00:00Z")) (contextOf (options none) "0.31.92")
      file described tree =
        .ok (factsOf inputs (contextOf (options none) "0.31.92") ⟨none, [], [], .null⟩) := by
    rw [Compiler.assemble_readable readable]
    rfl
  have conforms : Contract.bundled.violations
      (Json.canonicalize (factsOf inputs (contextOf (options none) "0.31.92") ⟨none, [], [], .null⟩).toJson) = [] := by
    rw [Contract.bundled_violations_eq_nil, conforms_factsOf]
    exact {
      parameters := fun p member => by simp [factsOf, buildParameters] at member
      outputs := fun o member => by simp [factsOf, buildOutputs] at member
      modules := fun ms given => by
        simp [factsOf, resolveModules, firstModules, inputs, described] at given
      compilerVersion := by decide
      generator := by decide
      hash := ⟨by decide +kernel, List.all_iff_forall_prop.mp (by decide +kernel)⟩
      generatedAt := by decide
      path := by decide +kernel
      componentId := by decide +kernel }
  obtain ⟨byHand, byTime⟩ := accepted_stamp_refused_iff readable made conforms
  refine ⟨?_, byTime.mpr (by decide)⟩
  obtain ⟨r, reads, iff⟩ := byHand "2016-12-31T15:59:60-08:00" (by decide)
  have value : r = ⟨⟨2016, 12, 31⟩, ⟨15, 59, 60⟩, -480⟩ := by
    have known : Timestamp.stampReading? "2016-12-31T15:59:60-08:00" =
      some ⟨⟨2016, 12, 31⟩, ⟨15, 59, 60⟩, -480⟩ := by decide
    exact Option.some.inj (reads.symm.trans known)
  exact iff.mpr ⟨by decide, by decide, by rw [value]; decide⟩

/-- A leap second at noon, a space and the true minus sign are accepted in stamps given by hand, and
the contract refuses all facts with such a stamp, and all with a time of the year 10000. -/
theorem no_facts_under_loose_stamps :
    (∀ stamp ∈ ["2024-05-01T12:00:60Z", "2024-05-01 12:00:00Z", "2024-05-01T12:00:00\u221208:00"],
      checkedStamp stamp = .ok stamp ∧ ¬ ∃ f : Facts, f.provenance.generatedAt = stamp ∧
        Contract.bundled.violations (Json.canonicalize f.toJson) = []) ∧
    ¬ ∃ f : Facts, f.provenance.generatedAt = Timestamp.Instant.text ⟨253402300800, 0⟩ ∧
      Contract.bundled.violations (Json.canonicalize f.toJson) = [] := by
  -- The format is one clause of conforming, so no record with such a stamp has it.
  have refused {stamp : String} (none : Timestamp.isDateTime stamp = false) :
      ¬ ∃ f : Facts, f.provenance.generatedAt = stamp ∧
        Contract.bundled.violations (Json.canonicalize f.toJson) = [] := by
    rintro ⟨f, rfl, nothing⟩
    have holds : Timestamp.isDateTime f.provenance.generatedAt = true :=
      ((Contract.bundled_violations_eq_nil f).mp nothing).generatedAt
    rw [none] at holds
    cases holds
  have checked : ∀ stamp ∈ ["2024-05-01T12:00:60Z", "2024-05-01 12:00:00Z",
      "2024-05-01T12:00:00\u221208:00"],
      checkedStamp stamp = .ok stamp ∧ Timestamp.isDateTime stamp = false := by decide
  refine ⟨fun stamp member => ?_, refused (by decide +kernel)⟩
  obtain ⟨taken, none⟩ := checked stamp member
  exact ⟨taken, refused none⟩

end Generation

end TemplateFacts
