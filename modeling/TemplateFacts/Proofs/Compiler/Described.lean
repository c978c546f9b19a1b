import TemplateFacts.Generation
import TemplateFacts.Proofs.Compiler.Answer
import TemplateFacts.Proofs.Wire.Delivered
import TemplateFacts.Proofs.Wire.Message
import TemplateFacts.Session.Live

/-!
Sources described over a connection: whatever the order of events, the facts that are assembled from
the answers of the compiler are those that are built from the records which the answers tell.
-/

namespace TemplateFacts.Compiler

open Json (settle nesting greatestDepth)
open Wire (IsAnswer requestDocument stream arrived responseIn? received)
open Wire.Connection (start numberAt Comes Fitting Receiving Responds Replies outcomeOf)

section Questions

/-- The number of a request is a machine word. -/
theorem numberAt_fits (id : Nat) : (numberAt id : Int) ≤ Json.greatestInt := by
  -- A number on the wire is below 2^64, and the greatest integer is the last one below that.
  have small : id % UInt64.size < UInt64.size := Nat.mod_lt _ (by decide)
  unfold numberAt Json.greatestInt
  simp only [UInt64.size] at small ⊢
  omega

/-- The request of a question is read as what it asks, with the exact text of the path in it. -/
theorem Question.ofBytes_payload (question : Question) (id : Nat) :
    Json.ofBytes (question.request.payload id) =
      .ok (requestDocument (numberAt id) question.method.wireText question.params) := by
  -- The path is a text, which is read as it is; the version is asked for without parameters.
  have path (file : Path) : Json.IsExact (paramsOf file) ∧ nesting (paramsOf file) < greatestDepth ∧
      settle (paramsOf file) = paramsOf file := by
    have flat : nesting (paramsOf file) = 1 := rfl
    refine ⟨⟨trivial, trivial⟩, ?_, rfl⟩
    rw [flat]
    decide
  have exact : Json.IsExact question.params ∧ nesting question.params < greatestDepth ∧
      settle question.params = question.params := by
    cases question with
    | version => exact ⟨trivial, by decide, rfl⟩
    | compile file => exact path file
    | metadata file => exact path file
    | graph file => exact path file
  obtain ⟨isExact, shallow, settled⟩ := exact
  have read : Json.ofBytes (Wire.requestPayload (numberAt id) question.method.wireText question.params) =
      .ok (requestDocument (numberAt id) question.method.wireText (settle question.params)) :=
    Wire.ofBytes_requestPayload (numberAt_fits id) isExact shallow
  rw [settled] at read
  exact read

end Questions

section Answered

variable {capacity : Nat} {events : List Wire.Event} {payloads : List (List UInt8)}

/-- An answer is the response to the request of its number. -/
theorem responseIn?_answer {number : Nat} {document : Json} {payload : List UInt8}
    (isAnswer : IsAnswer number document payload) (shallow : nesting document < greatestDepth) :
    responseIn? payload = some (number, .result (settle document)) := by
  -- The payload is read as a message first, and that message is a response with the same number.
  obtain ⟨m, said, response⟩ := Wire.responseOf?_answer isAnswer shallow
  rw [responseIn?, said]
  exact response

/-- The request at a place asks a question, and the other side answers it with a document. -/
structure Answered (capacity : Nat) (events : List Wire.Event) (payloads : List (List UInt8))
    (id : Nat) (question : Question) (document : Json) : Prop where
  asks : ((start capacity).run events).requestOf? id = some question.request
  shallow : nesting document < greatestDepth
  answer : Responds capacity events payloads id (IsAnswer (numberAt id) document)

/-- The answer is the response to the request. -/
theorem Answered.responds {id : Nat} {question : Question} {document : Json}
    (answered : Answered capacity events payloads id question document) :
    Responds capacity events payloads id (Replies id (.result (settle document))) :=
  answered.answer.mono fun _ isAnswer => responseIn?_answer isAnswer answered.shallow

/-- A record that is told in the shape of the question ends the request. -/
theorem outcomeOf_told {question : Question} {document record : Json}
    (told : question.shape.fit (settle document) = .ok record) :
    outcomeOf question.request (.result (settle document)) = .ok record := by
  -- The result has the shape that the question asks for, so the typed reading succeeds.
  have fits : question.shape.ofJson (settle document) = .ok record := by rw [Json.Shape.ofJson, told]
  show (question.shape.ofJson (settle document)).mapError _ = _
  rw [fits]
  rfl

end Answered

/-- The places of the three requests about a source. -/
structure Places where
  compile : Nat
  metadata : Nat
  graph : Nat

/--
A run in which the other side describes a source: it answers each of the three requests with a
document that tells the record, among whatever else it sends.
-/
structure Describes (capacity : Nat) (events : List Wire.Event) (payloads : List (List UInt8))
    (file : Path) (places : Places) (description : Description) : Prop where
  receiving : Receiving capacity events payloads
  room : 0 < capacity
  few : ((start capacity).run events).calls.length < 2 ^ 64
  fitting : Fitting ((start capacity).run events)
  compile : ∃ document, description.compile.Told document ∧
    Answered capacity events payloads places.compile (.compile file) document
  metadata : ∃ document, description.metadata.Told document ∧
    Answered capacity events payloads places.metadata (.metadata file) document
  graph : ∃ document, description.graph.Told document ∧
    Answered capacity events payloads places.graph (.graph file) document

/-- The description that some outcomes give so far: the first failure, or all of them together. -/
def describedSoFar (outcomes : List (Option (Except Error Json))) :
    Option (Except Error Description) :=
  -- A failure ends the waiting for all others.
  match outcomes.findSome? fun
    | some (.error e) => some e
    | _ => none with
  | some e => some (.error e)
  | none => (outcomes.mapM id).map Session.Live.describedBy

/-- What is assembled so far from the outcomes of the three requests about a source. -/
def assembledSoFar (disk : FileTree.Disk) (options : Generation.Options) (context : FactsContext)
    (file : Path) (tree : FileTree) (places : Places) (c : Wire.Connection) :
    Option (Except Error Facts) :=
  -- The source is read when its description is there.
  (describedSoFar [c.outcome? places.compile, c.outcome? places.metadata, c.outcome? places.graph]).map
    fun described => described >>= fun d => Generation.assemble disk options context file d tree

section Assembled

variable {disk : FileTree.Disk} {options : Generation.Options} {context : FactsContext} {file : Path}
  {tree : FileTree} {bytes : List UInt8} {modified : Timestamp.Instant} {description : Description}

/-- The facts that are built from a description, and from the bytes of the source and its stamp. -/
def factsOf (options : Generation.Options) (context : FactsContext) (file : Path)
    (description : Description) (bytes : List UInt8) (modified : Timestamp.Instant) : Except Error Facts :=
  buildFacts {
    file
    compile := description.compile
    metadata := description.metadata
    graph := description.graph
    hash := Sha256.hexDigest bytes
    generatedAt := options.generatedAt.getD modified.text } context

/-- What is assembled of a readable source is built from its description. -/
theorem assemble_readable (readable : tree.fileAt disk.setting.cwd file = .ok (bytes, modified)) :
    Generation.assemble disk options context file description tree =
      factsOf options context file description bytes modified := by
  have hash : Generation.hashAt disk.setting.cwd file tree = .ok (Sha256.hexDigest bytes) := by
    rw [Generation.hashAt, readable]
  have stamp : Generation.stampAt disk.setting.cwd file tree = .ok modified.text := by
    rw [Generation.stampAt, readable]
  -- A compilation that did not succeed is the same failure before and after.
  cases compiled : ensureCompiled file description.compile with
  | error e => simp only [Generation.assemble, factsOf, buildFacts, compiled, bind, Except.bind]
  | ok contents =>
    cases given : options.generatedAt with
    | none =>
      simp only [Generation.assemble, factsOf, compiled, hash, stamp, given, bind, Except.bind,
        Option.getD_none]
    | some text =>
      simp only [Generation.assemble, factsOf, compiled, hash, given, bind, Except.bind,
        Option.getD_some]

/-- What was written of a description is read back. -/
theorem ofRecords_toJson (description : Description) :
    Description.ofRecords description.compile.toJson description.metadata.toJson
      description.graph.toJson = description := by
  -- Each of the three records is read back as itself.
  rw [Description.ofRecords, CompileResult.ofRecord_toJson, Metadata.ofRecord_toJson,
    DeploymentGraph.ofRecord_toJson]

/-- Outcomes that are missing or give the records of a description give nothing else. -/
theorem eq_of_describedSoFar {first second third : Option (Except Error Json)}
    {described : Except Error Description}
    (compile : first = none ∨ first = some (.ok description.compile.toJson))
    (metadata : second = none ∨ second = some (.ok description.metadata.toJson))
    (graph : third = none ∨ third = some (.ok description.graph.toJson))
    (here : describedSoFar [first, second, third] = some described) : described = .ok description := by
  -- Nothing is assembled as long as one of the three is missing.
  rcases compile with rfl | rfl
  · rcases metadata with rfl | rfl <;> rcases graph with rfl | rfl <;> cases here
  · rcases metadata with rfl | rfl
    · rcases graph with rfl | rfl <;> cases here
    · rcases graph with rfl | rfl
      · cases here
      · have all : some (.ok (Description.ofRecords description.compile.toJson
            description.metadata.toJson description.graph.toJson)) = some described := here
        rw [ofRecords_toJson, Option.some.injEq] at all
        exact all.symm

end Assembled

section Connection

variable {capacity : Nat} {events : List Wire.Event} {payloads : List (List UInt8)} {id : Nat}
  {question : Question} {document record : Json}

/-- A request that is answered with a record ends with this record, if it ends. -/
theorem Answered.outcome (answered : Answered capacity events payloads id question document)
    (r : Receiving capacity events payloads)
    (few : ((start capacity).run events).calls.length < 2 ^ 64)
    (told : question.shape.fit (settle document) = .ok record) :
    ((start capacity).run events).outcome? id = none ∨
      ((start capacity).run events).outcome? id = some (.ok record) := by
  -- An ended request ended with the answer to it, which is of the question's shape.
  unfold Wire.Connection.outcome?
  split
  · rename_i outcome ended
    obtain ⟨request, asks, rfl⟩ := r.outcome few answered.responds ended
    rw [answered.asks, Option.some.injEq] at asks
    rw [← asks, outcomeOf_told told]
    exact .inr rfl
  · exact .inl rfl

/-- A request that is answered with a record has ended with it when all has arrived and come to rest. -/
theorem Answered.outcome_at_rest (answered : Answered capacity events payloads id question document)
    (r : Receiving capacity events payloads) (room : 0 < capacity)
    (few : ((start capacity).run events).calls.length < 2 ^ 64)
    (told : question.shape.fit (settle document) = .ok record) (all : arrived events = stream payloads)
    (resting : ((start capacity).run events).Resting) :
    ((start capacity).run events).outcome? id = some (.ok record) := by
  -- At rest the answer has arrived, so the request has ended and not merely not failed.
  have ended := r.finished room few all resting answered.responds answered.asks
  rw [outcomeOf_told told] at ended
  rw [Wire.Connection.outcome?, ended]

/-- Own events leave a question asked, and its answer as it is. -/
theorem Answered.goes (answered : Answered capacity events payloads id question document)
    {more : List Wire.Event} (own : ∀ event ∈ more, event.IsOwn) :
    Answered capacity (events ++ more) payloads id question document where
  asks := by
    -- What the connection does of its own asks nothing and takes no number.
    rw [Wire.Connection.run_append, Wire.Connection.requestOf?_run_own own]
    exact answered.asks
  shallow := answered.shallow
  answer := answered.answer.goes own

/-- Own events go on with a run in which the other side describes a source. -/
theorem Describes.goes {file : Path} {places : Places} {description : Description}
    (describes : Describes capacity events payloads file places description)
    {more : List Wire.Event} (own : ∀ event ∈ more, event.IsOwn) :
    Describes capacity (events ++ more) payloads file places description where
  -- Each field is about requests and what arrived, which steps of the connection's own leave alone.
  receiving := describes.receiving.goes own
  room := describes.room
  few := by
    rw [Wire.Connection.run_append, Wire.Connection.length_run_own own]
    exact describes.few
  fitting := by
    intro id request asks
    rw [Wire.Connection.run_append, Wire.Connection.requestOf?_run_own own] at asks
    exact describes.fitting id request asks
  compile := by
    obtain ⟨document, told, answered⟩ := describes.compile
    exact ⟨document, told, answered.goes own⟩
  metadata := by
    obtain ⟨document, told, answered⟩ := describes.metadata
    exact ⟨document, told, answered.goes own⟩
  graph := by
    obtain ⟨document, told, answered⟩ := describes.graph
    exact ⟨document, told, answered.goes own⟩

section Describes

variable {file : Path} {places : Places} {description : Description}

/-- The three requests of a described source end with its records, if they end. -/
theorem Describes.outcomes (describes : Describes capacity events payloads file places description) :
    let c := (start capacity).run events
    (c.outcome? places.compile = none ∨
      c.outcome? places.compile = some (.ok description.compile.toJson)) ∧
    (c.outcome? places.metadata = none ∨
      c.outcome? places.metadata = some (.ok description.metadata.toJson)) ∧
    (c.outcome? places.graph = none ∨
      c.outcome? places.graph = some (.ok description.graph.toJson)) := by
  -- Each request on its own has no outcome yet, or the one its document tells.
  obtain ⟨_, compileTold, compile⟩ := describes.compile
  obtain ⟨_, metadataTold, metadata⟩ := describes.metadata
  obtain ⟨_, graphTold, graph⟩ := describes.graph
  exact ⟨compile.outcome describes.receiving describes.few (CompileResult.fit_told compileTold),
    metadata.outcome describes.receiving describes.few (Metadata.fit_told metadataTold),
    graph.outcome describes.receiving describes.few (DeploymentGraph.fit_told graphTold)⟩

/-- The three requests of a described source have ended when all has arrived and come to rest. -/
theorem Describes.described (describes : Describes capacity events payloads file places description)
    (all : arrived events = stream payloads) (resting : ((start capacity).run events).Resting) :
    let c := (start capacity).run events
    describedSoFar [c.outcome? places.compile, c.outcome? places.metadata, c.outcome? places.graph] =
      some (.ok description) := by
  -- With all three outcomes there, the description is read back from its three records.
  intro c
  obtain ⟨_, compileTold, compile⟩ := describes.compile
  obtain ⟨_, metadataTold, metadata⟩ := describes.metadata
  obtain ⟨_, graphTold, graph⟩ := describes.graph
  rw [compile.outcome_at_rest describes.receiving describes.room describes.few
      (CompileResult.fit_told compileTold) all resting,
    metadata.outcome_at_rest describes.receiving describes.room describes.few
      (Metadata.fit_told metadataTold) all resting,
    graph.outcome_at_rest describes.receiving describes.room describes.few
      (DeploymentGraph.fit_told graphTold) all resting]
  have records := ofRecords_toJson description
  exact congrArg (fun d => some (Except.ok d)) records

/-- The three requests of a described source ask its questions. -/
theorem Describes.asks (describes : Describes capacity events payloads file places description)
    {asked : Nat × Question} (member : asked ∈ [(places.compile, Question.compile file),
      (places.metadata, .metadata file), (places.graph, .graph file)]) :
    ((start capacity).run events).requestOf? asked.1 = some asked.2.request := by
  -- The three questions are asked under the three numbers.
  obtain ⟨_, _, compile⟩ := describes.compile
  obtain ⟨_, _, metadata⟩ := describes.metadata
  obtain ⟨_, _, graph⟩ := describes.graph
  simp only [List.mem_cons, List.not_mem_nil, or_false] at member
  rcases member with rfl | rfl | rfl
  · exact compile.asks
  · exact metadata.asks
  · exact graph.asks

end Describes

/--
Whatever the order of events, what is assembled of a source that the other side describes is built
from the records of its description, the hash of the source and its stamp, and nothing else is ever
assembled. Whatever the connection does by itself from then on, it comes to rest, and then the other
side has read all three requests, and the facts are assembled if all its answers have arrived. And
whatever the other side reads is a request of its own number, and says exactly what it asks.
-/
theorem assembled_as_built {disk : FileTree.Disk} {options : Generation.Options}
    {context : FactsContext} {file : Path} {tree : FileTree} {bytes : List UInt8}
    {modified : Timestamp.Instant} {places : Places} {description : Description}
    (describes : Describes capacity events payloads file places description)
    (readable : tree.fileAt disk.setting.cwd file = .ok (bytes, modified)) :
    let c := (start capacity).run events
    let assembled := assembledSoFar disk options context file tree places
    let built := factsOf options context file description bytes modified
    (∀ result, assembled c = some result → result = built) ∧
    Comes (fun c =>
      (∀ asked ∈ [(places.compile, Question.compile file), (places.metadata, .metadata file),
        (places.graph, .graph file)], asked.2.request.payload asked.1 ∈ received c.delivered) ∧
      (arrived events = stream payloads → assembled c = some built)) c ∧
    (∀ payload ∈ received c.delivered, ∃ id request, c.requestOf? id = some request ∧
      payload = request.payload id ∧ ∀ question : Question, request = question.request →
        Json.ofBytes payload =
          .ok (requestDocument (numberAt id) question.method.wireText question.params)) := by
  -- A result needs all three outcomes, and each of them is the described one; that it comes is
  -- said at rest, where every answer has been heard and every request has gone out.
  intro c assembled built
  refine ⟨fun result here => ?_, ?_, fun payload member => ?_⟩
  · obtain ⟨described, there, rfl⟩ := Option.map_eq_some_iff.mp here
    obtain ⟨compile, metadata, graph⟩ := describes.outcomes
    obtain rfl := eq_of_describedSoFar compile metadata graph there
    exact assemble_readable readable
  · refine describes.receiving.comes fun more own resting => ?_
    have goes := describes.goes own
    refine ⟨fun asked member => ?_, fun all => ?_⟩
    · exact goes.receiving.delivered goes.room goes.few goes.fitting resting (goes.asks member)
    · have still : arrived (events ++ more) = stream payloads := by
        rw [Wire.Connection.arrived_append, Wire.Connection.arrived_own own, List.append_nil, all]
      show Option.map _ (describedSoFar _) = _
      rw [goes.described still resting, Option.map_some]
      exact congrArg Option.some (assemble_readable readable)
  · obtain ⟨id, request, asks, rfl⟩ :=
      describes.receiving.request_of_received describes.fitting member
    refine ⟨id, request, asks, rfl, fun question same => ?_⟩
    rw [same]
    exact question.ofBytes_payload id

end Connection

section Reversed

/-- An answer is quiet. -/
theorem quiet_of_isAnswer {number : Nat} {document : Json} {payload : List UInt8}
    (isAnswer : IsAnswer number document payload) (shallow : nesting document < greatestDepth) :
    Wire.Quiet payload := by
  -- A response is neither a request nor a notice, so nothing answers it.
  intro m said
  rw [Wire.ofPayload_answer isAnswer shallow, Except.ok.injEq] at said
  rw [← said]
  exact .inr ⟨rfl, by simp⟩

/-- The document that answers the first question about a source. -/
def compileDocument : Json := .object [("contents", .text "\x7b\x7d"), ("success", .bool true)]

/-- The document that answers the second question, with something in it that nobody asked for. -/
def metadataDocument : Json := .object [("hints", .list [.text "none"])]

/-- The document that answers the third question. -/
def graphDocument : Json := .object [("nodes", .list [])]

/-- What the three documents tell. -/
def plainDescription : Description := ⟨⟨true, some "\x7b\x7d", []⟩, ⟨[], []⟩, ⟨[]⟩⟩

/-- A notification, as it is written. -/
def logNote : List UInt8 :=
  Utf8.encode (Json.compact (.object [("method", .text "window/log"), ("params", .null)]))

/-- The answers in reversed order, with a notification among them. -/
def answersReversed : List (List UInt8) := [
  Wire.answerPayload 2 graphDocument, logNote, Wire.answerPayload 1 metadataDocument,
  Wire.answerPayload 0 compileDocument]

/-- The requests about a source are made, and enter the table. -/
def asking (file : Path) : List Wire.Event :=
  (Question.about file).map (fun question => .issue question.request) ++
    [.register 0, .register 1, .register 2]

/-- The answers arrive in two pieces. -/
def answering : List Wire.Event :=
  [.arrive ((stream answersReversed).take 100), .arrive ((stream answersReversed).drop 100)]

theorem isAnswer_compileDocument : IsAnswer 0 compileDocument (Wire.answerPayload 0 compileDocument) :=
  Wire.isAnswer_answerPayload (by decide) ⟨trivial, trivial, trivial⟩

theorem isAnswer_metadataDocument :
    IsAnswer 1 metadataDocument (Wire.answerPayload 1 metadataDocument) :=
  Wire.isAnswer_answerPayload (by decide) ⟨⟨trivial, trivial⟩, trivial⟩

theorem isAnswer_graphDocument : IsAnswer 2 graphDocument (Wire.answerPayload 2 graphDocument) :=
  Wire.isAnswer_answerPayload (by decide) ⟨trivial, trivial⟩

/-- The answers arrive without a fault, and nothing else is said but the notification. -/
theorem receiving_reversed :
    Receiving 64 (asking ⟨"main.bicep"⟩ ++ answering) answersReversed := by
  have silent : arrived (asking ⟨"main.bicep"⟩) = [] := rfl
  have note : Wire.Message.ofPayload logNote = .ok ⟨none, some "window/log", .null, none⟩ := by
    decide +kernel
  constructor
  · simp [asking, answering, Question.about, Wire.Event.IsSmooth]
  · rw [Wire.Connection.arrived_append, silent, List.nil_append]
    -- All bytes arrive behind the questions, in two pieces.
    have pieces : arrived answering = (stream answersReversed).take 100 ++
        (stream answersReversed).drop 100 := by
      simp [arrived, answering, Wire.Event.arrived]
    rw [pieces, List.take_append_drop]
  · decide +kernel
  · intro payload member
    simp only [answersReversed, List.mem_cons, List.not_mem_nil, or_false] at member
    rcases member with rfl | rfl | rfl | rfl
    · exact quiet_of_isAnswer isAnswer_graphDocument (by decide)
    · -- A notification has no id.
      intro m said
      rw [note, Except.ok.injEq] at said
      rw [← said]
      exact .inl rfl
    · exact quiet_of_isAnswer isAnswer_metadataDocument (by decide)
    · exact quiet_of_isAnswer isAnswer_compileDocument (by decide)

/-- The other side accepts the requests about the source. -/
theorem fitting_asking : Fitting ((start 64).run (asking ⟨"main.bicep"⟩ ++ answering)) := by
  intro id request asks
  obtain ⟨stage, found⟩ := Wire.Connection.stageOf?_of_requestOf? asks
  have three : ((start 64).run (asking ⟨"main.bicep"⟩ ++ answering)).calls.length = 3 := by
    decide +kernel
  have known : id < 3 := three ▸ Wire.Connection.lt_of_stageOf? found
  -- Only the three requests are made, each at its own place.
  have asked : (id, request) ∈ [(0, (Question.compile ⟨"main.bicep"⟩).request),
      (1, (Question.metadata ⟨"main.bicep"⟩).request), (2, (Question.graph ⟨"main.bicep"⟩).request)] := by
    match id, known with
    | 0, _ => rw [← Option.some.inj asks]; exact List.mem_cons_self
    | 1, _ => rw [← Option.some.inj asks]; exact .tail _ (.head _)
    | 2, _ => rw [← Option.some.inj asks]; exact .tail _ (.tail _ (.head _))
  have fits : ∀ asked ∈ [(0, (Question.compile ⟨"main.bicep"⟩).request),
      (1, (Question.metadata ⟨"main.bicep"⟩).request), (2, (Question.graph ⟨"main.bicep"⟩).request)],
      (asked.2.payload asked.1).length ≤ Wire.greatestPayload := by
    decide +kernel
  exact fits (id, request) asked

/-- A source that is described by answers in reversed order. -/
theorem describes_reversed :
    Describes 64 (asking ⟨"main.bicep"⟩ ++ answering) answersReversed ⟨"main.bicep"⟩ ⟨0, 1, 2⟩
      plainDescription := by
  -- The numbers are compared by what the payloads say, which is decided.
  have others {front : List (List UInt8)} {id : Nat}
      (none : ∀ other ∈ front, (responseIn? other).all (fun said => said.1 != numberAt id) = true) :
      ∀ other ∈ front, ∀ said, responseIn? other = some said → said.1 ≠ numberAt id := by
    intro other member said same
    have differs := none other member
    rw [same] at differs
    exact bne_iff_ne.mp differs
  have silent : arrived (asking ⟨"main.bicep"⟩) = [] := rfl
  have entered : ((start 64).run (asking ⟨"main.bicep"⟩)).stageOf? 0 = some .registered ∧
      ((start 64).run (asking ⟨"main.bicep"⟩)).stageOf? 1 = some .registered ∧
      ((start 64).run (asking ⟨"main.bicep"⟩)).stageOf? 2 = some .registered := by decide +kernel
  refine ⟨receiving_reversed, by decide, by decide +kernel, fitting_asking, ?_, ?_, ?_⟩
  -- Each answer comes behind the answers to later questions, none of which has its number.
  · refine ⟨compileDocument, ⟨_, rfl, ⟨some _, rfl, rfl⟩, ⟨some _, rfl, rfl⟩, none, rfl, rfl⟩, rfl,
      by decide, ?_⟩
    exact .of_entered [_, _, _] silent entered.1 (by decide)
      (others (by decide +kernel)) isAnswer_compileDocument
  · refine ⟨metadataDocument, ⟨_, rfl, ⟨none, rfl, rfl⟩, none, rfl, rfl⟩, rfl, by decide, ?_⟩
    exact .of_entered [_, _] silent entered.2.1 (by decide)
      (others (by decide +kernel)) isAnswer_metadataDocument
  · refine ⟨graphDocument, ⟨_, rfl, some _, rfl, _, rfl, .nil⟩, rfl, by decide, ?_⟩
    exact .of_entered [] silent entered.2.2 (by decide) (others (by decide +kernel))
      isAnswer_graphDocument

/-- The facts about a source are assembled from answers in reversed order that come in two pieces. -/
theorem assembled_from_reversed :
    let file : Path := ⟨"main.bicep"⟩
    let tree : FileTree := .directory [("main.bicep", .file [0x0A] ⟨0, 0⟩)]
    let disk : FileTree.Disk := .willing ⟨⟨"/"⟩, ⟨0, 0⟩⟩ 1
    let options : Generation.Options := ⟨⟨"/"⟩, none, .file, none, false⟩
    let context : FactsContext := Generation.contextOf options "0.31.92"
    let assembled := assembledSoFar disk options context file tree ⟨0, 1, 2⟩
    Comes (fun c =>
      (∀ asked ∈ [(0, Question.compile file), (1, .metadata file), (2, .graph file)],
        asked.2.request.payload asked.1 ∈ received c.delivered) ∧
      (arrived (asking file ++ answering) = stream answersReversed →
        assembled c = some (factsOf options context file plainDescription [0x0A] ⟨0, 0⟩)))
      ((start 64).run (asking file ++ answering)) := by
  -- The general theorem at a schedule whose answers come in the reverse order of the requests.
  intro file tree disk options context assembled
  have readable : tree.fileAt disk.setting.cwd file = .ok ([0x0A], ⟨0, 0⟩) := by decide +kernel
  exact (assembled_as_built describes_reversed readable).2.1

end Reversed

end TemplateFacts.Compiler
