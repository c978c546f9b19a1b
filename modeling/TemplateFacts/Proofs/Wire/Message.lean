import TemplateFacts.Proofs.Json.Compact
import TemplateFacts.Proofs.Json.Record
import TemplateFacts.Wire.Connection

/-!
Messages and their texts: a request says what it was made from, and an answer is taken as what it
says, in whatever order and among whatever other members it says it.
-/

namespace TemplateFacts.Wire

open Json (IsBlank Begins Closed Listed SpellsPair SpellsText Spells Leaves Once Known Takes Complete
  knownOf settle nesting greatestDepth)

section Requests

variable {number : Nat} {method : String} {params : Json}

/-- The document that a request is. -/
def requestDocument (number : Nat) (method : String) (params : Json) : Json :=
  .object [("id", .int number), ("jsonrpc", rulesVersion), ("method", .text method), ("params", params)]

/-- The payload of a request is read back as the request. -/
theorem ofBytes_requestPayload (small : (number : Int) ≤ Json.greatestInt)
    (exact : Json.IsExact params) (shallow : nesting params < greatestDepth) :
    Json.ofBytes (requestPayload number method params) =
      .ok (requestDocument number method (settle params)) := by
  have whole : Json.IsExact (.object [("jsonrpc", rulesVersion), ("id", .int number),
      ("method", .text method), ("params", params)]) :=
    ⟨trivial, ⟨Json.leastInt_le_natCast number, small⟩, trivial, exact, trivial⟩
  -- The object around the parameters is one level more.
  have depth : nesting (.object [("jsonrpc", rulesVersion), ("id", .int number),
      ("method", .text method), ("params", params)]) ≤ greatestDepth := by
    have flat : nesting (.object [("jsonrpc", rulesVersion), ("id", .int number),
      ("method", .text method), ("params", params)]) = nesting params + 1 := by
      simp [nesting, Json.nestingMembers, Json.nestingMember, rulesVersion]
    rw [flat]
    exact shallow
  -- The document keeps its members in order of their names: the id comes before the rules.
  have first : ("id" : String) < "jsonrpc" := by decide
  have second : ¬ ("method" : String) < "id" ∧ ¬ ("method" : String) < "jsonrpc" := by decide
  have sorted : settle (.object [("jsonrpc", rulesVersion), ("id", .int number),
      ("method", .text method), ("params", params)]) =
        requestDocument number method (settle params) := by
    simp only [settle, Json.settleMembers, Json.settleMember, Json.ofMembers, List.foldl_cons,
      List.foldl_nil, Json.putMember, first, second, if_true, if_false, requestDocument,
      rulesVersion]
    rfl
  rw [requestPayload, Json.ofBytes_compact whole depth, sorted]

end Requests

section Answers

/-- The names of the members of a message that are looked at. -/
def Message.fieldNames : List String := ["id", "method", "result", "error"]

/-- The bytes spell the value of a member of a message. Members of other names only need its form. -/
def Message.SpellsPart (name : String) (value : Json) (bytes : List UInt8) : Prop :=
  if name ∈ Message.fieldNames then Spells Leaves.strict value bytes
  else Spells Leaves.lenient value bytes

/-- The members of an answer: its id and its result, and neither method nor error. -/
structure AnswerMembers (number : Nat) (result : Json) (ms : List (String × Json)) : Prop where
  id : Once ms "id" (some (.int number))
  result : Once ms "result" (some result)
  method : Once ms "method" none ∨ Once ms "method" (some .null)
  error : Once ms "error" none ∨ Once ms "error" (some .null)

/-- The payload answers the request of a number with a result: an object with the members of an
answer, in any order and among any others. -/
def IsAnswer (number : Nat) (result : Json) (payload : List UInt8) : Prop :=
  ∃ ms before inside behind, AnswerMembers number result ms ∧ IsBlank before ∧
    Listed (SpellsPair SpellsText Message.SpellsPart) true ms inside ∧ IsBlank behind ∧
    payload = before ++ (0x7B :: (inside ++ 0x7D :: behind))

/-- The payload of an answer, as it is written. -/
def answerPayload (number : Nat) (result : Json) : List UInt8 :=
  Utf8.encode (Json.compact (.object [
    ("jsonrpc", rulesVersion), ("id", .int number), ("result", result)]))

/-- A written member of a message is spelled as it has to be: a text that is not looked at may say
anything. -/
theorem spellsPart_compactMember {m : String × Json} (exact : Json.IsExactMember m)
    (known : m.1 ∈ Message.fieldNames ∨ ∃ s, m.2 = .text s) :
    SpellsPair SpellsText Message.SpellsPart m (Json.encodeChars (Json.compactMember m)) := by
  obtain ⟨name, value⟩ := m
  obtain ⟨inName, colon, inside, text, isColon, spells, same⟩ :=
    Json.spells_compactMember (name, value) exact
  refine ⟨inName, colon, inside, text, isColon, ?_, same⟩
  unfold Message.SpellsPart
  split
  · exact spells
  · rename_i unknown
    rcases known with named | ⟨s, rfl⟩
    · exact absurd named unknown
    · -- A text that can be read is one that can be passed over.
      obtain ⟨body, spelled, rfl⟩ := spells
      exact ⟨body, spelled.passes, rfl⟩

/-- A written answer is one. -/
theorem isAnswer_answerPayload {number : Nat} {result : Json} (small : (number : Int) ≤ Json.greatestInt)
    (exact : Json.IsExact result) : IsAnswer number result (answerPayload number result) := by
  -- Its members are listed with commas and no blanks; the rules' version is passed over.
  have none : IsBlank [] := fun b member => by cases member
  have version := spellsPart_compactMember (m := ("jsonrpc", rulesVersion)) trivial (.inr ⟨"2.0", rfl⟩)
  have idKnown : "id" ∈ Message.fieldNames := by decide
  have resultKnown : "result" ∈ Message.fieldNames := by decide
  have id := spellsPart_compactMember (m := ("id", .int number))
    ⟨Json.leastInt_le_natCast number, small⟩ (.inl idKnown)
  have last := spellsPart_compactMember (m := ("result", result)) exact (.inl resultKnown)
  refine ⟨[("jsonrpc", rulesVersion), ("id", .int number), ("result", result)], [], _, [],
    ⟨rfl, rfl, .inl rfl, .inl rfl⟩, none,
    ⟨[], _, _, Json.lead_nil, version, ⟨[0x2C], _, _, Json.lead_comma, id,
      ⟨[0x2C], _, [], Json.lead_comma, last, none, rfl⟩, rfl⟩, rfl⟩, none, ?_⟩
  rw [answerPayload, Json.encode_compact]
  simp only [Json.compactChars, Json.compactMembers, Json.encodeChars_cons, Json.encodeChars_append,
    List.nil_append, List.append_nil, List.append_assoc]
  rfl

/-- The readers of the members of a message. -/
def Message.readers (budget : Nat) : List Json.FieldReader := Json.Shape.fieldReaders budget [
  ("id", .omitted, .any),
  ("method", .replaced .null, .optional .text),
  ("result", .replaced .null, .any),
  ("error", .replaced .null, .optional ErrorObject.shape)]

variable {budget number depth : Nat} {result : Json} {ms : List (String × Json)}
  {bytes blank rest : List UInt8} {position : Json.Position}

/-- The members of a message are those that are looked at. -/
theorem known_readers_iff {name : String} :
    Known (Message.readers budget) name = true ↔ name ∈ Message.fieldNames := by
  -- A name is known when one of the readers has it.
  have names : (Message.readers budget).map Prod.fst = Message.fieldNames := rfl
  rw [Known, Json.isSome_lookup, ← names, List.mem_map]

/-- A null is read where something may be missing. -/
theorem readOptional_null (read : Json.Reader) (isBlank : IsBlank blank) :
    Json.readOptional read depth ⟨blank ++ (0x6E :: Json.nullTail ++ rest), position⟩ =
      .ok (.null, ⟨rest, (position.afterAll blank).afterAll (0x6E :: Json.nullTail)⟩) := by
  -- Behind the blanks the first letter decides.
  rw [Json.readOptional, List.cons_append, Json.skipSpace_blank isBlank (Json.begins_cons (by decide))]
  simp only [BEq.rfl, if_true, Json.Cursor.next_cons, Json.readIdent_append, Except.map,
    Json.Position.afterAll_cons]

/-- What is given for the name of a member is its value. -/
theorem value_of_once {m : String × Json} {given : Option Json} (once : Once ms m.1 given)
    (member : m ∈ ms) : given = some m.2 := by
  -- The one value of that name is the member's own.
  have inside : m.2 ∈ (ms.filter fun n => n.1 == m.1).map Prod.snd :=
    List.mem_map_of_mem (List.mem_filter.mpr ⟨member, BEq.rfl⟩)
  rw [once, Option.mem_toList] at inside
  exact inside

/-- A document is read behind blanks. -/
theorem readValue_part {j : Json} (spells : Spells Leaves.strict j bytes) (shallow : nesting j ≤ depth)
    (within : bytes.length ≤ budget) (isBlank : IsBlank blank) (closed : Closed rest) :
    Json.readValue budget depth ⟨blank ++ (bytes ++ rest), position⟩ =
      .ok (settle j, ⟨rest, (position.afterAll blank).afterAll bytes⟩) := by
  -- The blanks are passed first, and then the value is read as it is spelt.
  have opens := Json.opens_spells (fun _ _ => Json.opens_strict) spells
  rw [Json.readValue_blank isBlank (opens.begins rest), Json.readValue_spells spells shallow within closed]

/-- A member that may be missing is read as the null that it is where it is there. -/
theorem readOptional_missing {m : String × Json} (member : m ∈ ms)
    (once : Once ms m.1 none ∨ Once ms m.1 (some .null)) (spells : Spells Leaves.strict m.2 bytes)
    (read : Json.Reader) (isBlank : IsBlank blank) :
    Json.readOptional read depth ⟨blank ++ (bytes ++ rest), position⟩ =
      .ok (settle m.2, ⟨rest, (position.afterAll blank).afterAll bytes⟩) := by
  -- Missing cannot be, as the member is there, so the value is `null`.
  rcases once with once | once
  · cases value_of_once once member
  · rw [← Option.some.inj (value_of_once once member)] at spells ⊢
    obtain rfl : bytes = 0x6E :: Json.nullTail := spells
    exact readOptional_null read isBlank

/-- The members of an answer are read, or passed over if they are none of a message. -/
theorem takes_answer (answer : AnswerMembers number result ms) (shallow : nesting result ≤ depth)
    (enough : bytes.length < budget) {m : String × Json} (member : m ∈ ms) :
    Takes budget depth bytes.length (Message.readers budget) Message.SpellsPart m := by
  constructor
  · intro absence read found blank inside rest position isBlank part within closed
    have shape : Message.readers budget = [("id", .omitted, Json.readValue budget),
      ("method", .replaced .null, Json.readOptional (Json.Shape.text.reader budget)),
      ("result", .replaced .null, Json.readValue budget),
      ("error", .replaced .null, Json.readOptional (ErrorObject.shape.reader budget))] := rfl
    have strict : Spells Leaves.strict m.2 inside := by
      have named : m.1 ∈ Message.fieldNames :=
        known_readers_iff.mp (Option.isSome_iff_exists.mpr ⟨_, found⟩)
      rwa [Message.SpellsPart, if_pos named] at part
    have known := Json.mem_of_lookup found
    rw [shape] at known
    simp only [List.mem_cons, Prod.mk.injEq, List.not_mem_nil, or_false] at known
    -- The id and the result are read as they are; a method or an error can only be null.
    rcases known with ⟨name, rfl, rfl⟩ | ⟨name, rfl, rfl⟩ | ⟨name, rfl, rfl⟩ | ⟨name, rfl, rfl⟩
    · have value := value_of_once (name ▸ answer.id) member
      have flat : nesting m.2 ≤ depth := by
        rw [← Option.some.inj value]
        exact Nat.zero_le _
      exact readValue_part strict flat (by omega) isBlank closed
    · exact readOptional_missing member (name ▸ answer.method) strict _ isBlank
    · have value := value_of_once (name ▸ answer.result) member
      have flat : nesting m.2 ≤ depth := by
        rw [← Option.some.inj value]
        exact shallow
      exact readValue_part strict flat (by omega) isBlank closed
    · exact readOptional_missing member (name ▸ answer.error) strict _ isBlank
  · intro unknown blank inside rest position isBlank part within closed
    -- A member of another name need not be one that can be read.
    have other : m.1 ∉ Message.fieldNames := by
      intro named
      have known : Known (Message.readers budget) m.1 = true := known_readers_iff.mpr named
      rw [Known, unknown] at known
      cases known
    rw [Message.SpellsPart, if_neg other] at part
    have opens := Json.opens_passes part
    have some : 0 < budget := by omega
    rw [Json.skipValue_blank budget isBlank (opens.begins rest) some,
      Json.skipValue_passes part (by omega) closed]

/-- All members that a message may have are given at most once. -/
theorem once_answer (answer : AnswerMembers number result ms) {name : String}
    (known : Known (Message.readers budget) name = true) : ∃ given, Once ms name given := by
  -- The four known names are the four that an answer speaks of.
  have named := known_readers_iff.mp known
  simp only [Message.fieldNames, List.mem_cons, List.not_mem_nil, or_false] at named
  rcases named with rfl | rfl | rfl | rfl
  · exact ⟨_, answer.id⟩
  · exact answer.method.elim (fun once => ⟨_, once⟩) fun once => ⟨_, once⟩
  · exact ⟨_, answer.result⟩
  · exact answer.error.elim (fun once => ⟨_, once⟩) fun once => ⟨_, once⟩

/-- An answer gives all that a message has, or leaves it out. -/
theorem complete_answer (answer : AnswerMembers number result ms) :
    List.Forall₂ (Complete (knownOf (Message.readers budget) ms)) (Message.readers budget)
      [("id", .int number), ("method", .null), ("result", settle result), ("error", .null)] := by
  -- What is given is kept once it is settled, and what is not given is left out or null.
  have given {name : String} {value : Json} (known : Known (Message.readers budget) name = true)
      (once : Once ms name (some value)) :
      (knownOf (Message.readers budget) ms).lookup name = some (settle value) :=
    Json.lookup_knownOf known once
  have missing {name : String} (known : Known (Message.readers budget) name = true)
      (once : Once ms name none ∨ Once ms name (some .null)) :
      (knownOf (Message.readers budget) ms).lookup name = some .null ∨
        (knownOf (Message.readers budget) ms).lookup name = none := by
    rcases once with once | once
    · exact .inr (Json.lookup_knownOf known once)
    · exact .inl (given known once)
  refine .cons ⟨rfl, .inl (given rfl answer.id)⟩ (.cons ⟨rfl, ?_⟩
    (.cons ⟨rfl, .inl (given rfl answer.result)⟩ (.cons ⟨rfl, ?_⟩ .nil)))
  · exact (missing rfl answer.method).imp id fun absent => ⟨absent, rfl⟩
  · exact (missing rfl answer.error).imp id fun absent => ⟨absent, rfl⟩

/-- An answer is taken as a message with its id and its result. -/
theorem ofPayload_answer {payload : List UInt8} (answer : IsAnswer number result payload)
    (shallow : nesting result < greatestDepth) :
    Message.ofPayload payload = .ok ⟨some (.int number), none, settle result, none⟩ := by
  obtain ⟨ms, before, inside, behind, members, isBlank, listed, isBlank', rfl⟩ := answer
  generalize whole : before ++ (0x7B :: (inside ++ 0x7D :: behind)) = payload
  have enough : inside.length < Json.budgetFor payload := by
    rw [← whole]
    simp only [Json.budgetFor, List.length_append, List.length_cons]
    omega
  have begins : Begins (0x7B :: (inside ++ 0x7D :: behind)) := Json.begins_cons (by decide)
  have depth : nesting result ≤ 126 := Nat.le_of_lt_succ shallow
  -- The brace takes one from the depth.
  have read : Message.shape.ofBytes payload = .ok (.object
      [("id", .int number), ("method", .null), ("result", settle result), ("error", .null)]) := by
    show Json.finish (Json.readRecord (Json.budgetFor payload) "IncomingMessage"
      (Message.readers (Json.budgetFor payload)) 127 (Json.Cursor.ofBytes payload)) = _
    rw [← whole, Json.Cursor.ofBytes, Json.readRecord_blank isBlank begins, whole,
      Json.readRecord_listed "IncomingMessage" listed
        (fun m member => takes_answer members depth enough member)
        (fun name known => once_answer members known) enough (complete_answer members),
      Json.finish_blank isBlank']
  rw [Message.ofPayload, read]
  rfl

/-- An answer is the response to the request of its number. -/
theorem responseOf?_answer {payload : List UInt8} (answer : IsAnswer number result payload)
    (shallow : nesting result < greatestDepth) :
    ∃ m, Message.ofPayload payload = .ok m ∧
      Connection.responseOf? m = some (number, .result (settle result)) := by
  -- The message has a number and a result and no method, which makes it a response.
  refine ⟨_, ofPayload_answer answer shallow, ?_⟩
  have number? : Connection.numberOf? (.int number) = some number := by
    simp only [Connection.numberOf?, Int.natCast_nonneg, if_true, Int.toNat_natCast]
  simp only [Connection.responseOf?, number?, Option.map_some]

end Answers

end TemplateFacts.Wire
