import TemplateFacts.Proofs.Json.WrittenShape
import TemplateFacts.Proofs.Wire.Ending

/-!
Legible responses: a payload is read as a whole message before its number is looked at, so that a
response of which any part cannot be read finds nobody, and the request that it answers waits on.
-/

namespace TemplateFacts.Wire

open Json (Written IsBlank)
open Json.Written (nameOf gift given)

/-- A null as it is written. -/
def nullToken : Written := .scalar (0x6E :: Json.nullTail)

/-- What is read of the parts of an error. -/
def ErrorObject.fields (depth : Nat) : List Json.WrittenField := [
  ("code", .refused, Written.integer),
  ("message", .refused, Written.text),
  ("data", .replaced .null, Written.optional fun w => w.value depth)]

/-- What is read of the parts of a message, which nest one level less than the message may. -/
def Message.fields : List Json.WrittenField := [
  ("id", .omitted, fun w => w.value 126),
  ("method", .replaced .null, Written.optional Written.text),
  ("result", .replaced .null, fun w => w.value 126),
  ("error", .replaced .null, Written.optional (Written.record (ErrorObject.fields 125)))]

section Payload

/-- What is read of a payload is what its tree says. -/
theorem ofPayload_written {w : Written} {before bytes behind : List UInt8} (isBlank : IsBlank before)
    (renders : w.Renders bytes) (isBlank' : IsBlank behind) :
    (Message.ofPayload (before ++ (bytes ++ behind))).toOption =
      (w.record Message.fields).map Message.ofRecord := by
  -- Each field is understood by what reads it, those of an error inside those of the message.
  generalize whole : before ++ (bytes ++ behind) = payload
  have enough : bytes.length ≤ Json.budgetFor payload := by
    rw [← whole, Json.budgetFor, List.length_append, List.length_append]
    omega
  have error : List.Forall₂ (Json.UnderstandsField bytes.length 125)
      (Json.Shape.fieldReaders (Json.budgetFor payload) [
        ("code", .refused, .integer),
        ("message", .refused, .text),
        ("data", .replaced .null, .optional .any)]) (ErrorObject.fields 125) :=
    .cons ⟨rfl, rfl, Json.understands_integer (Json.budgetFor payload) 125⟩
      (.cons ⟨rfl, rfl, Json.understands_text (Json.budgetFor payload) 125⟩
        (.cons ⟨rfl, rfl, Json.understands_optional (Json.understands_any 125 enough)⟩ .nil))
  have understands : List.Forall₂ (Json.UnderstandsField bytes.length 126)
      (Json.Shape.fieldReaders (Json.budgetFor payload) [
        ("id", .omitted, .any),
        ("method", .replaced .null, .optional .text),
        ("result", .replaced .null, .any),
        ("error", .replaced .null, .optional ErrorObject.shape)]) Message.fields :=
    .cons ⟨rfl, rfl, Json.understands_any 126 enough⟩
      (.cons ⟨rfl, rfl, Json.understands_optional (Json.understands_text (Json.budgetFor payload) 126)⟩
        (.cons ⟨rfl, rfl, Json.understands_any 126 enough⟩
          (.cons ⟨rfl, rfl, Json.understands_optional
            (Json.understands_record "ErrorObject" error enough)⟩ .nil)))
  -- What the fields understand, the reader of the record answers.
  have answers := Json.readRecord_answers "IncomingMessage" behind
    ((⟨1, 0⟩ : Json.Position).afterAll before) understands renders enough
  rw [← Json.readRecord_blank isBlank (renders.opens.begins behind), whole] at answers
  have read : (Message.shape.ofBytes payload).toOption = w.record Message.fields :=
    Json.finish_answers answers isBlank'
  rw [Message.ofPayload, ← read]
  cases Message.shape.ofBytes payload <;> rfl

end Payload

section Legible

/-- An error that can be read: an object in braces that says its parts, or the list of them. -/
def IsError : Written → Prop
  | .scalar _ => False
  | .list parts => ∃ code message data, parts = code :: message :: data ∧ data.length ≤ 1 ∧
      code.integer.isSome = true ∧ message.text.isSome = true ∧
      ∀ w ∈ data, (w.value 125).isSome = true
  | .object parts =>
    (∀ m ∈ parts, (nameOf m).isSome = true) ∧
    ((parts.filterMap nameOf).filter (· ∈ ["code", "message", "data"])).Nodup ∧
    (∃ m ∈ parts, nameOf m = some "code") ∧ (∃ m ∈ parts, nameOf m = some "message") ∧
    ∀ m ∈ parts, (nameOf m = some "code" → m.2.integer.isSome = true) ∧
      (nameOf m = some "message" → m.2.text.isSome = true) ∧
      (nameOf m = some "data" → (m.2.value 125).isSome = true)

/-- A response of which every part can be read that is looked at. -/
structure Legible (members : List (List UInt8 × Written)) : Prop where
  names : ∀ m ∈ members, (nameOf m).isSome = true
  result : ∀ m ∈ members, nameOf m = some "result" → (m.2.value 126).isSome = true
  error : ∀ m ∈ members, nameOf m = some "error" → m.2 = nullToken ∨ IsError m.2

/-- The members of a response to the request of a number: no name comes twice, there is an id and it
is the number, and there is no method. -/
structure IsResponse (number : Nat) (members : List (List UInt8 × Written)) : Prop where
  distinct : (members.filterMap nameOf).Nodup
  id : ∃ m ∈ members, nameOf m = some "id"
  isNumber : ∀ m ∈ members, nameOf m = some "id" → m.2.value 126 = some (.int number)
  noMethod : ∀ m ∈ members, nameOf m ≠ some "method"

/-- What may be null is read when it is null, or when it is read as what it else must be. -/
theorem isSome_optional {value : Written → Option Json} {w : Written} :
    (Written.optional value w).isSome = true ↔ w = nullToken ∨ (value w).isSome = true := by
  -- `null` stands for no value, and everything else must be one.
  cases w with
  | scalar token =>
    rw [Written.optional, nullToken, Written.scalar.injEq]
    split
    · rename_i null
      simp [null]
    · rename_i other
      simp [other]
  | list xs => simp [Written.optional, nullToken]
  | object ms => simp [Written.optional, nullToken]

/-- A null says a document, however deep it stands. -/
theorem value_nullToken (depth : Nat) : nullToken.value depth = some .null := by
  rw [nullToken, Written.value]
  decide

theorem lookup_errorFields (name : String) : (ErrorObject.fields 125).lookup name =
    if name = "code" then some (.refused, Written.integer)
    else if name = "message" then some (.refused, Written.text)
    else if name = "data" then some (.replaced .null, Written.optional fun w => w.value 125)
    else none := by
  -- The three names are compared one after the other.
  rw [ErrorObject.fields, Json.lookup_cons, Json.lookup_cons, Json.lookup_cons, List.lookup_nil]

theorem lookup_messageFields (name : String) : Message.fields.lookup name =
    if name = "id" then some (.omitted, fun w => w.value 126)
    else if name = "method" then some (.replaced .null, Written.optional Written.text)
    else if name = "result" then some (.replaced .null, fun w => w.value 126)
    else if name = "error" then
      some (.replaced .null, Written.optional (Written.record (ErrorObject.fields 125)))
    else none := by
  -- The four names are compared one after the other.
  rw [Message.fields, Json.lookup_cons, Json.lookup_cons, Json.lookup_cons, Json.lookup_cons,
    List.lookup_nil]

/-- A document that may be null is one in any case. -/
theorem isSome_optional_value {w : Written} {depth : Nat} :
    (Written.optional (fun w => w.value depth) w).isSome = true ↔ (w.value depth).isSome = true := by
  -- `null` is a value in any case, so being allowed to be missing adds nothing.
  rw [isSome_optional, or_iff_right_iff_imp]
  rintro rfl
  rw [value_nullToken]
  rfl

/-- A member of an error is taken when its name can be read, and what it says of a part. -/
theorem isSome_gift_error {m : List UInt8 × Written} :
    (gift (ErrorObject.fields 125) m).isSome = true ↔
      (nameOf m).isSome = true ∧ (nameOf m = some "code" → m.2.integer.isSome = true) ∧
        (nameOf m = some "message" → m.2.text.isSome = true) ∧
        (nameOf m = some "data" → (m.2.value 125).isSome = true) := by
  -- A name is that of one of the three parts, or of none of them.
  rw [Written.isSome_gift]
  cases nameOf m with
  | none => simp
  | some name =>
    simp only [Option.some.injEq, exists_eq_left', lookup_errorFields, Option.isSome_some, true_and]
    by_cases code : name = "code"
    · simp [code]
    · by_cases message : name = "message"
      · simp [message]
      · by_cases data : name = "data"
        · simp [data, isSome_optional_value]
        · simp [code, message, data]

/-- An error is read exactly when it can be. -/
theorem isError_iff {w : Written} :
    IsError w ↔ (w.record (ErrorObject.fields 125)).isSome = true := by
  cases w with
  | scalar token => simp [IsError, Written.record]
  | list parts =>
    rw [IsError, Written.record, Option.isSome_map]
    -- A list is read part by part, and three parts are the most.
    rcases parts with _ | ⟨code, _ | ⟨message, _ | ⟨data, _ | ⟨more, rest⟩⟩⟩⟩
    · simp [ErrorObject.fields, Written.takeInOrder]
    · rw [ErrorObject.fields, Written.isSome_takeInOrder_cons]
      simp [Written.takeInOrder]
    · rw [ErrorObject.fields, Written.isSome_takeInOrder_cons, Written.isSome_takeInOrder_cons]
      simp [Written.takeInOrder]
    · rw [ErrorObject.fields, Written.isSome_takeInOrder_cons, Written.isSome_takeInOrder_cons,
        Written.isSome_takeInOrder_cons, isSome_optional_value]
      simp [Written.takeInOrder]
    · -- A fourth part is one too many.
      rw [ErrorObject.fields, Written.isSome_takeInOrder_cons, Written.isSome_takeInOrder_cons,
        Written.isSome_takeInOrder_cons]
      simp [Written.takeInOrder]
  | object parts =>
    -- Only the three names are known, and two of them must be there.
    have names : (fun name => ((ErrorObject.fields 125).lookup name).isSome) =
        fun name => decide (name ∈ ["code", "message", "data"]) := by
      funext name
      rw [lookup_errorFields]
      split
      · rename_i code
        simp [code]
      · split
        · rename_i message
          simp [message]
        · split <;> simp_all
    have refused : (∀ field ∈ ErrorObject.fields 125, field.2.1 = .refused →
        ∃ m ∈ parts, nameOf m = some field.1) ↔
          (∃ m ∈ parts, nameOf m = some "code") ∧ ∃ m ∈ parts, nameOf m = some "message" := by
      simp [ErrorObject.fields]
    -- What a member says then depends on its name alone.
    rw [Written.isSome_record_object (by decide), names, refused, IsError]
    simp only [isSome_gift_error, forall_and, and_assoc]
    tauto

/-- A member of a message is taken when its name can be read, and what it says of a part. -/
theorem isSome_gift_message {m : List UInt8 × Written} :
    (gift Message.fields m).isSome = true ↔
      (nameOf m).isSome = true ∧ (nameOf m = some "id" → (m.2.value 126).isSome = true) ∧
        (nameOf m = some "method" → m.2 = nullToken ∨ m.2.text.isSome = true) ∧
        (nameOf m = some "result" → (m.2.value 126).isSome = true) ∧
        (nameOf m = some "error" → m.2 = nullToken ∨ IsError m.2) := by
  -- A name is that of one of the four parts, or of none of them.
  rw [Written.isSome_gift]
  cases nameOf m with
  | none => simp
  | some name =>
    simp only [Option.some.injEq, exists_eq_left', lookup_messageFields, Option.isSome_some, true_and]
    by_cases id : name = "id"
    · simp [id]
    · by_cases method : name = "method"
      · simp [method, isSome_optional]
      · by_cases result : name = "result"
        · simp [result]
        · by_cases error : name = "error"
          · simp [error, isSome_optional, isError_iff]
          · simp [id, method, result, error]

/-- A response is read exactly when it is legible. -/
theorem legible_iff {number : Nat} {members : List (List UInt8 × Written)}
    (response : IsResponse number members) :
    Legible members ↔ ((Written.object members).record Message.fields).isSome = true := by
  -- Nothing must be there, and no name comes twice.
  have refused : ∀ field ∈ Message.fields, field.2.1 = .refused →
      ∃ m ∈ members, nameOf m = some field.1 := by
    simp [Message.fields]
  rw [Written.isSome_record_object (by decide), and_iff_left refused,
    and_iff_left (response.distinct.filter _)]
  constructor
  · -- What is known of each member of a response is enough for its field.
    intro legible m member
    refine isSome_gift_message.mpr ⟨legible.names m member, fun id => ?_,
      fun method => absurd method (response.noMethod m member), legible.result m member,
      legible.error m member⟩
    rw [response.isNumber m member id]
    rfl
  · intro taken
    have each (m : List UInt8 × Written) (member : m ∈ members) :=
      isSome_gift_message.mp (taken m member)
    exact ⟨fun m member => (each m member).1, fun m member => (each m member).2.2.2.1,
      fun m member => (each m member).2.2.2.2⟩

/-- A legible response is taken as a response to the request of its number. -/
theorem responseOf?_legible {number : Nat} {members : List (List UInt8 × Written)}
    (response : IsResponse number members) {j : Json}
    (reads : (Written.object members).record Message.fields = some j) :
    ∃ reply, Connection.responseOf? (Message.ofRecord j) = some (number, reply) ∧ reply.IsAnswer := by
  obtain ⟨taken, distinct, values, complete, rfl⟩ := Written.record_object.mp reads
  -- The number and the missing method tell that it is a response.
  have fields : (Message.fields.map Prod.fst).Nodup := by decide
  have id : (given Message.fields members).lookup "id" = some (.int number) := by
    obtain ⟨m, member, named⟩ := response.id
    have gives : gift Message.fields m = some (some ("id", .int number)) :=
      Written.gift_eq_some.mpr ⟨named, _, _, rfl, response.isNumber m member named⟩
    exact Json.lookup_of_mem distinct (Written.mem_given.mpr ⟨m, member, gives⟩)
  have method : (given Message.fields members).lookup "method" = none := by
    rw [← Option.not_isSome_iff_eq_none, Written.isSome_lookup_given taken distinct rfl]
    rintro ⟨m, member, named⟩
    exact response.noMethod m member named
  -- The number is kept, and so is the absence of a method.
  have idRead : (Message.ofRecord (.object values)).id = some (.int number) := by
    have own := Json.lookup_completeRecord complete fields
      (List.mem_cons_self : ("id", .omitted, fun w => w.value 126) ∈ Message.fields)
    rw [id, Option.some_or] at own
    exact own
  have methodRead : (Message.ofRecord (.object values)).method = none := by
    have own := Json.lookup_completeRecord complete fields
      (List.mem_cons_of_mem _ List.mem_cons_self :
        ("method", .replaced .null, Written.optional Written.text) ∈ Message.fields)
    rw [method, Option.none_or] at own
    show (values.lookup "method").bind Json.asText? = none
    rw [own]
    rfl
  have number? : Connection.numberOf? (.int number) = some number := by
    simp only [Connection.numberOf?, Int.natCast_nonneg, if_true, Int.toNat_natCast]
  simp only [Connection.responseOf?, idRead, methodRead, number?, Option.map_some]
  cases (Message.ofRecord (.object values)).error with
  | none => exact ⟨_, rfl, trivial⟩
  | some e => exact ⟨_, rfl, trivial⟩

end Legible

namespace Connection

/--
A response reaches the request that it answers exactly when it is legible. Then the request waits no
more, and has for good what the response says. Else the frame is dropped, nothing else is changed, and
the request waits on.
-/
theorem settled_iff_legible (capacity : Nat) (events : List Event) {id : Nat}
    {members : List (List UInt8 × Written)} {before bytes behind rest : List UInt8}
    (response : IsResponse (numberAt id) members) (isBlank : IsBlank before)
    (renders : (Written.object members).Renders bytes) (isBlank' : IsBlank behind)
    (reading : ((start capacity).run events).reader = .reading)
    (frame : readFrame ((start capacity).run events).inboundEnded
      ((start capacity).run events).inbound = .frame (before ++ (bytes ++ behind)) rest)
    (waits : id ∈ ((start capacity).run events).table.waiters) :
    let c := (start capacity).run events
    (id ∉ (c.step .read).table.waiters ↔ Legible members) ∧
    (Legible members → ∃ reply, reply.IsAnswer ∧ (c.step .read).Settled id reply) ∧
    (¬ Legible members → c.step .read = { c with inbound := rest }) := by
  -- A legible response is read as a message and settles its caller; an illegible one is dropped where
  -- it is read.
  intro c
  have orderly : Orderly c := (Orderly.start capacity).run events
  have accounted : Accounted c := (Accounted.start capacity).run (.start capacity) events
  have reading : c.reader = .reading := reading
  have frame : readFrame c.inboundEnded c.inbound = .frame (before ++ (bytes ++ behind)) rest := frame
  have read := ofPayload_written isBlank renders isBlank'
  have settles (legible : Legible members) :
      ∃ reply, reply.IsAnswer ∧ (c.step .read).Settled id reply := by
    obtain ⟨j, record⟩ := Option.isSome_iff_exists.mp ((legible_iff response).mp legible)
    obtain ⟨reply, told, isAnswer⟩ := responseOf?_legible response record
    rw [record, Option.map_some] at read
    have taken : c.response? .read = some (numberAt id, reply) := by
      simp only [response?, message?, taken?, reading, frame, Option.bind_some, read, told]
    have brings := brought_of_response taken
    have picked : (c.brought .read).1 id = true := by
      rw [brings]
      exact beq_self_eq_true _
    have settled : (c.step .read).Settled id (c.brought .read).2 :=
      settled_step accounted orderly waits picked fun stage found => (stageOf?_read c id).trans found
    rw [brings] at settled
    exact ⟨reply, isAnswer, settled⟩
  have drops (illegible : ¬ Legible members) : c.step .read = { c with inbound := rest } := by
    rw [legible_iff response, Option.not_isSome_iff_eq_none] at illegible
    rw [illegible] at read
    cases parsed : Message.ofPayload (before ++ (bytes ++ behind)) with
    | ok m => rw [parsed] at read; cases read
    | error fault => simp only [step, Connection.read, reading, frame, takePayload, parsed]
  refine ⟨⟨fun away => ?_, fun legible => ?_⟩, settles, drops⟩
  · by_contra illegible
    rw [drops illegible] at away
    exact away waits
  · obtain ⟨reply, _, settled⟩ := settles legible
    exact settled.away []

/-- A text behind its opening quote, where nothing in it needs to be escaped. -/
def quoted (s : String) : List UInt8 := Utf8.encode s ++ [0x22]

/-- An error response whose code is written with a fraction. -/
def floatCode : List (List UInt8 × Written) := [
  (quoted "id", .scalar [0x30]),
  (quoted "error", .object [
    (quoted "code", .scalar (Utf8.encode "-32000.0")),
    (quoted "message", .scalar (0x22 :: quoted "File not found"))])]

/-- The error response as it is sent. -/
def floatCodeText : List UInt8 :=
  Utf8.encode "\x7b\"id\":0,\"error\":\x7b\"code\":-32000.0,\"message\":\"File not found\"\x7d\x7d"

/-- A run in which a request is written and answered by the error response. -/
def floatCodeRun : List Event :=
  [.issue ⟨"bicep/compile", .null, .any⟩, .register 0, .queue 0, .grant, .write 4096,
    .arrive (writeFrame floatCodeText)]

instance (b : UInt8) : Decidable (Json.StandsAlone b) := inferInstanceAs (Decidable (_ ∧ _ ∧ _))

theorem floatCode_renders : (Written.object floatCode).Renders floatCodeText := by
  -- The text is taken apart token by token, as the rendering asks.
  have text {s : String} (alone : ∀ b ∈ Utf8.encode s, Json.StandsAlone b) :
      Json.PassesText (quoted s) := .alone alone .close
  have none : IsBlank [] := Json.lead_nil
  have colon : Json.Colon [0x3A] := ⟨[], [], none, none, rfl⟩
  have zero : Json.IsScalar [0x30] := .inr (.inr (.inr (.inl ⟨false, _, _, rfl, rfl⟩)))
  have code : Json.IsScalar (Utf8.encode "-32000.0") :=
    .inr (.inr (.inr (.inl ⟨true, Utf8.encode "32000.0", _, by decide, rfl⟩)))
  have message : Json.IsScalar (0x22 :: quoted "File not found") :=
    .inr (.inr (.inr (.inr ⟨_, text (by decide +kernel), rfl⟩)))
  refine ⟨_, ⟨[], _, _, Json.lead_nil, ⟨[0x3A], [0x30], text (by decide +kernel), colon, ⟨zero, rfl⟩, rfl⟩,
    ⟨[0x2C], _, [], Json.lead_comma, ⟨[0x3A], _, text (by decide +kernel), colon,
      ⟨_, ⟨[], _, _, Json.lead_nil, ⟨[0x3A], _, text (by decide +kernel), colon, ⟨code, rfl⟩, rfl⟩,
        ⟨[0x2C], _, [], Json.lead_comma, ⟨[0x3A], _, text (by decide +kernel), colon, ⟨message, rfl⟩, rfl⟩,
          none, rfl⟩, rfl⟩, rfl⟩, rfl⟩, none, rfl⟩, rfl⟩, ?_⟩
  decide

theorem floatCode_isResponse : IsResponse (numberAt 0) floatCode := by
  -- The names are read and compared by evaluation.
  constructor <;> decide

/-- The error response is not legible, as no integer stands where its code must stand. -/
theorem floatCode_illegible : ¬ Legible floatCode := by
  -- The code is a fraction, and an error needs an integer.
  intro legible
  rcases legible.error _ (List.mem_cons_of_mem _ List.mem_cons_self) (by decide) with null | isError
  · cases null
  · have code := (isError.2.2.2.2 _ List.mem_cons_self).1 (by decide)
    exact absurd code (by decide)

/-- The request waits for the response, which is the first frame that has arrived. -/
theorem floatCode_arrived : ((start 4096).run floatCodeRun).reader = .reading ∧
    readFrame ((start 4096).run floatCodeRun).inboundEnded ((start 4096).run floatCodeRun).inbound =
      .frame floatCodeText [] ∧
    0 ∈ ((start 4096).run floatCodeRun).table.waiters := by
  -- The run is short enough to be evaluated.
  decide +kernel

/-- A response with the number of a waiting request leaves it waiting when its code has a fraction. -/
theorem response_lost_to_fraction :
    let c := (start 4096).run floatCodeRun
    c.reader = .reading ∧ 0 ∈ c.table.waiters ∧
      readFrame c.inboundEnded c.inbound = .frame floatCodeText [] ∧
      (Written.object floatCode).Renders floatCodeText ∧ IsResponse (numberAt 0) floatCode ∧
      0 ∈ (c.step .read).table.waiters ∧ (c.step .read).inbound = [] := by
  -- The run is evaluated up to the frame and one step behind it.
  have left : 0 ∈ (((start 4096).run floatCodeRun).step .read).table.waiters ∧
      (((start 4096).run floatCodeRun).step .read).inbound = [] := by
    decide +kernel
  exact ⟨floatCode_arrived.1, floatCode_arrived.2.2, floatCode_arrived.2.1, floatCode_renders,
    floatCode_isResponse, left⟩

/-- The frame of the error response is dropped, and nothing else is changed. -/
theorem settled_iff_legible_fraction :
    let c := (start 4096).run floatCodeRun
    (c.reader = .reading ∧ readFrame c.inboundEnded c.inbound = .frame ([] ++ (floatCodeText ++ [])) [] ∧
      0 ∈ c.table.waiters ∧ (Written.object floatCode).Renders floatCodeText ∧
      IsResponse (numberAt 0) floatCode ∧ ¬ Legible floatCode) ∧
    c.step .read = { c with inbound := [] } := by
  -- The response is complete but for its code, so the step drops it.
  have none : IsBlank [] := Json.lead_nil
  obtain ⟨reading, frame, waits⟩ := floatCode_arrived
  have frame' : readFrame ((start 4096).run floatCodeRun).inboundEnded
      ((start 4096).run floatCodeRun).inbound = .frame ([] ++ (floatCodeText ++ [])) [] := by
    rw [List.nil_append, List.append_nil, frame]
  exact ⟨⟨reading, frame', waits, floatCode_renders, floatCode_isResponse, floatCode_illegible⟩,
    (settled_iff_legible 4096 floatCodeRun floatCode_isResponse none floatCode_renders none reading
      frame' waits).2.2 floatCode_illegible⟩

end Connection

end TemplateFacts.Wire
