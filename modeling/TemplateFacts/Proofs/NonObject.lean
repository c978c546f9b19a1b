import TemplateFacts.Proofs.Facts.ReorderedTemplate
import TemplateFacts.Proofs.Wire.Legible
import TemplateFacts.Proofs.Wire.Noise

/-!
Documents whose root is no object: a scalar is neither a template nor a message, and a list is one
only when its items are the parts of one, in the order in which they are declared. A message that is
given so makes a difference exactly when one in braces with the same parts would.
-/

namespace TemplateFacts.Wire

open Json (Written IsBlank)

namespace Message

variable {parts : List Written}

/-- The items of a list can be read as the parts of a message, in their order. -/
structure InOrder (parts : List Written) : Prop where
  short : parts.length ≤ 4
  id : ∀ w ∈ parts[0]?, (w.value 126).isSome = true
  method : ∀ w ∈ parts[1]?, w = nullToken ∨ w.text.isSome = true
  result : ∀ w ∈ parts[2]?, (w.value 126).isSome = true
  error : ∀ w ∈ parts[3]?, w = nullToken ∨ IsError w

/-- The id that stands first in a list, even if it is null. -/
def idOf (parts : List Written) : Option Json := parts[0]?.bind fun w => w.value 126

/-- The method that stands second in a list, unless it is null. -/
def methodOf (parts : List Written) : Option String :=
  parts[1]?.bind fun w => w.text.bind Json.asText?

/-- A list is a message exactly when its items are the parts of one. -/
theorem inOrder_iff :
    InOrder parts ↔ ((Written.list parts).record Message.fields).isSome = true := by
  -- One clause for each of the four fields, and one for the length.
  rw [Written.record, Option.isSome_map, Written.isSome_takeInOrder]
  simp only [Message.fields, Written.forall_getElem?_cons, Written.Fits, List.getElem?_nil, reduceCtorEq,
    false_implies, implies_true, and_true, List.length_cons, List.length_nil, isSome_optional, ← isError_iff,
    ne_eq, not_false_eq_true]
  constructor
  · rintro ⟨short, id, method, result, error⟩
    exact ⟨short, id, method, result, error⟩
  · rintro ⟨short, id, method, result, error⟩
    exact ⟨short, id, method, result, error⟩

/-- A method that may be null is the text that it is, if it is one. -/
theorem bind_asText_optional (w : Written) :
    (Written.optional Written.text w).bind Json.asText? = w.text.bind Json.asText? := by
  -- `null` is no text under either reading.
  cases w with
  | scalar token =>
    rw [Written.optional]
    split
    · rename_i null
      subst null
      rfl
    · rfl
  | list xs => rfl
  | object ms => rfl

/-- What is read of a list as a message has the id and the method that stand in it. -/
theorem ofRecord_list {j : Json} (reads : (Written.list parts).record Message.fields = some j) :
    (Message.ofRecord j).id = idOf parts ∧ (Message.ofRecord j).method = methodOf parts := by
  obtain ⟨values, taken, rfl⟩ := Option.map_eq_some_iff.mp reads
  -- The id stands first and the method second; where there is none, it is as if it were left out.
  have held := Written.lookup_takeInOrder (by decide) taken
  have id : values.lookup "id" = (parts[0]?).elim none fun w => w.value 126 := held 0 _ rfl
  have method : values.lookup "method" =
      (parts[1]?).elim (some .null) (Written.optional Written.text) := held 1 _ rfl
  constructor
  · show values.lookup "id" = _
    rw [id, idOf]
    cases parts[0]? <;> rfl
  · show (values.lookup "method").bind Json.asText? = _
    rw [method, methodOf]
    cases parts[1]? with
    | none => rfl
    | some w => exact bind_asText_optional w

end Message

namespace Connection

variable {c : Connection}

/-- A message with an id and a method makes a difference to a connection in three cases. -/
inductive Heeds (c : Connection) : Option Json → Option String → Prop where
  /-- It asks for an answer. -/
  | asked (id : Json) (method : String) : c.Heeds (some id) (some method)
  /-- It answers nobody by name while somebody waits. -/
  | rejected (waits : c.table.waiters ≠ []) : c.Heeds (some .null) none
  /-- It answers a request that waits. -/
  | answered (id : Nat) (waits : id ∈ c.table.waiters) : c.Heeds (some (.int (numberAt id))) none

/-- Only integers that are not negative are numbers. -/
theorem numberOf?_eq_some {id : Json} {number : Nat} :
    numberOf? id = some number ↔ id = .int number := by
  -- Only an integer that is not negative is a number.
  cases id with
  | int n =>
    rw [numberOf?, Json.int.injEq]
    split <;> simp <;> omega
  | _ => simp [numberOf?]

/-- A reader that takes a message goes on with the same connection unless the message is heeded. -/
theorem takeMessage_eq_self_iff (reading : c.reader = .reading) (m : Message) :
    c.takeMessage m = c ↔ ¬ c.Heeds m.id m.method := by
  -- A message that is heeded shows in what the reader does next, or in who still waits.
  constructor
  · intro same heeded
    generalize isId : m.id = id at heeded
    generalize isMethod : m.method = method at heeded
    cases heeded with
    | asked id method =>
      have reader := congrArg Connection.reader same
      rw [reading] at reader
      simp only [takeMessage, isId, isMethod] at reader
      cases reader
    | rejected waits =>
      refine waits (List.eq_nil_iff_forall_not_mem.mpr fun id member => ?_)
      rw [← same] at member
      simp only [takeMessage, isId, isMethod, replyToAll, mem_waiters_bring, Bool.true_eq_false,
        and_false] at member
    | answered id waits =>
      rw [← same, takeMessage_of_named isId (by simp) isMethod] at waits
      have number := numberOf?_eq_some.mpr (rfl : Json.int (numberAt id) = .int (numberAt id))
      simp only [responseOf?, isId, isMethod, number, Option.map_some, replyTo, mem_waiters_bring,
        beq_self_eq_true, Bool.true_eq_false, and_false] at waits
  · intro unheeded
    cases isId : m.id with
    | none => cases isMethod : m.method <;> simp only [takeMessage, responseOf?, isId, isMethod]
    | some id =>
      cases isMethod : m.method with
      | some method =>
        rw [isId, isMethod] at unheeded
        exact absurd (.asked id method) unheeded
      | none =>
        rw [isId, isMethod] at unheeded
        by_cases isNull : id = .null
        · subst isNull
          have nobody : c.table.waiters = [] := by
            by_contra waits
            exact unheeded (.rejected waits)
          simp only [takeMessage, isId, isMethod, replyToAll]
          exact bring_eq_self c _ _ fun waiting waits => by rw [nobody] at waits; cases waits
        · rw [takeMessage_of_named isId isNull isMethod]
          simp only [responseOf?, isId, isMethod]
          cases number : numberOf? id with
          | none => rfl
          | some number =>
            obtain rfl := numberOf?_eq_some.mp number
            refine bring_eq_self c _ _ fun waiting waits => ?_
            rw [beq_eq_false_iff_ne]
            rintro rfl
            exact unheeded (.answered waiting waits)

/-- A frame is dropped, and nothing else is changed, unless its payload makes a difference. -/
theorem step_read_eq_iff {payload rest : List UInt8} (reading : c.reader = .reading)
    (frame : readFrame c.inboundEnded c.inbound = .frame payload rest) :
    c.step .read = { c with inbound := rest } ↔ c.takePayload payload = c := by
  -- What has arrived plays no part in how a payload is taken, so that the frame can be put back.
  have read : c.step .read = (c.takePayload payload).holding rest := by
    rw [step_read_of_frame reading frame, takePayload_holding]
  rw [read]
  constructor
  · intro same
    have kept := congrArg (Connection.holding · c.inbound) same
    have inbound := inbound_takePayload c payload
    simp only [holding_holding] at kept
    rw [← inbound, holding_inbound] at kept
    rw [kept]
    exact congrArg c.holding inbound
  · intro same
    rw [same]
    rfl

/-- A payload that is no object is dropped exactly when it is not the list of the parts of a message
that is heeded. -/
theorem step_read_nonobject {w : Written} {before bytes behind rest : List UInt8}
    (noObject : ∀ members, w ≠ .object members) (isBlank : IsBlank before) (renders : w.Renders bytes)
    (isBlank' : IsBlank behind) (reading : c.reader = .reading)
    (frame : readFrame c.inboundEnded c.inbound = .frame (before ++ (bytes ++ behind)) rest) :
    c.step .read = { c with inbound := rest } ↔
      ¬ ∃ parts, w = .list parts ∧ Message.InOrder parts ∧
        c.Heeds (Message.idOf parts) (Message.methodOf parts) := by
  have read := ofPayload_written isBlank renders isBlank'
  rw [step_read_eq_iff reading frame, takePayload]
  -- The payload is a message if and only if its tree says one, and then it has the parts of the tree.
  cases parsed : Message.ofPayload (before ++ (bytes ++ behind)) with
  | error fault =>
    rw [parsed] at read
    refine iff_of_true rfl ?_
    rintro ⟨parts, rfl, inOrder, _⟩
    rw [Message.inOrder_iff] at inOrder
    have none : (Written.record Message.fields (.list parts)) = none := Option.map_eq_none_iff.mp read.symm
    rw [none] at inOrder
    cases inOrder
  | ok m =>
    rw [parsed] at read
    obtain ⟨j, record, rfl⟩ := Option.map_eq_some_iff.mp read.symm
    cases w with
    | scalar token => cases record
    | object members => exact absurd rfl (noObject members)
    | list parts =>
      obtain ⟨isId, isMethod⟩ := Message.ofRecord_list record
      have inOrder : Message.InOrder parts := Message.inOrder_iff.mpr (by rw [record]; rfl)
      simp only [takeMessage_eq_self_iff reading, isId, isMethod, Written.list.injEq, exists_eq_left',
        inOrder, true_and]

end Connection

end TemplateFacts.Wire

namespace TemplateFacts

open Json (Written IsBlank)
open Wire Wire.Connection

/-- The items of a list can be read as the sections of a template, in their order. -/
structure Template.InOrder (parts : List Written) : Prop where
  short : parts.length ≤ 4
  schema : ∀ w ∈ parts[0]?, (w.value 126).isSome = true
  parameters : ∀ w ∈ parts[1]?, (w.table 126).isSome = true
  outputs : ∀ w ∈ parts[2]?, (w.table 126).isSome = true
  resources : ∀ w ∈ parts[3]?, (w.value 126).isSome = true

/-- A list is a template exactly when its items are the sections of one. -/
theorem Template.inOrder_iff {parts : List Written} :
    Template.InOrder parts ↔ ((Written.list parts).record (templateFields 126)).isSome = true := by
  -- One clause for each of the four fields, and one for the length.
  rw [Written.record, Option.isSome_map, Written.isSome_takeInOrder]
  simp only [templateFields, Written.forall_getElem?_cons, Written.Fits, List.getElem?_nil, reduceCtorEq,
    false_implies, implies_true, and_true, List.length_cons, List.length_nil, ne_eq, not_false_eq_true]
  constructor
  · rintro ⟨short, schema, parameters, outputs, resources⟩
    exact ⟨short, schema, parameters, outputs, resources⟩
  · rintro ⟨short, schema, parameters, outputs, resources⟩
    exact ⟨short, schema, parameters, outputs, resources⟩

/-- What is no template is refused as one. -/
theorem Template.parse_toOption_eq_none {file : Path} {contents : String} :
    (Template.parse file contents).toOption = none ↔
      ∃ reason, Template.parse file contents = .error (.invalidTemplate file reason) := by
  -- The only failure of a template is that it is invalid.
  rw [Template.parse]
  cases Template.shape.ofBytes (Utf8.encode contents) with
  | ok j => simp [Except.toOption]
  | error fault => simp [Except.toOption]

/-- A text whose root is no object is a template exactly when it is the list of the sections of one. -/
theorem Template.parse_nonobject {w : Written} {contents : String} (file : Path)
    (noObject : ∀ members, w ≠ .object members) (text : WrittenAs contents w) :
    (∃ reason, Template.parse file contents = .error (.invalidTemplate file reason)) ↔
      ¬ ∃ parts, w = .list parts ∧ Template.InOrder parts := by
  -- A scalar is no record, and a list is one exactly when its parts are in order.
  rw [← Template.parse_toOption_eq_none, parse_written file text, Option.map_eq_none_iff]
  cases w with
  | scalar token => simp [Written.record]
  | object members => exact absurd rfl (noObject members)
  | list parts =>
    simp only [Written.list.injEq, exists_eq_left', Template.inOrder_iff, Option.not_isSome_iff_eq_none]

/--
Where the root of a document is no object, it counts for nothing, but for one kind of lists. As the text
of a template it is refused, unless it is the list of the sections of a template. As the payload of the
next frame of a connection, in whatever state, it is dropped with nothing else changed, unless it is the
list of the parts of a message, and the message asks for an answer, answers a request that waits, or
answers nobody by name while somebody waits.
-/
theorem nonobject_dropped_iff {w : Written} {before bytes behind : List UInt8}
    (noObject : ∀ members, w ≠ .object members) (isBlank : IsBlank before) (renders : w.Renders bytes)
    (isBlank' : IsBlank behind) :
    (∀ file contents, Utf8.encode contents = before ++ (bytes ++ behind) →
      ((∃ reason, Template.parse file contents = .error (.invalidTemplate file reason)) ↔
        ¬ ∃ parts, w = .list parts ∧ Template.InOrder parts)) ∧
    ∀ capacity events rest,
      let c := (start capacity).run events
      c.reader = .reading →
      readFrame c.inboundEnded c.inbound = .frame (before ++ (bytes ++ behind)) rest →
        (c.step .read = { c with inbound := rest } ↔
          ¬ ∃ parts, w = .list parts ∧ Message.InOrder parts ∧
            c.Heeds (Message.idOf parts) (Message.methodOf parts)) := by
  -- A template by its record, a message by what the connection heeds of it.
  constructor
  · intro file contents encoded
    exact Template.parse_nonobject file noObject ⟨before, bytes, behind, isBlank, renders, isBlank', encoded⟩
  · intro capacity events rest c reading frame
    exact step_read_nonobject noObject isBlank renders isBlank' reading frame

/-- An answer to the first request as the list of its parts. -/
def answerList : Json := .list [.int 0, .null, .int 9, .null]

/-- The answer as it is sent. -/
def answerText : String := "[0,null,9,null]"

/-- A run in which a request is written and answered by the list. -/
def answeredRun : List Event :=
  [.issue ⟨"bicep/version", .null, .any⟩, .register 0, .queue 0, .grant, .write 4096,
    .arrive (writeFrame (Utf8.encode answerText))]

theorem answerList_renders : (Written.ofJson answerList).Renders (Utf8.encode answerText) := by
  -- The text is the compact one, which renders the value it was made of.
  have exact : Json.IsExact answerList := by
    simp [answerList, Json.IsExact, Json.IsExactItems, Json.leastInt, Json.greatestInt]
  have sent : Utf8.encode answerText = Utf8.encode (Json.compact answerList) := by decide +kernel
  rw [sent, Json.encode_compact]
  exact Written.renders_ofJson answerList exact

/-- The request waits for the answer, which is the first frame that has arrived. -/
theorem answeredRun_arrived :
    let c := (start 4096).run answeredRun
    c.reader = .reading ∧
      readFrame c.inboundEnded c.inbound = .frame (Utf8.encode answerText) [] ∧
      0 ∈ c.table.waiters := by
  -- The run is short enough to be evaluated.
  decide +kernel

/-- Lists count as documents: one without items is a template without sections, and a waiting request
ends with what a list of four items says. -/
theorem lists_count :
    ((Written.list []).Renders (Utf8.encode "[]") ∧
      Template.parse ⟨"main.bicep"⟩ "[]" = .ok ⟨none, [], [], .null⟩) ∧
    (Written.ofJson answerList).Renders (Utf8.encode answerText) ∧
    let c := (start 4096).run answeredRun
    c.reader = .reading ∧ readFrame c.inboundEnded c.inbound = .frame (Utf8.encode answerText) [] ∧
      0 ∈ c.table.waiters ∧ 0 ∉ (c.step .read).table.waiters ∧
      ((c.step .read).step (.finish 0)).outcome? 0 = some (.ok (.int 9)) := by
  -- An empty list for the template; for the message a list in the order of the fields.
  have nothing : (Written.list []).Renders (Utf8.encode "[]") :=
    ⟨[], Json.lead_nil, by decide⟩
  have parsed : Template.parse ⟨"main.bicep"⟩ "[]" = .ok ⟨none, [], [], .null⟩ := by decide +kernel
  have ends : 0 ∉ (((start 4096).run answeredRun).step .read).table.waiters ∧
      ((((start 4096).run answeredRun).step .read).step (.finish 0)).outcome? 0 = some (.ok (.int 9)) := by
    decide +kernel
  obtain ⟨reading, frame, waits⟩ := answeredRun_arrived
  exact ⟨⟨nothing, parsed⟩, answerList_renders, reading, frame, waits, ends⟩

/-- The list is no template, as its outputs are a number, but as a message it is not dropped. -/
theorem nonobject_dropped_iff_answer :
    let w := Written.ofJson answerList
    let c := (start 4096).run answeredRun
    ((∀ members, w ≠ .object members) ∧ w.Renders (Utf8.encode answerText) ∧ c.reader = .reading ∧
      readFrame c.inboundEnded c.inbound = .frame ([] ++ (Utf8.encode answerText ++ [])) []) ∧
    (∃ reason, Template.parse ⟨"main.bicep"⟩ answerText = .error (.invalidTemplate ⟨"main.bicep"⟩ reason)) ∧
      c.step .read ≠ { c with inbound := [] } := by
  -- The template's text is refused for its second part, the message is heeded for its number.
  intro w c
  have none : IsBlank [] := Json.lead_nil
  have noObject : ∀ members, w ≠ .object members := by simp [w, answerList, Written.ofJson]
  obtain ⟨reading, frame, waits⟩ := answeredRun_arrived
  have whole : [] ++ (Utf8.encode answerText ++ []) = Utf8.encode answerText := by simp
  have frame' : readFrame c.inboundEnded c.inbound = .frame ([] ++ (Utf8.encode answerText ++ [])) [] := by
    rw [whole]
    exact frame
  obtain ⟨template, message⟩ := nonobject_dropped_iff noObject none answerList_renders none
  refine ⟨⟨noObject, answerList_renders, reading, frame'⟩, ?_, ?_⟩
  · refine (template ⟨"main.bicep"⟩ answerText whole.symm).mpr ?_
    rintro ⟨parts, same, inOrder⟩
    obtain rfl : Written.ofItems [.int 0, .null, .int 9, .null] = parts := Written.list.inj same
    exact absurd (inOrder.outputs _ rfl) (by decide)
  · intro dropped
    refine (message 4096 answeredRun [] reading frame').mp dropped ⟨_, rfl, ?_, .answered 0 waits⟩
    exact Message.inOrder_iff.mpr (by decide)

end TemplateFacts
