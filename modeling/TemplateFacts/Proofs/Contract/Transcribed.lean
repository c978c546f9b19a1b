import TemplateFacts.Contract.Bundled
import TemplateFacts.Contract.Document
import TemplateFacts.Proofs.Utf8

/-!
The bundled contract is the one that its document writes. References of the document are followed in the
contract, and demands that stand alone are not wrapped, which makes no difference to what is violated.
-/

namespace TemplateFacts

namespace Contract

section Compared

variable (definitions : List (String × Contract))

/-- A contract that demands one thing only, or else the contract. -/
def unwrapped : Contract → Contract
  -- A document wraps whatever it demands.
  | .all [part] => part
  | contract => contract

/-- What a contract leads to over at most so many references, and how many more there may be. -/
def resolved : (hops : Nat) → Contract → Nat × Contract
  -- A name that is not defined leads nowhere.
  | 0, contract => (0, unwrapped contract)
  | hops + 1, contract =>
    match unwrapped contract with
    | .ref name =>
      match definitions.lookup name with
      | some target => resolved hops target
      | none => (hops + 1, .ref name)
    | contract => (hops + 1, contract)

/-- Two demands without parts are the same. -/
def sameDemand : Contract → Contract → Bool
  -- Only the demands that the bundled contract makes are compared.
  | .kinds first, .kinds second => first = second
  | .const first, .const second => first = second
  | .enum first, .enum second => first = second
  | .required first, .required second => first = second
  | .minItems first, .minItems second => first = second
  | .minLength first, .minLength second => first = second
  | .uniqueItems, .uniqueItems => true
  | .ofFormat first, .ofFormat second => first = second
  | .pattern (.plain first) source, .pattern (.plain second) other => first = second && source = other
  | _, _ => false

mutual
/-- A contract amounts part by part to another one, given how many references there may be. -/
def amountsTo : Contract → Nat × Contract → Bool
  -- What the parts lead to is looked up before they are compared.
  | .all parts, (hops, .all theirs) => amountToEach parts hops theirs
  | .closed known, (hops, .closed theirs) => amountToKnown known hops theirs
  | .items item, (hops, .items their) => amountsTo item (resolved definitions hops their)
  | contract, (_, other) => sameDemand contract other
termination_by structural contract => contract

/-- Some contracts amount to as many others. -/
def amountToEach : List Contract → (hops : Nat) → List Contract → Bool
  -- They are compared in order.
  | [], _, theirs => theirs.isEmpty
  | part :: parts, hops, theirs =>
    match theirs with
    | [] => false
    | their :: theirs => amountsTo part (resolved definitions hops their) && amountToEach parts hops theirs
termination_by structural parts => parts

/-- Contracts with names amount to as many others of these names. -/
def amountToKnown : List (String × Contract) → (hops : Nat) → List (String × Contract) → Bool
  -- They are compared in order.
  | [], _, theirs => theirs.isEmpty
  | entry :: entries, hops, theirs =>
    match theirs with
    | [] => false
    | their :: theirs => amountsToEntry entry hops their && amountToKnown entries hops theirs
termination_by structural entries => entries

/-- A contract with a name amounts to another one of this name. -/
def amountsToEntry : String × Contract → (hops : Nat) → String × Contract → Bool
  -- The names are the same.
  | (name, contract), hops, (theirName, their) =>
    name = theirName && amountsTo contract (resolved definitions hops their)
termination_by structural entry => entry
end

end Compared

section Violated

variable {definitions : List (String × Contract)} {extra : Nat} {follow : String → Checker}

/-- A demand that stands alone is violated as it is when it is wrapped. -/
theorem violations_unwrapped (contract : Contract) :
    violations follow (unwrapped contract) = violations follow contract := by
  unfold unwrapped
  split
  · -- The violations of one demand are put together with those of no other.
    funext place j
    show _ = checkEach [violations follow _] place j
    rw [checkEach, List.flatMap_singleton]
  · rfl

/-- What a contract leads to is violated as the contract is, with fewer references left to follow. -/
theorem violations_resolved (hops : Nat) (contract : Contract) :
    violations (followNames definitions ((resolved definitions hops contract).1 + extra))
        (resolved definitions hops contract).2 =
      violations (followNames definitions (hops + extra)) contract := by
  -- By induction on the references that may be followed, one of which goes for each name that is looked up.
  induction hops generalizing contract with
  | zero => exact violations_unwrapped contract
  | succ hops ih =>
    rw [resolved, ← violations_unwrapped contract]
    split
    · rename_i name leads
      rw [leads]
      split
      · rename_i target found
        rw [ih, Nat.add_right_comm]
        funext place j
        show _ = followNames definitions (hops + extra + 1) name place j
        rw [followNames, found]
      · rfl
    · rfl

/-- The same demands are violated alike. -/
theorem violations_of_sameDemand {first second : Contract} (same : sameDemand first second = true)
    {follow' : String → Checker} : violations follow' second = violations follow first := by
  -- Demands without parts are compared as data, and what they find does not follow anything.
  unfold sameDemand at same
  split at same <;> simp_all [violations]

mutual
/-- A contract is violated as one that amounts to it, whatever the latter may follow. -/
theorem violations_of_amountsTo : (contract : Contract) → (their : Nat × Contract) →
    amountsTo definitions contract their = true →
    violations (followNames definitions (their.1 + extra)) their.2 = violations follow contract
  -- Only where both have parts these are compared.
  | .all parts, (hops, their), same => by
    cases their with
    | all theirs =>
      funext place j
      exact congrArg (checkEach · place j) (violationsOfEach_of_amountsTo parts hops theirs same)
    | _ => exact violations_of_sameDemand same
  | .closed known, (hops, their), same => by
    cases their with
    | closed theirs =>
      funext place j
      exact congrArg (checkClosed · place j) (violationsOfKnown_of_amountsTo known hops theirs same)
    | _ => exact violations_of_sameDemand same
  | .items item, (hops, their), same => by
    cases their with
    | items their =>
      have inside := violations_of_amountsTo item (resolved definitions hops their) same
      rw [violations_resolved] at inside
      funext place j
      cases j with
      | list xs => exact congrArg (checkItems · place 0 xs) inside
      | _ => rfl
    | _ => exact violations_of_sameDemand same
  | .never, _, same | .anyOf _, _, same | .ref _, _, same | .kinds _, _, same | .const _, _, same
  | .enum _, _, same | .required _, _, same | .properties _, _, same | .others _ _, _, same
  | .noMembers, _, same | .memberNames _, _, same | .firstItems _, _, same | .minItems _, _, same
  | .uniqueItems, _, same | .minLength _, _, same | .minimum _, _, same | .above _, _, same
  | .pattern _ _, _, same | .ofFormat _, _, same => violations_of_sameDemand same
termination_by structural contract => contract

/-- So are contracts one by one. -/
theorem violationsOfEach_of_amountsTo : (parts : List Contract) → (hops : Nat) → (theirs : List Contract) →
    amountToEach definitions parts hops theirs = true →
    violationsOfEach (followNames definitions (hops + extra)) theirs = violationsOfEach follow parts
  | [], _, [], _ => rfl
  | part :: parts, hops, their :: theirs, same => by
    obtain ⟨first, later⟩ := Bool.and_eq_true_iff.mp same
    have here := violations_of_amountsTo part (resolved definitions hops their) first
    rw [violations_resolved] at here
    rw [violationsOfEach, violationsOfEach, here, violationsOfEach_of_amountsTo parts hops theirs later]
termination_by structural parts => parts

/-- So are contracts with names. -/
theorem violationsOfKnown_of_amountsTo : (known : List (String × Contract)) → (hops : Nat) →
    (theirs : List (String × Contract)) → amountToKnown definitions known hops theirs = true →
    violationsOfKnown (followNames definitions (hops + extra)) theirs = violationsOfKnown follow known
  | [], _, [], _ => rfl
  | entry :: known, hops, their :: theirs, same => by
    obtain ⟨first, later⟩ := Bool.and_eq_true_iff.mp same
    rw [violationsOfKnown, violationsOfKnown, violationsOfEntry_of_amountsTo entry hops their first,
      violationsOfKnown_of_amountsTo known hops theirs later]
termination_by structural known => known

/-- So is a contract with a name. -/
theorem violationsOfEntry_of_amountsTo : (entry : String × Contract) → (hops : Nat) →
    (their : String × Contract) → amountsToEntry definitions entry hops their = true →
    violationsOfEntry (followNames definitions (hops + extra)) their = violationsOfEntry follow entry
  | (name, contract), hops, (theirName, their), same => by
    obtain ⟨named, inside⟩ := Bool.and_eq_true_iff.mp same
    have here := violations_of_amountsTo contract (resolved definitions hops their) inside
    rw [violations_resolved] at here
    rw [violationsOfEntry, violationsOfEntry, of_decide_eq_true named, here]
termination_by structural entry => entry
end

end Violated

/-- The lines of the document that writes the bundled contract. -/
def factsLines : List String := [
    "\x7b",
    "  \"$schema\": \"https://json-schema.org/draft/2020-12/schema\",",
    "  \"$id\": \"urn:bicep-facts:facts.v1\",",
    "  \"title\": \"Bicep component facts\",",
    "  \"type\": \"object\",",
    "  \"additionalProperties\": false,",
    "  \"required\": [",
    "    \"schemaVersion\",",
    "    \"componentId\",",
    "    \"source\",",
    "    \"scopes\",",
    "    \"parameters\",",
    "    \"outputs\",",
    "    \"capabilities\",",
    "    \"meta\"",
    "  ],",
    "  \"properties\": \x7b",
    "    \"schemaVersion\": \x7b \"const\": \"facts.v1\" \x7d,",
    "    \"componentId\": \x7b \"type\": \"string\", \"minLength\": 1 \x7d,",
    "    \"source\": \x7b",
    "      \"type\": \"object\",",
    "      \"additionalProperties\": false,",
    "      \"required\": [\"path\", \"hash\", \"compilerVersion\"],",
    "      \"properties\": \x7b",
    "        \"path\": \x7b \"type\": \"string\", \"minLength\": 1 \x7d,",
    "        \"hash\": \x7b \"type\": \"string\", \"pattern\": \"^[0-9a-f]\x7b64\x7d$\" \x7d,",
    "        \"compilerVersion\": \x7b \"type\": \"string\", \"minLength\": 1 \x7d",
    "      \x7d",
    "    \x7d,",
    "    \"scopes\": \x7b",
    "      \"type\": \"object\",",
    "      \"additionalProperties\": false,",
    "      \"required\": [\"allowed\", \"default\"],",
    "      \"properties\": \x7b",
    "        \"allowed\": \x7b",
    "          \"type\": \"array\",",
    "          \"minItems\": 1,",
    "          \"uniqueItems\": true,",
    "          \"items\": \x7b \"$ref\": \"#/$defs/scope\" \x7d",
    "        \x7d,",
    "        \"default\": \x7b \"$ref\": \"#/$defs/scope\" \x7d",
    "      \x7d",
    "    \x7d,",
    "    \"parameters\": \x7b",
    "      \"type\": \"array\",",
    "      \"items\": \x7b \"$ref\": \"#/$defs/parameter\" \x7d",
    "    \x7d,",
    "    \"outputs\": \x7b",
    "      \"type\": \"array\",",
    "      \"items\": \x7b \"$ref\": \"#/$defs/output\" \x7d",
    "    \x7d,",
    "    \"modules\": \x7b",
    "      \"type\": \"array\",",
    "      \"minItems\": 1,",
    "      \"items\": \x7b \"$ref\": \"#/$defs/module\" \x7d",
    "    \x7d,",
    "    \"capabilities\": \x7b",
    "      \"type\": \"object\",",
    "      \"additionalProperties\": false,",
    "      \"required\": [\"category\"],",
    "      \"properties\": \x7b",
    "        \"category\": \x7b",
    "          \"enum\": [\"networking\", \"compute\", \"data\", \"security\", \"messaging\", \"integration\", \"ai\", \"unknown\"]",
    "        \x7d,",
    "        \"features\": \x7b",
    "          \"type\": \"array\",",
    "          \"items\": \x7b \"type\": \"string\", \"minLength\": 1 \x7d",
    "        \x7d",
    "      \x7d",
    "    \x7d,",
    "    \"meta\": \x7b",
    "      \"type\": \"object\",",
    "      \"additionalProperties\": false,",
    "      \"required\": [\"generatedAt\", \"generator\"],",
    "      \"properties\": \x7b",
    "        \"generatedAt\": \x7b \"type\": \"string\", \"format\": \"date-time\" \x7d,",
    "        \"generator\": \x7b \"type\": \"string\", \"minLength\": 1 \x7d,",
    "        \"notes\": \x7b",
    "          \"type\": \"array\",",
    "          \"items\": \x7b \"type\": \"string\" \x7d",
    "        \x7d",
    "      \x7d",
    "    \x7d",
    "  \x7d,",
    "  \"$defs\": \x7b",
    "    \"scope\": \x7b",
    "      \"enum\": [\"subscription\", \"resourceGroup\", \"managementGroup\", \"tenant\"]",
    "    \x7d,",
    "    \"valueType\": \x7b",
    "      \"enum\": [\"string\", \"int\", \"bool\", \"array\", \"object\"]",
    "    \x7d,",
    "    \"parameter\": \x7b",
    "      \"type\": \"object\",",
    "      \"additionalProperties\": false,",
    "      \"required\": [\"name\", \"type\", \"required\", \"defaultKind\"],",
    "      \"properties\": \x7b",
    "        \"name\": \x7b \"type\": \"string\", \"minLength\": 1 \x7d,",
    "        \"type\": \x7b \"$ref\": \"#/$defs/valueType\" \x7d,",
    "        \"required\": \x7b \"type\": \"boolean\" \x7d,",
    "        \"defaultKind\": \x7b \"enum\": [\"none\", \"literal\", \"expression\"] \x7d,",
    "        \"default\": true,",
    "        \"defaultExpression\": \x7b \"type\": \"string\" \x7d,",
    "        \"constraints\": \x7b",
    "          \"type\": \"object\",",
    "          \"additionalProperties\": false,",
    "          \"properties\": \x7b",
    "            \"allowed\": \x7b \"type\": \"array\" \x7d,",
    "            \"minValue\": true,",
    "            \"maxValue\": true,",
    "            \"minLength\": true,",
    "            \"maxLength\": true,",
    "            \"pattern\": true",
    "          \x7d",
    "        \x7d,",
    "        \"description\": \x7b \"type\": \"string\" \x7d,",
    "        \"sensitive\": \x7b \"const\": true \x7d",
    "      \x7d",
    "    \x7d,",
    "    \"output\": \x7b",
    "      \"type\": \"object\",",
    "      \"additionalProperties\": false,",
    "      \"required\": [\"name\", \"type\"],",
    "      \"properties\": \x7b",
    "        \"name\": \x7b \"type\": \"string\", \"minLength\": 1 \x7d,",
    "        \"type\": \x7b \"$ref\": \"#/$defs/valueType\" \x7d,",
    "        \"description\": \x7b \"type\": \"string\" \x7d",
    "      \x7d",
    "    \x7d,",
    "    \"module\": \x7b",
    "      \"type\": \"object\",",
    "      \"additionalProperties\": false,",
    "      \"required\": [\"name\", \"path\", \"condition\"],",
    "      \"properties\": \x7b",
    "        \"name\": \x7b \"type\": \"string\", \"minLength\": 1 \x7d,",
    "        \"path\": \x7b \"type\": \"string\", \"minLength\": 1 \x7d,",
    "        \"scope\": \x7b \"$ref\": \"#/$defs/scope\" \x7d,",
    "        \"condition\": \x7b",
    "          \"type\": \"object\",",
    "          \"additionalProperties\": false,",
    "          \"required\": [\"kind\"],",
    "          \"properties\": \x7b",
    "            \"kind\": \x7b \"enum\": [\"always\", \"conditional\", \"foreach\"] \x7d",
    "          \x7d",
    "        \x7d",
    "      \x7d",
    "    \x7d",
    "  \x7d",
    "\x7d"]

/-- The text of the document that writes the bundled contract. -/
def factsText : String := String.join (factsLines.map (· ++ "\n"))

/-- The bytes of some lines, each of which ends with a line feed. -/
def bytesOfLines (lines : List String) : List UInt8 :=
  -- A text is kept as its bytes.
  lines.flatMap fun line => line.toByteArray.data.toList ++ [10]

/-- The bytes of lines are those of their text. -/
theorem encode_join (lines : List String) :
    Utf8.encode (String.join (lines.map (· ++ "\n"))) = bytesOfLines lines := by
  -- By induction on the lines, each of which is encoded by itself.
  induction lines with
  | nil => rfl
  | cons line lines ih =>
    rw [List.map_cons, String.join_cons, Utf8.encode_append, Utf8.encode_append, ih, bytesOfLines, bytesOfLines,
      List.flatMap_cons, ← Utf8.encode_eq]
    rfl

/-- No document but the one that is read is at hand. -/
def alone (_ : Uri) : Except Absence Json := .error .late

/--
The bundled contract is what its document says: the text is read as a contract, without another document being
fetched, and every document violates this contract where it violates the bundled one, and in the same words.
-/
theorem bundled_transcribed : ∃ schema, Schema.ofText alone factsText = .ok schema ∧
    ∀ j, schema.violations j = bundled.violations j := by
  -- The text is evaluated line by line, and what is read is compared with the contract.
  have agrees : ((Json.ofBytes (bytesOfLines factsLines)).toOption.bind fun document =>
      (Schema.ofJson alone document).toOption).any (fun schema => amountsTo schema.definitions factsContract
        (resolved schema.definitions schema.definitions.length schema.root)) = true := by
    decide +kernel
  have bytes : Utf8.encode factsText = bytesOfLines factsLines := encode_join factsLines
  rw [Schema.ofText, Json.ofText, bytes]
  cases said : Json.ofBytes (bytesOfLines factsLines) with
  | error fault =>
    rw [said] at agrees
    cases agrees
  | ok document =>
    rw [said, Except.toOption, Option.bind_some] at agrees
    cases read : Schema.ofJson alone document with
    | error fault =>
      rw [read] at agrees
      cases agrees
    | ok schema =>
      rw [read, Except.toOption, Option.any_some] at agrees
      refine ⟨schema, read, fun j => ?_⟩
      -- Every document is checked with enough references to follow.
      have enough : (depth j + 1) * schema.definitions.length =
          schema.definitions.length + depth j * schema.definitions.length := by
        rw [Nat.add_mul, Nat.one_mul, Nat.add_comm]
      rw [Schema.violations, Schema.violations, enough, ← violations_resolved]
      exact congrFun (congrFun (violations_of_amountsTo factsContract _ agrees) []) j

end Contract

end TemplateFacts
