import Stozher.Display
import Stozher.Envelope

namespace Stozher

open Library Library.Text

/-- A manifest that `Manifest.parse` accepted. -/
structure Manifest where
  document : Value
  name : String
  version : String
  hash : String
  componentKey : KeyId

namespace Manifest

variable (ext : External)

def members : List String := [
  "v", "kind", "name", "version", "subject-class", "description", "actions", "evidence-schemas",
  "budget-dimensions", "durable-objects", "conformance"]

def subjectClasses : List String :=
  ["tool-proxy", "browser-agent", "executor", "memory", "orchestrator-bridge", "kernel"]

def actionMembers : List String :=
  ["action", "class", "evidence-schema", "aggregate", "idempotent", "target-kind", "degrade"]

def budgetDimensions : List String :=
  ["requests", "tokens", "tokens-in", "tokens-out", "wall-clock-seconds"]

def isComponentName (name : String) : Bool :=
  match octets name with
  | first :: rest =>
      decide (2 ≤ rest.length + 1 ∧ rest.length + 1 ≤ 32) && isAsciiLowercase first
        && rest.all fun b => isAsciiLowercase b || isAsciiDigit b || b == 0x2d
  | [] => false

def isActionIdentifier (component action : String) : Bool :=
  match (stripPrefix action component).bind (stripPrefix · ".") with
  | none => false
  | some rest =>
      match octets rest with
      | first :: others =>
          decide (others.length + 1 ≤ 64) && isAsciiLowercase first
            && others.all fun b => isAsciiLowercase b || isAsciiDigit b || b == 0x5f
      | [] => false

def strAt (map : Members) (name : String) : Option String :=
  (map.get name).bind Value.asStr

def validateEvidenceSchema (entry : String × Value) : Result Unit := do
  let (id, schema) := entry
  let schema ← okOr schema.asObject
    (err "schema-type-mismatch" s!"evidence-schemas.{id} must be a JSON Schema object")
  require ((schema.get "additionalProperties").bind Value.asBool = some false)
    (err "manifest-malformed" s!"evidence-schemas.{id} must set additionalProperties: false")

/-- Class `read` must say how its reads are aggregated, and no other class may. -/
def validateAggregateRule (identifier class_ : String) (aggregate : Option Value) :
    Result Unit :=
  match aggregate with
  | none => require (class_ ≠ "read") (err "manifest-malformed"
      s!"{identifier} is class read and declares no aggregate rule")
  | some rule => do
      require (class_ = "read") (err "manifest-malformed"
        s!"{identifier} is class {class_} and must not declare an aggregate rule")
      let max ← okOr (rule.getU64 "max-samples") (err "schema-missing-member"
        s!"actions[].aggregate.max-samples for {identifier}")
      require (max ≠ 0 ∧ max ≤ 16) (err "aggregate-sample-bounds"
        s!"{identifier} declares max-samples {max}, expected 1..=16")
      require (rule.getStr "sampling").isSome (err "schema-missing-member"
        s!"actions[].aggregate.sampling for {identifier}")

def validateAction (name : String) (schemas : Members) (action : Value) : Result Unit := do
  let entry ← okOr action.asObject (err "schema-type-mismatch" "an action must be an object")
  forEach (fun key => require (key ∈ actionMembers)
    (err "schema-unknown-member" s!"actions[].{key}")) entry.keys
  forEach (fun required => require (entry.containsKey required)
    (err "schema-missing-member" s!"actions[].{required}"))
    ["action", "class", "evidence-schema", "idempotent", "target-kind"]
  let identifier := (strAt entry "action").getD ""
  require (isActionIdentifier name identifier) (err "manifest-action-namespace"
    s!"{debug identifier} is not in the {debug name} namespace")
  let class_ := (strAt entry "class").getD ""
  require (class_ ∈ Envelope.classes)
    (err "envelope-classification-unknown" s!"actions[].class {debug class_}")
  require ((entry.get "idempotent").bind Value.asBool).isSome
    (err "schema-type-mismatch" "actions[].idempotent must be a boolean")
  let schemaId := (strAt entry "evidence-schema").getD ""
  require (schemas.containsKey schemaId) (err "manifest-evidence-schema-missing"
    s!"{identifier} declares evidence-schema {debug schemaId}, which is not defined")
  let hasDegrade := ((entry.get "degrade").filter fun d => !d.isNull).isSome
  require (¬ (class_ = "prohibited" ∧ hasDegrade = true)) (err "manifest-prohibited-degrade"
    s!"{identifier} is prohibited and declares a degraded form")
  validateAggregateRule identifier class_ ((entry.get "aggregate").filter fun a => !a.isNull)

def validateBudgetDimension (dimension : Value) : Result Unit :=
  let dimension := dimension.asStr.getD ""
  let monetary := match stripPrefix dimension "money-" with
    | some c => c.utf8ByteSize == 3 && (octets c).all isAsciiLowercase
    | none => false
  require (dimension ∈ budgetDimensions ∨ monetary = true) (err "manifest-malformed"
    s!"budget-dimensions holds {debug dimension}, which is not a budget dimension")

def validateTransition (transition : Value) : Result Unit := do
  let known := ["transition", "from", "to", "signers"]
  let entry ← okOr transition.asObject
    (err "schema-type-mismatch" "a transition must be an object")
  forEach (fun key => require (key ∈ known)
    (err "schema-unknown-member" s!"transitions[].{key}")) entry.keys
  forEach (fun required => require (entry.containsKey required)
    (err "schema-missing-member" s!"transitions[].{required}")) known
  require ((entry.get "from").bind Value.asArray).isSome
    (err "schema-type-mismatch" "transitions[].from must be an array")
  let signers ← okOr ((entry.get "signers").bind Value.asArray)
    (err "schema-type-mismatch" "transitions[].signers must be an array")
  require (signers.isEmpty = false)
    (err "manifest-malformed" "transitions[].signers must be non-empty")
  forEach (fun signer : Value => require (signer.asStr = some "human" ∨ signer.asStr = some "agent")
    (err "manifest-malformed" s!"transitions[].signers holds {signer.display ext}")) signers

def validateDurableObject (object : Value) : Result Unit := do
  let known := ["object-type", "id-kind", "transitions"]
  let map ← okOr object.asObject (err "schema-type-mismatch" "a durable object must be an object")
  forEach (fun key => require (key ∈ known)
    (err "schema-unknown-member" s!"durable-objects[].{key}")) map.keys
  forEach (fun required => require (map.containsKey required)
    (err "schema-missing-member" s!"durable-objects[].{required}")) known
  let transitions ← okOr ((map.get "transitions").bind Value.asArray)
    (err "schema-type-mismatch" "transitions must be an array")
  require (transitions.isEmpty = false)
    (err "manifest-malformed" "a durable object declares no transitions")
  forEach (validateTransition ext) transitions

def validateDurableObjects (objects : Value) : Result Unit := do
  let objects ← okOr objects.asArray
    (err "schema-type-mismatch" "durable-objects must be an array")
  forEach (validateDurableObject ext) objects

/-- Every check of a manifest, and what it is named, versioned and signed as. -/
def validateDocument (document : Value) : Result (String × String × KeyId) := do
  let map ← okOr document.asObject (err "manifest-malformed" "a manifest must be a JSON object")
  forEach (fun key => require (key = "sig" ∨ key ∈ members)
    (err "schema-unknown-member" key)) map.keys
  forEach (fun required => require (required = "description" ∨ map.containsKey required = true)
    (err "schema-missing-member" required)) members
  require (strAt map "v" = some Envelope.version)
    (err "envelope-version-unsupported" ("manifest v is " ++ (document.index "v").display ext))
  require (strAt map "kind" = some "manifest")
    (err "envelope-unknown-kind" ("manifest kind is " ++ (document.index "kind").display ext))
  let componentKey ← Signed.verifySignedObject ext document
  let name ← okOr (strAt map "name") (err "schema-type-mismatch" "name must be a string")
  require (isComponentName name) (err "manifest-malformed"
    ("name " ++ debug name ++ " does not match ^[a-z][a-z0-9-]\x7b1,31\x7d$"))
  let version ← okOr ((strAt map "version").filter (· != ""))
    (err "schema-type-mismatch" "version must be a non-empty string")
  let subjectClass := (strAt map "subject-class").getD ""
  require (subjectClass ∈ subjectClasses) (err "manifest-malformed"
    s!"subject-class {debug subjectClass} is not one of §08 §1.1")
  let schemas ← okOr ((map.get "evidence-schemas").bind Value.asObject)
    (err "schema-type-mismatch" "evidence-schemas must be an object")
  forEach validateEvidenceSchema schemas
  let actions ← okOr ((map.get "actions").bind Value.asArray)
    (err "schema-type-mismatch" "actions must be an array")
  require (actions.isEmpty = false) (err "manifest-malformed" "actions must be non-empty")
  forEach (validateAction name schemas) actions
  let dimensions ← okOr ((map.get "budget-dimensions").bind Value.asArray)
    (err "schema-type-mismatch" "budget-dimensions must be an array")
  forEach validateBudgetDimension dimensions
  validateDurableObjects ext (document.index "durable-objects")
  let conformance ← okOr ((map.get "conformance").bind Value.asObject)
    (err "schema-type-mismatch" "conformance must be an object")
  forEach (fun required => require ((conformance.get required).bind Value.asStr).isSome
    (err "schema-missing-member" s!"conformance.{required}")) ["self-test", "vectors-version"]
  return (name, version, componentKey)

def parse (document : Value) : Result Manifest := do
  let (name, version, componentKey) ← validateDocument ext document
  return { document, name, version, hash := ← Jcs.objectHash ext document, componentKey }

def action (manifest : Manifest) (action : String) : Option Value := do
  let actions ← (manifest.document.index "actions").asArray
  actions.find? fun entry => entry.getStr "action" == some action

def proposedClass (manifest : Manifest) (action : String) : Option String :=
  (manifest.action action).bind (·.getStr "class")

/-- The state a transition leads to, when its signer and the folded state permit it. -/
def checkTransition (manifest : Manifest) (objectType transition signerRole : String)
    (foldedState : Option String) : Result String := do
  let declared ← okOr ((manifest.document.index "durable-objects").asArray.bind
      (·.find? fun entry => entry.getStr "object-type" == some objectType))
    (err "durable-transition-not-permitted"
      s!"{manifest.name} declares no durable object {debug objectType}")
  let entry ← okOr ((declared.index "transitions").asArray.bind
      (·.find? fun t => t.getStr "transition" == some transition))
    (err "durable-transition-not-permitted"
      s!"{objectType} declares no transition {debug transition}")
  let signers ← okOr (entry.index "signers").asArray
    (err "schema-missing-member" "transitions[].signers")
  require (signers.any fun s => s.asStr == some signerRole) (err "durable-transition-not-permitted"
    s!"{transition} on {objectType} may not be signed by a {signerRole}")
  let origins ← okOr (entry.index "from").asArray (err "schema-missing-member" "transitions[].from")
  let permitted : Bool := match foldedState with
    | none => origins.isEmpty
    | some state => origins.any fun f => f.asStr == some state
  require permitted (err "durable-transition-illegal"
    (transition ++ " is not permitted from state " ++ foldedState.getD "<none>"))
  okOr (entry.getStr "to") (err "schema-missing-member" "transitions[].to")

end Manifest

end Stozher
