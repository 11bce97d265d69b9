import Stozher.Ingest.Kinds

namespace Stozher.Ingest

open Library

variable (ext : External)

structure Validated where
  plan : AppendPlan
  claims : Claims

/-- What validation ends with: an envelope already stored, or one to append. -/
inductive Either where
  | idempotent (appended : Appended)
  | fresh (validated : Validated)

def genesisRefusal (config : Config) : Error :=
  err "policy-not-published" ("no policy version is in force; before one exists this kernel " ++
    "accepts only an interactive root mandate at (" ++ config.kernelCoreStream ++
    ", 0) and the first policy change at (" ++ config.kernelCoreStream ++ ", 1)")

/-- The root mandate of the bootstrap ceremony. -/
def validateGenesisMandate (config : Config) (env : Value) (roots : List KeyId)
    (plan : AppendPlan) : Result AppendPlan := do
  let mandate ← okOr (env.get "mandate") (err "schema-missing-member" "mandate")
  require (mandate.getStr "mandate-kind" = some "interactive") (genesisRefusal config)
  Mandate.verifyGrant ext mandate none { roots, maxStandingNotAfter := none }
  projectMandate ext mandate plan

/-- The first policy, which a root must approve. -/
def validateGenesisPolicy (config : Config) (store : Store) (env : Value) (roots : List KeyId)
    (subjectKey : KeyId) (plan : AppendPlan) (payloads : List Value) : Result AppendPlan := do
  let emittedAt := (env.getStr "emitted-at").getD ""
  let declaredClass := (env.getStr "classification").getD ""
  require (declaredClass = "consequential") (err "policy-component-override-attempt"
    s!"a policy change is consequential, not {declaredClass}")
  let plan ← validatePolicyChange ext config store env payloads plan
  let humanRoot ← walkMandateWithDepth ext store env roots subjectKey emittedAt 3 {
    component := ((env.index "identity").getStr "component").getD ""
    action := ((execution env).getStr "action").getD ""
    classification := declaredClass
    resource := ((execution env).getStr "target").getD "" }
  let verified ← Gate.verifyAuthorization ext env true (rootApprovers store emittedAt) []
  let ok ← okOr verified (err "gate-authorization-missing"
    "the first policy must carry a root's approval signature")
  return { plan with
    humanRoot := some humanRoot
    effectiveClass := some declaredClass
    gateUse := some (gateUseOf env ok) }

def validateGenesis (config : Config) (store : Store) (env : Value) (roots : List KeyId)
    (subjectKey : KeyId) (plan : AppendPlan) (payloads : List Value) : Result AppendPlan := do
  require (env.getStr "stream" = some config.kernelCoreStream) (genesisRefusal config)
  if env.getStr "kind" = some "mandate" ∧ env.getU64 "seq" = some 0 then
    validateGenesisMandate ext config env roots plan
  else if env.getStr "kind" = some "policy-change" ∧ env.getU64 "seq" = some 1 then
    validateGenesisPolicy ext config store env roots subjectKey plan payloads
  else throw (genesisRefusal config)

/-- The rule of one kind, once a policy is in force. -/
def validateKind (config : Config) (store : Store) (env : Value) (policy : Policy)
    (roots : List KeyId) (subjectKey : KeyId) (plan : AppendPlan) (payloads : List Value) :
    Result AppendPlan :=
  let kind := (env.getStr "kind").getD ""
  let emittedAt := (env.getStr "emitted-at").getD ""
  if kind ∈ effectKinds then
    validateEffectKind ext config store env policy roots subjectKey plan payloads
  else if kind = "cognition" then validateCognition ext store env policy roots subjectKey plan
  else if kind = "signal" then collectPayloads env payloads policy none plan
  else if kind = "mandate" then validateMandateGrant ext store env policy roots plan
  else if kind = "revocation" then validateRevocation ext store env roots plan
  else if kind = "gate-decision" then
    validateGateDecision ext store env roots policy emittedAt plan
  else if kind = "checkpoint" then validateCheckpoint ext config store env plan
  else .error (err "envelope-unknown-kind" s!"kind {debug kind} has no ingest rule")

/-- The envelope and the payloads of an ingest request. -/
def readRequest (request : Value) : Result (Value × List Value) := do
  let members ← okOr request.asObject
    (err "schema-type-mismatch" "an ingest request must be an object")
  forEach (fun key => require (key ∈ ["envelope", "payloads"]) (err "schema-unknown-member" key))
    members.keys
  let env ← okOr (members.get "envelope") (err "schema-missing-member" "envelope")
  match members.get "payloads" with
  | none => return (env, [])
  | some payloads => do
      let list ← okOr payloads.asArray (err "schema-type-mismatch" "payloads must be an array")
      return (env, list)

def initialPlan (env : Value) (id : String) (canonicalJson : Jcs.Canonical)
    (receivedAt : String) : AppendPlan where
  envelope := env
  id := id
  canonicalJson := canonicalJson
  streamKind := if env.getStr "kind" = some "signal" then .signal else .effect
  receivedAt := receivedAt
  humanRoot := none
  effectiveClass := none
  policyViolation := none
  payloads := []
  gateUse := none
  projections := .none
  spend := none

def policyInForce (config : Config) (store : Store) : Result (Option Policy) :=
  match store.currentPolicy with
  | none => .ok none
  | some document => do return some (← Policy.parse ext document config.policyKey)

/-- Only the effect kinds may carry an authorization. -/
def checkNoAuthorization (env : Value) (plan : AppendPlan) : Result Unit :=
  require (¬ (plan.gateUse = none ∧ (env.get "authorization").isSome = true ∧
      (env.getStr "kind").getD "" ∉ effectKinds))
    (err "schema-unknown-member"
      ("a " ++ (env.getStr "kind").getD "" ++ " envelope must not carry authorization"))

/-- The plan of an envelope the store does not hold yet, against one state of the store. -/
def planEnvelope (config : Config) (store : Store) (env : Value) (payloads : List Value)
    (id : String) (canonicalJson : Jcs.Canonical) (receivedAt : String) : Result AppendPlan := do
  let subjectKey ← Signed.verifySignedObject ext env
  Envelope.validate ext env
  let emittedAt := (env.getStr "emitted-at").getD ""
  let horizon ← Clock.shift receivedAt config.maxFutureSkewSeconds
  require (emittedAt ≤ horizon) (err "envelope-emitted-in-future"
    s!"emitted-at {emittedAt} is beyond the accepted horizon {horizon}")
  let _ ← Payload.verifyIngest ext env payloads
  let policy ← policyInForce ext config store
  let roots := (store.rootsAt emittedAt).map Prod.fst
  let plan := initialPlan env id canonicalJson receivedAt
  match policy with
  | none => validateGenesis ext config store env roots subjectKey plan payloads
  | some policy => do
      let plan ← validateKind ext config store env policy roots subjectKey plan payloads
      checkNoAuthorization env plan
      return plan

/-- A request as it is read, before anything is asked of the store. -/
structure Received where
  env : Value
  payloads : List Value
  id : String
  canonicalJson : Jcs.Canonical

def receive (raw : Octets) : Result Received := do
  let request ← ext.parseOctets raw
  let (env, payloads) ← readRequest request
  let id ← Signed.objectId ext env
  let canonicalJson ← Jcs.canonicalize env
  return { env, payloads, id, canonicalJson }

/-- The answer to an envelope the store holds already. -/
def resubmitted (store : Store) (received : Received) : Option Appended :=
  (store.envelopeById received.id).map fun existing => {
    id := received.id, stream := existing.stream, seq := existing.seq, idempotent := true }

/-- The rest of a validation, of an envelope the store was not found to hold. -/
def assess (config : Config) (store : Store) (received : Received) (receivedAt : String) :
    Result Validated := do
  let plan ← planEnvelope ext config store received.env received.payloads received.id
    received.canonicalJson receivedAt
  return { plan, claims := {
    stream := some ((received.env.getStr "stream").getD "")
    seq := some ((received.env.getU64 "seq").getD 0)
    kind := some ((received.env.getStr "kind").getD "") } }

/-- Validation of one request against one state of the store. -/
def validate (config : Config) (store : Store) (raw : Octets) (receivedAt : String) :
    Result Either := do
  let received ← receive ext raw
  match resubmitted store received with
  | some appended => return .idempotent appended
  | none => return .fresh (← assess ext config store received receivedAt)

/-- What is recorded of a refused request. -/
def rejectionInput (raw : Octets) (error : Error) (submittedBy : Option String)
    (receivedAt : String) (claims : Claims) : RejectionInput where
  reason := error.code
  detail := truncate error.detail 1024
  objectHash := rejectedBytesHash ext raw
  submittedBy := submittedBy
  receivedAt := receivedAt
  claimedStream := claims.stream
  claimedSeq := claims.seq
  claimedKind := claims.kind

end Stozher.Ingest
