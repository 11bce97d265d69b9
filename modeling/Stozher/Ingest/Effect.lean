import Stozher.GateQueue
import Stozher.Ingest.Approvers
import Stozher.Mandate.Walk

namespace Stozher.Ingest

open Library

variable (ext : External)

/-- The actions an envelope performs and what each acts on. -/
def effectRequests (env : Value) : Result (List (String × String)) :=
  if env.getStr "kind" = some "aggregate" then do
    let byAction ← okOr ((env.index "counts").index "by-action").asObject
      (err "schema-missing-member" "counts.by-action")
    require (byAction.isEmpty = false)
      (err "aggregate-count-mismatch" "an aggregation record folds no actions")
    return byAction.keys.map fun action => (action, "-")
  else do
    let action ← okOr ((execution env).getStr "action")
      (err "schema-missing-member" "execution.action")
    let target ← okOr ((execution env).getStr "target")
      (err "schema-missing-member" "execution.target")
    return [(action, target)]

def heavierClass (classOf : String × String → String) (effective : String)
    (request : String × String) : String :=
  let class_ := classOf request
  if effective.isEmpty ∨ Policy.classWeight effective < Policy.classWeight class_ then class_
  else effective

def latestManifest (store : Store) (component : String) : Result (Option Manifest) :=
  match store.latestManifest component with
  | none => .ok none
  | some document => do return some (← Manifest.parse ext document)

def effectiveClass (policy : Policy) (subject : String) (manifest : Option Manifest)
    (requests : List (String × String)) : String :=
  requests.foldl (heavierClass fun (action, resource) => policy.classify {
    subject, action, resource
    manifestClass := manifest.bind (·.proposedClass action) }) ""

def walkParams (store : Store) (mandateRef : String) (roots : List KeyId) (subjectKey : KeyId)
    (at_ : String) (maxDepth : Nat) : Members × Mandate.VerifyParams :=
  let mandates := store.mandateAncestry mandateRef maxDepth
  (mandates, {
    roots
    revocations := store.revocationsTargeting mandates.keys
    at_
    subjectKey
    maxDelegationDepth := maxDepth })

def mandateRefOf (env : Value) : Result String :=
  okOr (env.getStr "mandate-ref") (err "schema-missing-member" "mandate-ref")

def walkMandateWithDepth (store : Store) (env : Value) (roots : List KeyId) (subjectKey : KeyId)
    (at_ : String) (maxDepth : Nat) (request : Mandate.MandateRequest) : Result String := do
  let mandateRef ← mandateRefOf env
  let (mandates, params) := walkParams store mandateRef roots subjectKey at_ maxDepth
  return (← Mandate.verifyMandateChain ext mandates mandateRef request params).humanRoot

def walkMandateForResource (store : Store) (env : Value) (roots : List KeyId) (subjectKey : KeyId)
    (at_ : String) (policy : Policy) (resource : String) : Result String := do
  let mandateRef ← mandateRefOf env
  let (mandates, params) := walkParams store mandateRef roots subjectKey at_ policy.maxDelegationDepth
  return (← Mandate.verifyMandateChainForResource ext mandates mandateRef resource params).humanRoot

/-- Walks the mandate chain once per action; the last walk's human root is kept. -/
def walkRequests (mandates : Members) (mandateRef component classification : String)
    (params : Mandate.VerifyParams) (requests : List (String × String)) :
    Result (Option String) :=
  foldChecked (fun _ (action, resource) => do
    let ok ← Mandate.verifyMandateChain ext mandates mandateRef
      { component, action, classification, resource } params
    return some ok.humanRoot) none requests

/-- Records a violation where none is recorded yet. -/
def flagViolation (plan : AppendPlan) (violation : String) : AppendPlan :=
  { plan with policyViolation := plan.policyViolation.or (some violation) }

/-- Whether adding to what a mandate has spent passes its budget. -/
def passesBudget (store : Store) (adding : Budget.Amounts) (mandateId : String) : Bool :=
  match (store.mandate mandateId).bind (·.get "budget") with
  | none => false
  | some cap => !(Budget.wouldExceed cap (store.spendOf mandateId) adding).isEmpty

def accrueBudget (store : Store) (env : Value) (plan : AppendPlan) : AppendPlan :=
  let adding := Budget.accrualOf env
  match env.getStr "mandate-ref" with
  | none => plan
  | some mandateRef =>
      if adding.isEmpty then plan
      else
        let line := store.mandateLine mandateRef
        let plan := if line.any (passesBudget store adding) then
            flagViolation plan "budget-exceeded-applied" else plan
        { plan with spend := some { mandates := line, amounts := adding } }

def validateTrigger (store : Store) (env : Value) : Result Unit :=
  match env.get "trigger" with
  | none => .ok ()
  | some trigger =>
      let signal := (trigger.getStr "signal-ref").bind fun reference =>
        (store.envelopeById reference).map fun record => record.canonicalJson.tree
      let mandate := (trigger.getStr "standing-mandate-ref").bind store.mandate
      Trigger.check env mandate signal

def validatePolicyChange (config : Config) (store : Store) (env : Value) (payloads : List Value)
    (plan : AppendPlan) : Result AppendPlan := do
  let argsHash ← argsHashOf env
  let document ← okOr (boundDocument payloads argsHash) (err "policy-change-document-unbound"
    ("the new policy document must be submitted alongside the change, and args-hash must be " ++
      "its object-hash"))
  let computed ← Jcs.objectHash ext document
  require (computed = argsHash) (err "policy-change-document-unbound"
    s!"the submitted policy hashes to {computed}, args-hash is {argsHash}")
  let incoming ← Policy.parse ext document config.policyKey
  let expectedTarget := s!"policy:{incoming.version}"
  require ((execution env).getStr "target" = some expectedTarget)
    (err "policy-change-target-mismatch" ("execution.target is " ++
      ((execution env).index "target").debug ext ++ ", expected " ++ debug expectedTarget))
  require (store.policyVersionExists incoming.version = false) (err "policy-version-reused"
    s!"policy version {incoming.version} has already been published")
  return { plan with projections := { plan.projections with
    policy := some (incoming.version, document, incoming.documentHash) } }

def validateRegistration (store : Store) (env : Value) (payloads : List Value)
    (plan : AppendPlan) : Result AppendPlan := do
  let argsHash ← argsHashOf env
  let document ← okOr (boundDocument payloads argsHash) (err "manifest-malformed"
    ("the manifest must be submitted alongside its registration, and args-hash must be its " ++
      "object-hash"))
  let manifest ← Manifest.parse ext document
  require (manifest.hash = argsHash)
    (err "manifest-malformed" "args-hash does not commit to the submitted manifest")
  let bound := store.manifestComponentKey manifest.name
  require (bound = none ∨ bound = some manifest.componentKey.text)
    (err "manifest-name-key-conflict" (manifest.name ++ " is already bound to " ++ bound.getD ""))
  require (store.manifestVersionExists manifest.name manifest.version = false)
    (err "manifest-version-retained" (s!"{manifest.name} {manifest.version} is already registered " ++
      "and versions are retained forever"))
  require (store.conformanceRunIsGreen manifest.hash) (err "manifest-conformance-not-green"
    s!"no applied kernel.conformance_run envelope commits to manifest {manifest.hash}")
  return { plan with projections := { plan.projections with
    manifest := some {
      name := manifest.name
      version := manifest.version
      hash := manifest.hash
      componentKey := manifest.componentKey.text
      document } } }

def validateRootChange (env : Value) (payloads : List Value) (roots : List KeyId)
    (subjectKey : KeyId) (plan : AppendPlan) : Result AppendPlan := do
  require (subjectKey ∈ roots) (err "mandate-root-not-enrolled"
    s!"{subjectKey.text} is not an enrolled human root and may not change the root set")
  match ← rootChange env payloads with
  | .enrol key subject =>
      return { plan with projections := { plan.projections with enrollRoot := some (key, subject) } }
  | .retire key =>
      return { plan with projections := { plan.projections with retireRoot := some key } }

/-- What the action of an envelope projects, by action. -/
def validateAction (store : Store) (env : Value) (payloads : List Value) (roots : List KeyId)
    (subjectKey : KeyId) (plan : AppendPlan) : Result AppendPlan :=
  match (execution env).getStr "action" with
  | some "kernel.register_component" => validateRegistration ext store env payloads plan
  | some "kernel.enroll_root" => validateRootChange env payloads roots subjectKey plan
  | some "kernel.retire_root" => validateRootChange env payloads roots subjectKey plan
  | some "kernel.resume_stream" => do
      let resume ← streamResume env payloads
      return { plan with projections := { plan.projections with streamResume := some resume } }
  | _ => .ok plan

/-- Whether only an enrolled root may approve the envelope. -/
def needsRoot (env : Value) : Bool :=
  rootApprovedActions.contains (((execution env).getStr "action").getD "")
    || env.getStr "kind" == some "policy-change"

/-- An attempt that was not applied changes nothing of what the system permits. -/
def clearPrivileged (plan : AppendPlan) : AppendPlan :=
  { plan with projections := { plan.projections with
    policy := none
    manifest := none
    enrollRoot := none
    retireRoot := none
    streamResume := none } }

/-- The state of a durable object after the transitions the store holds of it. -/
def foldedState (manifest : Manifest) (objectType : String) (history : List (String × String)) :
    Result (Option String) :=
  foldChecked (fun folded (past, _) => do
    return some (← manifest.checkTransition objectType past "agent" folded)) none history

def validateCommitment (store : Store) (env : Value) (manifest : Option Manifest)
    (subject : String) : Result Unit :=
  match env.get "commitment-ref" with
  | none => .ok ()
  | some commitment => do
      let objectType ← okOr (commitment.getStr "object-type")
        (err "schema-missing-member" "commitment-ref.object-type")
      let objectId ← okOr (commitment.getStr "object-id")
        (err "schema-missing-member" "commitment-ref.object-id")
      let transition ← okOr (commitment.getStr "transition")
        (err "schema-missing-member" "commitment-ref.transition")
      let manifest ← okOr manifest (err "durable-transition-not-permitted"
        s!"no registered manifest declares durable object {debug objectType}")
      let folded ← foldedState manifest objectType (store.durableTransitions objectType objectId)
      let signerRole := if Text.startsWith subject "human:" then "human" else "agent"
      let _ ← manifest.checkTransition objectType transition signerRole folded

/-- The request hash of the envelope's decision and the other envelope that spent it. -/
def spentBy (store : Store) (env : Value) (id : String) : Option (String × String) := do
  let hash ← ((env.index "authorization").index "decision").getStr "request-hash"
  let spender ← store.gateRequestSpentBy hash
  if spender ≠ id then some (hash, spender) else none

def nameSpender (spent : Option (String × String)) (e : Error) : Error :=
  match spent with
  | some (_, spender) =>
      if e.code = "gate-authorization-replayed" then
        err e.code s!"{e.detail} (spent by envelope {spender})"
      else e
  | none => e

def gateUseOf (env : Value) (ok : Gate.AuthorizationOk) : GateUse where
  requestHash := ok.requestHash
  decidedBy := ok.decidedBy.text
  singleUse := ok.singleUse
  notAfter := (((env.index "authorization").index "decision").getStr "not-after").getD
    ((env.getStr "emitted-at").getD "")

/-- What the gate makes of a verified authorization, or of its refusal. -/
def applyGate (env : Value) (applied : Bool) (plan : AppendPlan)
    (verified : Result (Option Gate.AuthorizationOk)) : Result AppendPlan :=
  match verified with
  | .ok (some ok) =>
      .ok { plan with gateUse := if applied then some (gateUseOf env ok) else none }
  | .ok none => .ok plan
  | .error e => if e.code = "gate-denied" ∧ applied = false then .ok plan else .error e

def isApplied (env : Value) : Bool :=
  let outcome := ((execution env).getStr "outcome").getD "applied"
  outcome == "applied" || outcome == "failed" || env.getStr "kind" == some "aggregate"

/-- Whether the decision requires an approval signature. -/
def requiresGate (decision : Decision) (rootApproved applied : Bool) : Bool :=
  match decision with
  | .gate _ => applied
  | .allow => rootApproved && applied
  | .deny => rootApproved && applied

/-- Who may approve the envelope. -/
def approversOf (store : Store) (env : Value) (decision : Decision) (emittedAt action : String) :
    List Gate.Approver :=
  if needsRoot env then rootApprovers store emittedAt
  else
    match decision with
    | .gate approvers => approverKeys store approvers emittedAt action
    | .allow => []
    | .deny => []

/-- The class policy gives the envelope, which it may not understate. -/
def classifyEnvelope (store : Store) (env : Value) (policy : Policy)
    (requests : List (String × String)) : Result (Option Manifest × String) := do
  let component := ((env.index "identity").getStr "component").getD ""
  let subject := ((env.index "identity").getStr "subject").getD ""
  let declaredClass := (env.getStr "classification").getD ""
  let manifest ← latestManifest ext store component
  let effective := effectiveClass policy subject manifest requests
  require (Policy.classWeight effective ≤ Policy.classWeight declaredClass)
    (err "policy-component-override-attempt"
      (s!"envelope claims {declaredClass}, policy computes {effective} for " ++
        ", ".intercalate (requests.map Prod.fst)))
  return (manifest, effective)

/-- The authority of an envelope: a mandate chain that permits each of its actions. -/
def walkEffect (store : Store) (env : Value) (policy : Policy) (roots : List KeyId)
    (subjectKey : KeyId) (requests : List (String × String)) : Result (Option String) := do
  let emittedAt := (env.getStr "emitted-at").getD ""
  let component := ((env.index "identity").getStr "component").getD ""
  let classification := if env.getStr "kind" = some "aggregate" then "read"
    else (env.getStr "classification").getD ""
  let mandateRef ← mandateRefOf env
  let (mandates, params) :=
    walkParams store mandateRef roots subjectKey emittedAt policy.maxDelegationDepth
  walkRequests ext mandates mandateRef component classification params requests

/-- A policy change projects its document, whatever its action. -/
def projectPolicy (config : Config) (store : Store) (env : Value) (payloads : List Value)
    (plan : AppendPlan) : Result AppendPlan :=
  if env.getStr "kind" = some "policy-change" then
    validatePolicyChange ext config store env payloads plan
  else .ok plan

/-- What the envelope projects, once what it may not project is cleared. -/
def projectEffect (config : Config) (store : Store) (env : Value) (payloads : List Value)
    (roots : List KeyId) (subjectKey : KeyId) (plan : AppendPlan) : Result AppendPlan := do
  let plan ← projectPolicy ext config store env payloads plan
  let plan ← validateAction ext store env payloads roots subjectKey plan
  return if isApplied env = false ∧ needsRoot env = true then clearPrivileged plan else plan

/-- Verifies the authorization the decision requires, or the envelope carries. -/
def authorize (store : Store) (env : Value) (decision : Decision)
    (spent : Option (String × String)) : Result (Option Gate.AuthorizationOk) :=
  let emittedAt := (env.getStr "emitted-at").getD ""
  let action := ((execution env).getStr "action").getD ""
  Gate.verifyAuthorization ext env (requiresGate decision (needsRoot env) (isApplied env))
    (approversOf store env decision emittedAt action) (spent.toList.map Prod.fst)

def flagDenied (env : Value) (decision : Decision) (plan : AppendPlan) : AppendPlan :=
  if decision = .deny ∧ isApplied env = true then flagViolation plan "policy-denied-applied"
  else plan

/-- The gate rule: the approval the decision requires, verified. -/
def gateEffect (store : Store) (env : Value) (policy : Policy) (effective : String)
    (plan : AppendPlan) : Result AppendPlan := do
  let decision := policy.decisionFor effective (((execution env).getStr "action").getD "")
  Envelope.whenPresent (env.get "authorization") (GateQueue.validateEmbedded ext)
  let spent := spentBy store env plan.id
  applyGate env (isApplied env) (flagDenied env decision plan)
    ((authorize ext store env decision spent).mapError (nameSpender spent))

/-- A prohibited action that was applied is a violation, whatever else is. -/
def flagProhibited (env : Value) (effective : String) (plan : AppendPlan) : AppendPlan :=
  if effective = "prohibited" ∧ isApplied env = true then
    { plan with policyViolation := some "prohibited-applied" }
  else plan

def checkAggregate (env : Value) (policy : Policy) : Result Unit :=
  if env.getStr "kind" = some "aggregate" then validateAggregateWindow env policy else .ok ()

def validateEffectKind (config : Config) (store : Store) (env : Value) (policy : Policy)
    (roots : List KeyId) (subjectKey : KeyId) (plan : AppendPlan) (payloads : List Value) :
    Result AppendPlan := do
  let subject := ((env.index "identity").getStr "subject").getD ""
  let requests ← effectRequests env
  let (manifest, effective) ← classifyEnvelope ext store env policy requests
  let plan := flagProhibited env effective { plan with effectiveClass := some effective }
  let humanRoot ← walkEffect ext store env policy roots subjectKey requests
  let plan := accrueBudget store env { plan with humanRoot }
  validateTrigger store env
  checkAggregate env policy
  let plan ← projectEffect ext config store env payloads roots subjectKey plan
  validateCommitment store env manifest subject
  let plan ← gateEffect ext store env policy effective plan
  collectPayloads env payloads policy (some effective) plan

end Stozher.Ingest
