import Stozher.Ingest.Effect
import Stozher.Mandate.Grant

namespace Stozher.Ingest

open Library

variable (ext : External)

def projectMandate (mandate : Value) (plan : AppendPlan) : Result AppendPlan := do
  return { plan with projections := { plan.projections with
    mandate := some (← Signed.objectId ext mandate, mandate) } }

/-- The parent of a delegated grant, which must be stored. -/
def grantParent (store : Store) (mandate : Value) : Result (Option Value) :=
  match mandate.getStr "mandate-kind", mandate.getStr "parent" with
  | some "delegated", some parentRef => do
      let parent ← okOr (store.mandate parentRef)
        (err "mandate-unresolved" s!"no mandate {parentRef}")
      return some parent
  | _, _ => .ok none

def validateMandateGrant (store : Store) (env : Value) (policy : Policy) (roots : List KeyId)
    (plan : AppendPlan) : Result AppendPlan := do
  let mandate ← okOr (env.get "mandate") (err "schema-missing-member" "mandate")
  let issuedAt ← okOr (mandate.getStr "issued-at")
    (err "schema-missing-member" "mandate.issued-at")
  let parent ← grantParent store mandate
  let ceiling ← policy.standingLifetimeCeiling issuedAt
  Mandate.verifyGrant ext mandate parent { roots, maxStandingNotAfter := some ceiling }
  projectMandate ext mandate plan

/-- `==` on members that may be absent. -/
def sameMember (a b : Option Value) : Bool :=
  match a, b with
  | some a, some b => a.same b
  | none, none => true
  | _, _ => false

def validateRevocation (store : Store) (env : Value) (roots : List KeyId) (plan : AppendPlan) :
    Result AppendPlan := do
  let object ← okOr (env.get "revocation") (err "schema-missing-member" "revocation")
  forEach (fun name => require (sameMember (env.get name) (object.get name))
    (err "revocation-object-mismatch"
      s!"the envelope's {name} does not match the signed revocation object"))
    ["revokes", "revoked-at", "reason"]
  let target ← okOr (env.getStr "revokes") (err "schema-missing-member" "revokes")
  require (Crypto.isDigestHex target)
    (err "encoding-not-lowercase-hex" "revokes must be a 64-hex mandate id")
  let revokedAt ← okOr (env.getStr "revoked-at") (err "schema-missing-member" "revoked-at")
  let _ ← Clock.parseTimestamp revokedAt
  Mandate.verifyRevocation ext (store.mandateAncestry target 16) object roots
  return { plan with projections := { plan.projections with
    revocation := some (← Signed.objectId ext env, object) } }

/-- The keys that may answer a parked request: the approvers of consequential work, or the roots. -/
def permittedDeciders (store : Store) (policy : Policy) (at_ : String) : List Gate.Approver :=
  match policy.decisionFor "consequential" "*" with
  | .gate approvers => approverKeys store approvers at_ ""
  | _ => rootApprovers store at_

def checkDecisionVerdict (decision : Value) : Result Unit :=
  match decision.getStr "decision" with
  | some "approve" => .ok ()
  | some "deny" => require ((decision.getStr "reason").getD "" ≠ "")
      (err "gate-denial-without-reason" "a denial must state why")
  | other => .error (err "gate-decision-unknown" s!"decision {debugOption other}")

/-- The answer to a queued request, as the queue records it. -/
def decideQueued (store : Store) (decision request : Value) (at_ : String) (plan : AppendPlan) :
    Result AppendPlan := do
  let requestedAt := (request.getStr "requested-at").getD at_
  let queued ← GateQueue.validate ext request requestedAt
  let checked ← GateQueue.checkDecision ext decision queued
  require (subjectOf store checked.decidedBy at_ ≠ some queued.subject)
    (err "gate-self-approval" s!"{queued.subject} decided its own subject's request")
  return { plan with projections := { plan.projections with
    gateDecision := some {
      requestHash := checked.requestHash
      verdict := checked.verdict
      reason := checked.reason
      decidedBy := checked.decidedBy.text
      decidedAt := checked.decidedAt
      decision := checked.decision } } }

def validateGateDecision (store : Store) (env : Value) (roots : List KeyId) (policy : Policy)
    (at_ : String) (plan : AppendPlan) : Result AppendPlan := do
  let decisionOf ← okOr (env.getStr "decision-of") (err "schema-missing-member" "decision-of")
  require (Crypto.isDigestHex decisionOf)
    (err "encoding-not-lowercase-hex" "decision-of must be a 64-hex request hash")
  match env.get "decision" with
  | none => return plan
  | some decision => do
      let signer ← (Signed.verifySignedObject ext decision).mapError fun e =>
        err "gate-decision-sig-invalid" e.detail
      require (decision.getStr "request-hash" = some decisionOf)
        (err "gate-authorization-request-hash-mismatch"
          "decision-of must equal the decision's request-hash")
      checkDecisionVerdict decision
      let permitted := permittedDeciders store policy at_
      require ((permitted.any fun a => a.key == signer) = true ∨ signer ∈ roots)
        (err "gate-approver-not-permitted"
          s!"{signer.text} is not an approver in this deployment")
      match store.gateRequest decisionOf with
      | some (request, _) => decideQueued ext store decision request at_ plan
      | none => return plan

def checkpointMembers : List String :=
  ["stream", "from-seq", "to-seq", "head-hash", "count", "observed-at"]

def checkpointClaim (body : Members) : Result (CheckpointClaim × Nat) := do
  let missing := fun name => err "schema-missing-member" s!"checkpoint.{name}"
  let stream ← okOr ((body.get "stream").bind Value.asStr) (missing "stream")
  let fromSeq ← okOr ((body.get "from-seq").bind Value.asU64) (missing "from-seq")
  let toSeq ← okOr ((body.get "to-seq").bind Value.asU64) (missing "to-seq")
  let count ← okOr ((body.get "count").bind Value.asU64) (missing "count")
  let headHash ← okOr ((body.get "head-hash").bind Value.asStr) (missing "head-hash")
  let observedAt ← okOr ((body.get "observed-at").bind Value.asStr) (missing "observed-at")
  return ({ stream, fromSeq, toSeq, headHash, observedAt }, count)

def validateCheckpoint (config : Config) (store : Store) (env : Value) (plan : AppendPlan) :
    Result AppendPlan := do
  let body ← okOr ((env.get "checkpoint").bind Value.asObject)
    (err "schema-missing-member" "checkpoint")
  forEach (fun key => require (key ∈ checkpointMembers)
    (err "schema-unknown-member" s!"checkpoint.{key}")) body.keys
  require ((env.index "sig").getStr "key" = some config.kernelKey.id.text)
    (err "checkpoint-signer-not-kernel"
      "a checkpoint must be signed by the kernel's enrolled checkpoint key")
  let (claim, count) ← checkpointClaim body
  let _ ← Clock.parseTimestamp claim.observedAt
  require (count = (claim.toSeq - claim.fromSeq) + 1) (err "checkpoint-count-mismatch"
    s!"count {count} does not match [{claim.fromSeq}, {claim.toSeq}]")
  require (store.streamKind claim.stream).isSome (err "checkpoint-stream-unknown"
    s!"no stream {claim.stream} has been written to")
  let attestedEnvelope ← okOr (store.range claim.stream claim.toSeq claim.toSeq).head?
    (err "checkpoint-head-mismatch" s!"{claim.stream} has no envelope at seq {claim.toSeq}")
  let attested ← Signed.objectId ext attestedEnvelope
  require (attested = claim.headHash) (err "checkpoint-head-mismatch"
    s!"head of {claim.stream} at {claim.toSeq} is {attested}, attested {claim.headHash}")
  return { plan with projections := { plan.projections with checkpoint := some claim } }

/-- The resource a cognition envelope names. -/
def resourceOf (env : Value) : Result String :=
  match (env.index "resource").getStr "kind", (env.index "resource").getStr "name" with
  | some kind, some name => .ok s!"{kind}:{name}"
  | _, _ => .error (err "schema-missing-member"
      "resource.kind and resource.name are required to check scope")

def validateCognition (store : Store) (env : Value) (policy : Policy) (roots : List KeyId)
    (subjectKey : KeyId) (plan : AppendPlan) : Result AppendPlan := do
  let resource ← resourceOf env
  let emittedAt := (env.getStr "emitted-at").getD ""
  let humanRoot ← walkMandateForResource ext store env roots subjectKey emittedAt policy resource
  return accrueBudget store env { plan with humanRoot := some humanRoot }

end Stozher.Ingest
