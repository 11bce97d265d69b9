import Stozher.Envelope

namespace Stozher.Gate

open Library

variable (ext : External)

structure Approver where
  key : KeyId
  subject : Option String
  deriving DecidableEq

def Approver.named (key : KeyId) (subject : String) : Approver :=
  { key, subject := some subject }

structure AuthorizationOk where
  requestHash : String
  decidedBy : KeyId
  singleUse : Bool
  deriving DecidableEq

/-- The members of a request, and where the envelope holds what was performed. -/
def bound : List (String × List String) := [
  ("subject", ["identity", "subject"]),
  ("key", ["identity", "key"]),
  ("component", ["identity", "component"]),
  ("mandate-ref", ["mandate-ref"]),
  ("policy-version", ["policy-version"]),
  ("classification", ["classification"]),
  ("action", ["execution", "action"]),
  ("target", ["execution", "target"]),
  ("args-hash", ["execution", "args-hash"])]

def performedAt (envelope : Value) (path : List String) : Option String :=
  (path.foldl (fun cursor key => cursor.bind (·.get key)) (some envelope)).bind Value.asStr

def checkBound (request envelope : Value) (entry : String × List String) : Result Unit :=
  let approved := request.getStr entry.1
  let performed := performedAt envelope entry.2
  require (approved = performed) (err "gate-authorization-action-mismatch"
    s!"{entry.1}: approved {debugOption approved}, performed {debugOption performed}")

/-- The signer of a decision over exactly this request. -/
def verifyDecision (request decision : Value) : Result (String × KeyId) := do
  let requestHash ← Jcs.objectHash ext request
  let claimedHash ← okOr (decision.getStr "request-hash")
    (err "schema-missing-member" "authorization.decision.request-hash")
  require (requestHash = claimedHash) (err "gate-authorization-request-hash-mismatch"
    s!"request hashes to {requestHash}, decision covers {claimedHash}")
  let decidedBy ← (Signed.verifySignedObject ext decision).mapError fun e =>
    err "gate-decision-sig-invalid" e.detail
  return (requestHash, decidedBy)

/-- A key listed under a subject may not approve what that subject requested. -/
def checkActingAs (decidedBy : KeyId) (actingAs requestedBy : Option String) : Result Unit :=
  match actingAs, requestedBy with
  | some actingAs, some requestedBy => require (actingAs ≠ requestedBy) (err "gate-self-approval"
      s!"{decidedBy.text} acts as {actingAs}, the subject that requested the action")
  | _, _ => .ok ()

/-- The deciding key is a permitted approver, and not the requester under any name it is listed by. -/
def verifyApprover (request : Value) (decidedBy : KeyId) (approvers : List Approver) :
    Result Unit := do
  let requester ← okOr (request.getStr "key")
    (err "schema-missing-member" "authorization.request.key")
  require (decidedBy.text ≠ requester)
    (err "gate-self-approval" s!"{decidedBy.text} approved its own request")
  let approver := approvers.find? fun candidate => candidate.key == decidedBy
  checkActingAs decidedBy (approver.bind Approver.subject) (request.getStr "subject")
  require approver.isSome
    (err "gate-approver-not-permitted" s!"{decidedBy.text} is not an approver here")

def verifyVerdict (decision : Value) (decidedBy : KeyId) : Result Unit := do
  let verdict ← okOr (decision.getStr "decision")
    (err "schema-missing-member" "authorization.decision.decision")
  match verdict with
  | "approve" => pure ()
  | "deny" =>
      let reason := (decision.getStr "reason").getD ""
      require (reason ≠ "") (err "gate-denial-without-reason" "a denial must state why")
      throw (err "gate-denied" s!"denied by {decidedBy.text}: {reason}")
  | other => throw (err "gate-decision-unknown" s!"decision {debug other}")

def verifyWindow (envelope request decision : Value) : Result Unit := do
  let decidedAt ← okOr (decision.getStr "decided-at")
    (err "schema-missing-member" "authorization.decision.decided-at")
  let decisionNotAfter ← okOr (decision.getStr "not-after")
    (err "schema-missing-member" "authorization.decision.not-after")
  let requestNotAfter ← okOr (request.getStr "not-after")
    (err "schema-missing-member" "authorization.request.not-after")
  let at_ ← okOr (envelope.getStr "emitted-at") (err "schema-missing-member" "emitted-at")
  forEach (fun (what, value) => require (Envelope.isTimestamp value)
      (err "encoding-bad-timestamp" s!"{what} = {debug value}"))
    [("authorization.decision.decided-at", decidedAt),
      ("authorization.decision.not-after", decisionNotAfter),
      ("authorization.request.not-after", requestNotAfter), ("emitted-at", at_)]
  require (decidedAt ≤ requestNotAfter) (err "gate-request-expired"
    s!"decided at {decidedAt}, request expired at {requestNotAfter}")
  require (decidedAt ≤ at_ ∧ at_ ≤ decisionNotAfter) (err "gate-approval-expired"
    s!"emitted at {at_}, approval valid [{decidedAt}, {decisionNotAfter}]")

def singleUse (decision : Value) : Bool :=
  ((decision.get "single-use").bind Value.asBool).getD true

def verifyAuthorization (envelope : Value) (requiresGate : Bool) (approvers : List Approver)
    (seenRequestHashes : List String) : Result (Option AuthorizationOk) :=
  match envelope.get "authorization" with
  | none => do
      require (requiresGate = false)
        (err "gate-authorization-missing" "a gated action carries no approval signature")
      return none
  | some authorization => do
      let request ← okOr (authorization.get "request")
        (err "schema-missing-member" "authorization.request")
      let decision ← okOr (authorization.get "decision")
        (err "schema-missing-member" "authorization.decision")
      let (requestHash, decidedBy) ← verifyDecision ext request decision
      verifyApprover request decidedBy approvers
      verifyVerdict decision decidedBy
      verifyWindow envelope request decision
      forEach (checkBound request envelope) bound
      require (singleUse decision = true → requestHash ∉ seenRequestHashes)
        (err "gate-authorization-replayed" s!"request {requestHash} was already used")
      return some { requestHash, decidedBy, singleUse := singleUse decision }

end Stozher.Gate
