import Stozher.Display
import Stozher.Gate

namespace Stozher.Gateway

open Library

variable (ext : External)

/-- What an action request commits to. -/
structure ActionRequest where
  subject : String
  key : String
  component : String
  mandateRef : String
  policyVersion : String
  classification : String
  action : String
  target : String
  argsHash : String

namespace ActionRequest

/-- The nine members, under the names a request gives them. -/
def fields (ask : ActionRequest) : List (String × String) := [
  ("subject", ask.subject),
  ("key", ask.key),
  ("component", ask.component),
  ("mandate-ref", ask.mandateRef),
  ("policy-version", ask.policyVersion),
  ("classification", ask.classification),
  ("action", ask.action),
  ("target", ask.target),
  ("args-hash", ask.argsHash)]

end ActionRequest

/-- The request an approver signs the hash of. -/
def actionRequest (ask : ActionRequest) (requestedAt nonce notAfter : String) : Value :=
  .object ([("v", .string "stozher/0.1"), ("kind", .string "action-request"),
    ("requested-at", .string requestedAt)] ++
    ask.fields.map (fun (name, value) => (name, .string value)) ++
    [("nonce", .string nonce), ("not-after", .string notAfter)])

/-- The string at a member, or the refusal of its absence. -/
def present (value : Value) (what : String) : Result String :=
  okOr value.asStr (err "schema-missing-member" what)

def verifyDecision (request decision : Value) : Result (String × KeyId) := do
  let requestHash ← Jcs.objectHash ext request
  require ((decision.index "request-hash").asStr = some requestHash)
    (err "gate-authorization-request-hash-mismatch" requestHash)
  let approverKey ← (Signed.verifySignedObject ext decision).mapError fun _ =>
    err "gate-decision-sig-invalid" "the approver's signature does not verify"
  return (requestHash, approverKey)

/-- The subject a key acts as may not approve what that subject requested. -/
def checkActingAs (approverKey : KeyId) (actingAs requestedBy : Option String) : Result Unit :=
  match actingAs, requestedBy with
  | some actingAs, some requestedBy => require (actingAs ≠ requestedBy) (err "gate-self-approval"
      s!"{approverKey.text} acts as {actingAs}, which requested the action")
  | _, _ => .ok ()

/-- Nobody approves their own action, under their key or under the subject the key is known by. -/
def verifyApprover (request : Value) (approverKey : KeyId) (approvers : List Gate.Approver) :
    Result Unit := do
  let requesterKey ← present (request.index "key") "authorization.request.key"
  require (approverKey.text ≠ requesterKey) (err "gate-self-approval" approverKey.text)
  let approver := approvers.find? fun candidate => candidate.key == approverKey
  checkActingAs approverKey (approver.bind Gate.Approver.subject) (request.index "subject").asStr
  require approver.isSome (err "gate-approver-not-permitted" approverKey.text)

def verifyVerdict (decision : Value) : Result Unit :=
  match (decision.index "decision").asStr with
  | some "approve" => .ok ()
  | some "deny" =>
      let reason := ((decision.index "reason").asStr).getD ""
      .error (if reason = "" then err "gate-denial-without-reason" "a denial must say why"
        else err "gate-denied" reason)
  | _ => .error (err "gate-decision-unknown" ((decision.index "decision").display ext))

/-- The request had not timed out when it was decided, and the effect happened inside the approval's
window. -/
def verifyWindow (request decision when_ : Value) : Result Unit := do
  let decidedAt ← present (decision.index "decided-at") "authorization.decision.decided-at"
  let decisionNotAfter ← present (decision.index "not-after") "authorization.decision.not-after"
  let requestNotAfter ← present (request.index "not-after") "authorization.request.not-after"
  let when_ ← present when_ "emitted-at"
  forEach (fun (what, value) => require (Envelope.isTimestamp value)
      (err "encoding-bad-timestamp" s!"{what} = {value}"))
    [("authorization.decision.decided-at", decidedAt),
      ("authorization.decision.not-after", decisionNotAfter),
      ("authorization.request.not-after", requestNotAfter), ("emitted-at", when_)]
  require (decidedAt ≤ requestNotAfter) (err "gate-request-expired" requestNotAfter)
  require (decidedAt ≤ when_ ∧ when_ ≤ decisionNotAfter) (err "gate-approval-expired" decisionNotAfter)

/-- Whether the request and the envelope agree on a member. -/
def agrees (request envelope : Value) (entry : String × List String) : Bool :=
  (request.index entry.1).same (entry.2.foldl Value.index envelope)

def singleUse (decision : Value) : Bool :=
  ((decision.get "single-use").bind Value.asBool).getD true

/-- The eleven steps, as a component that enforces locally takes them. -/
def verifyAuthorization (envelope : Value) (requiresGate : Bool) (approvers : List Gate.Approver)
    (seenRequestHashes : List String) (at_ : Option String) : Result (Option Gate.AuthorizationOk) :=
  let authorization := envelope.index "authorization"
  if authorization.isNull then do
    require (requiresGate = false)
      (err "gate-authorization-missing" "a gate rule applies and no approval is present")
    return none
  else do
    let request := authorization.index "request"
    let decision := authorization.index "decision"
    require (request.isObject ∧ decision.isObject)
      (err "schema-type-mismatch" "authorization needs a request and a decision")
    let (requestHash, decidedBy) ← verifyDecision ext request decision
    verifyApprover request decidedBy approvers
    verifyVerdict ext decision
    verifyWindow request decision ((at_.map Value.string).getD (envelope.index "emitted-at"))
    require (Gate.bound.all (agrees request envelope)) (err "gate-authorization-action-mismatch"
      ((request.index "action").display ext))
    require (¬ (singleUse decision = true ∧ requestHash ∈ seenRequestHashes))
      (err "gate-authorization-replayed" requestHash)
    return some { requestHash, decidedBy, singleUse := singleUse decision }

end Stozher.Gateway
