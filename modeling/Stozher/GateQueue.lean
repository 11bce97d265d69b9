import Stozher.Clock
import Stozher.Display

namespace Stozher.GateQueue

open Library Library.Text

variable (ext : External)

def members : List String := [
  "v", "kind", "requested-at", "subject", "key", "component", "mandate-ref", "policy-version",
  "classification", "action", "target", "args-hash", "nonce", "not-after"]

structure GateRequest where
  requestHash : String
  request : Value
  subject : String
  subjectKey : String
  component : String
  mandateRef : String
  policyVersion : String
  classification : String
  action : String
  target : String
  argsHash : String
  requestedAt : String
  notAfter : String

/-- A member that must be there and be a string. -/
def text (map : Members) (name : String) : Result String := do
  let value ← okOr (map.get name) (err "schema-missing-member" name)
  okOr value.asStr (err "schema-type-mismatch" s!"{name} must be a string")

def checkNonce (nonce : String) : Result Unit := do
  require (nonce.utf8ByteSize = 32 ∧ (octets nonce).all isAsciiHexDigit)
    (err "encoding-not-lowercase-hex"
      "nonce must be 32 lowercase hex digits (128 bits of entropy)")
  require ((octets nonce).all (fun b => !isAsciiUppercase b))
    (err "encoding-not-lowercase-hex" "nonce must be lowercase")

def validate (request : Value) (at_ : String) : Result GateRequest := do
  let map ← okOr request.asObject
    (err "schema-type-mismatch" "an action request must be an object")
  forEach (fun key => require (key ∈ members) (err "schema-unknown-member" key)) map.keys
  require ((← text map "v") = Envelope.version)
    (err "envelope-version-unsupported" s!"an action request is {Envelope.version}")
  require ((← text map "kind") = "action-request") (err "envelope-unknown-kind"
    ("kind is " ++ (request.index "kind").debug ext ++ ", not \"action-request\""))
  let subject ← text map "subject"
  require (contains subject ':')
    (err "schema-type-mismatch" "subject must be of the form <class>:<name>")
  let subjectKey ← KeyId.parse (← text map "key")
  let classification ← text map "classification"
  require (classification ∈ Envelope.classes)
    (err "envelope-classification-unknown" classification)
  let mandateRef ← text map "mandate-ref"
  let argsHash ← text map "args-hash"
  forEach (fun (name, value) => require (Crypto.isDigestHex value)
    (err "encoding-not-lowercase-hex" s!"{name} must be 64 lowercase hex digits"))
    [("mandate-ref", mandateRef), ("args-hash", argsHash)]
  checkNonce (← text map "nonce")
  let component ← text map "component"
  let policyVersion ← text map "policy-version"
  let action ← text map "action"
  let target ← text map "target"
  forEach (fun (name, value) => require (value ≠ "")
    (err "schema-missing-member" s!"{name} must not be empty"))
    [("component", component), ("policy-version", policyVersion), ("action", action),
      ("target", target)]
  let requestedAt ← text map "requested-at"
  let notAfter ← text map "not-after"
  let _ ← Clock.parseTimestamp requestedAt
  let _ ← Clock.parseTimestamp notAfter
  require (requestedAt < notAfter) (err "gate-request-expired"
    s!"not-after {notAfter} does not follow requested-at {requestedAt}")
  require (at_ < notAfter) (err "gate-request-expired"
    s!"not-after {notAfter} has already passed at {at_}")
  return {
    requestHash := ← Jcs.objectHash ext request
    request, subject, subjectKey := subjectKey.text, component, mandateRef, policyVersion,
    classification, action, target, argsHash, requestedAt, notAfter }

def decisionMembers : List String := [
  "v", "kind", "request-hash", "decision", "decided-at", "not-after", "single-use", "reason", "sig"]

def validateEmbeddedDecision (decision : Value) : Result Unit := do
  let map ← okOr decision.asObject
    (err "schema-type-mismatch" "a gate decision must be an object")
  forEach (fun key => require (key ∈ decisionMembers)
    (err "schema-unknown-member" s!"decision.{key}")) map.keys
  require ((map.get "v").bind Value.asStr = some Envelope.version)
    (err "envelope-version-unsupported" s!"a gate decision is {Envelope.version}")
  require ((map.get "kind").bind Value.asStr = some "gate-decision")
    (err "envelope-unknown-kind" "a decision object is kind \"gate-decision\"")
  forEach (fun name => do
    let value ← okOr (map.get name) (err "schema-missing-member" s!"decision.{name}")
    require value.isString (err "schema-type-mismatch" s!"decision.{name} must be a string"))
    ["request-hash", "decision", "decided-at", "not-after"]
  require (Crypto.isDigestHex ((decision.getStr "request-hash").getD ""))
    (err "encoding-not-lowercase-hex" "decision.request-hash must be 64 lowercase hex digits")
  let _ ← Clock.parseTimestamp ((decision.getStr "decided-at").getD "")
  let _ ← Clock.parseTimestamp ((decision.getStr "not-after").getD "")

def validateEmbedded (authorization : Value) : Result Unit := do
  let request ← okOr (authorization.get "request")
    (err "schema-missing-member" "authorization.request")
  let decision ← okOr (authorization.get "decision")
    (err "schema-missing-member" "authorization.decision")
  forEach (fun key => require (key ∈ ["request", "decision"])
    (err "schema-unknown-member" s!"authorization.{key}"))
    (Members.keys (authorization.asObject.getD []))
  let requestedAt ← okOr (request.getStr "requested-at")
    (err "schema-missing-member" "requested-at")
  let _ ← validate ext request requestedAt
  validateEmbeddedDecision decision

structure GateDecision where
  requestHash : String
  verdict : String
  reason : Option String
  decidedBy : KeyId
  decidedAt : String
  decision : Value

def checkVerdict (verdict : String) (reason : Option String) : Result Unit :=
  if verdict = "approve" then .ok ()
  else if verdict = "deny" then
    require (reason.getD "" ≠ "") (err "gate-denial-without-reason" ("a denial must state why — " ++
      "the reason is what the agent is owed and what policy tier 3 learns from"))
  else .error (err "gate-decision-unknown" s!"decision {debug verdict}")

def checkDecision (decision : Value) (request : GateRequest) : Result GateDecision := do
  require (decision.getStr "kind" = some "gate-decision")
    (err "envelope-unknown-kind" "a decision object is kind \"gate-decision\"")
  require (decision.getStr "request-hash" = some request.requestHash)
    (err "gate-authorization-request-hash-mismatch"
      s!"the decision does not cover request {request.requestHash}")
  let decidedBy ← (Signed.verifySignedObject ext decision).mapError fun e =>
    err "gate-decision-sig-invalid" e.detail
  require (decidedBy.text ≠ request.subjectKey)
    (err "gate-self-approval" s!"{decidedBy.text} decided its own request")
  let decidedAt ← okOr (decision.getStr "decided-at")
    (err "schema-missing-member" "decision.decided-at")
  let notAfter ← okOr (decision.getStr "not-after")
    (err "schema-missing-member" "decision.not-after")
  let _ ← Clock.parseTimestamp decidedAt
  let _ ← Clock.parseTimestamp notAfter
  let verdict ← okOr (decision.getStr "decision")
    (err "schema-missing-member" "decision.decision")
  let reason := decision.getStr "reason"
  checkVerdict verdict reason
  require (decidedAt ≤ request.notAfter) (err "gate-request-expired"
    s!"decided at {decidedAt}, the request expired at {request.notAfter}")
  require (decidedAt < notAfter) (err "gate-approval-expired"
    s!"the approval window [{decidedAt}, {notAfter}] is empty")
  return { requestHash := request.requestHash, verdict, reason, decidedBy, decidedAt, decision }

end Stozher.GateQueue
