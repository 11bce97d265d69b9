import Stozher.Append
import Stozher.Manifest
import Stozher.Payload
import Stozher.Policy
import Stozher.Rejection
import Stozher.Trigger

namespace Stozher.Ingest

open Library Library.Text

variable (ext : External)

/-- What the kernel is configured with. -/
structure Config where
  policyKey : KeyId
  maxFutureSkewSeconds : Int
  kernelCoreStream : String
  rejectionStream : String
  kernelKey : Signed.SigningKey

structure Claims where
  stream : Option String
  seq : Option Nat
  kind : Option String
  deriving DecidableEq

def effectKinds : List String := ["effect", "policy-change", "aggregate"]

/-- The actions only an enrolled root may approve. -/
def rootApprovedActions : List String := [
  "kernel.publish_policy", "kernel.register_component", "kernel.enroll_root",
  "kernel.retire_root", "kernel.conformance_run", "kernel.resume_stream"]

def execution (env : Value) : Value :=
  env.index "execution"

/-- The submitted document that `args-hash` names. -/
def boundDocument (payloads : List Value) (argsHash : String) : Option Value :=
  (payloads.find? fun p => p.getStr "payload-hash" == some argsHash).map (·.index "payload")

def argsHashOf (env : Value) : Result String :=
  okOr ((execution env).getStr "args-hash") (err "schema-missing-member" "execution.args-hash")

inductive RootChange where
  | enrol (key : KeyId) (subject : String)
  | retire (key : KeyId)
  deriving DecidableEq

/-- The human an enrolment names, in evidence that names the enrolled key too. -/
def enrolledSubject (env : Value) (payloads : List Value) (enrolled : KeyId) : Result String := do
  let argsHash ← argsHashOf env
  let evidence ← okOr (boundDocument payloads argsHash) (err "root-enrollment-malformed"
    "an enrolment must submit the evidence its args-hash commits to, naming the human")
  let subject := (evidence.getStr "subject").getD ""
  require (startsWith subject "human:" = true ∧ 6 < subject.utf8ByteSize)
    (err "root-enrollment-malformed"
      s!"the evidence names {debug subject}, which is not a human subject")
  let key ← okOr (evidence.getStr "key")
    (err "root-enrollment-malformed" "the evidence names no key")
  require (key = enrolled.text) (err "root-enrollment-malformed"
    s!"the evidence names key {key}, execution.target names {enrolled.text}")
  return subject

def rootChange (env : Value) (payloads : List Value) : Result RootChange := do
  let target := ((execution env).getStr "target").getD ""
  let key ← okOr (stripPrefix target "root:") (err "root-enrollment-malformed"
    s!"execution.target {debug target} must be root:ed25519:<64 hex>")
  let key ← (KeyId.parse key).mapError fun e => err "root-enrollment-malformed"
    s!"execution.target does not name a key: {e.detail}"
  if (execution env).getStr "action" = some "kernel.enroll_root" then
    return .enrol key (← enrolledSubject env payloads key)
  else return .retire key

def resumeMembers : List String := ["stream", "resume-seq", "refused-object-hash", "reason-code"]

def streamResume (env : Value) (payloads : List Value) : Result StreamResume := do
  let malformed := err "stream-resume-malformed"
  let target := ((execution env).getStr "target").getD ""
  let named ← okOr (stripPrefix target "stream:")
    (malformed s!"execution.target {debug target} must be stream:<stream>")
  let argsHash ← argsHashOf env
  let document ← okOr (boundDocument payloads argsHash) (err "stream-resume-unbound"
    "a resume must submit the document its args-hash commits to")
  let members ← okOr document.asObject (malformed "the resume document must be a JSON object")
  forEach (fun key => require (key ∈ resumeMembers)
    (malformed s!"unknown member {debug key} in the resume document")) members.keys
  let stream ← okOr ((members.get "stream").bind Value.asStr) (malformed "stream")
  require (stream = named)
    (malformed s!"the document resumes {stream}, execution.target names {named}")
  let resumeSeq ← okOr ((members.get "resume-seq").bind Value.asU64) (malformed "resume-seq")
  let bridgeHash ← okOr
    (((members.get "refused-object-hash").bind Value.asStr).filter Crypto.isDigestHex)
    (malformed "refused-object-hash must be 64 lowercase hex characters")
  let reasonCode ← okOr (((members.get "reason-code").bind Value.asStr).filter (· != ""))
    (malformed "reason-code")
  return { stream, resumeSeq, bridgeHash, reasonCode }

/-- The retention of the section that commits to the payload. -/
def retainUntilFor (env : Value) (payloadHash : String) : Option String := do
  let evidence ← env.get "evidence"
  if evidence.getStr "payload-hash" = some payloadHash then evidence.getStr "retain-until"
  else
    let signal ← env.get "signal"
    if signal.getStr "payload-hash" = some payloadHash then signal.getStr "retain-until" else none

def validateAggregateWindow (env : Value) (policy : Policy) : Result Unit := do
  let start ← okOr ((env.index "window").getStr "from") (err "schema-missing-member" "window.from")
  let stop ← okOr ((env.index "window").getStr "to") (err "schema-missing-member" "window.to")
  require (start ≤ stop)
    (err "aggregate-window-inverted" s!"window [{start}, {stop}] is inverted")
  let ceiling ← Clock.shift start policy.aggregateMaxWindowSeconds
  require (stop ≤ ceiling) (err "aggregate-window-too-long"
    s!"window ends at {stop}, later than the policy ceiling {ceiling}")

/-- The hash a rejection records of the refused bytes. -/
def rejectedBytesHash (raw : Octets) : String :=
  match ext.parseOctets raw >>= Jcs.objectHash ext with
  | .ok hash => hash
  | .error _ => ext.sha256Hex raw

def claims (raw : Octets) : Claims :=
  match ext.parseLenientOctets raw with
  | none => { stream := none, seq := none, kind := none }
  | some value =>
      let env := (value.get "envelope").getD value
      { stream := env.getStr "stream", seq := env.getU64 "seq", kind := env.getStr "kind" }

/-- The characters that fit in a number of octets. -/
def takeOctets : Nat → List Char → List Char
  | _, [] => []
  | room, c :: rest => if c.utf8Size ≤ room then c :: takeOctets (room - c.utf8Size) rest else []

def truncate (text : String) (limit : Nat) : String :=
  if text.utf8ByteSize ≤ limit then text
  else String.ofList (takeOctets limit text.toList) ++ "…"

def payloadOctets (mediaType : String) (body : Value) : Result Octets := do
  if mediaType = Payload.jsonMediaType then
    return .canonical (← Jcs.canonicalize body)
  else
    return .other (← Payload.hexDecode (body.asStr.getD ""))

def collectPayload (env : Value) (emittedAt : String) (plan : AppendPlan) (payload : Value) :
    Result AppendPlan := do
  let payloadHash ← okOr (payload.getStr "payload-hash")
    (err "schema-missing-member" "payloads[].payload-hash")
  let mediaType ← okOr (payload.getStr "media-type")
    (err "schema-missing-member" "payloads[].media-type")
  let bytes ← payloadOctets mediaType (payload.index "payload")
  let retainUntil := (retainUntilFor env payloadHash).getD emittedAt
  return { plan with payloads := plan.payloads ++ [{ payloadHash, mediaType, bytes, retainUntil }] }

/-- The payloads an append stores, where policy stores them for the class. -/
def collectPayloads (env : Value) (payloads : List Value) (policy : Policy)
    (class_ : Option String) (plan : AppendPlan) : Result AppendPlan := do
  let emittedAt := (env.getStr "emitted-at").getD ""
  match class_, env.get "evidence" with
  | some class_, some evidence =>
      if policy.storesPayloads class_ then
        let claimed ← okOr (evidence.getStr "retain-until")
          (err "schema-missing-member" "evidence.retain-until")
        let ceiling ← policy.retentionCeiling class_ emittedAt
        require (claimed ≤ ceiling) (err "evidence-retention-too-long"
          s!"retain-until {claimed} exceeds the policy ceiling {ceiling} for {class_}")
        foldChecked (collectPayload env emittedAt) plan payloads
      else return plan
  | _, _ => foldChecked (collectPayload env emittedAt) plan payloads

end Stozher.Ingest
