import Stozher.JcsText
import Stozher.Library.Windows
import Stozher.InstantOrder
import Stozher.AppendWrites
import Stozher.System

namespace Stozher

open Library Ingest

variable (ext : External) (formatFinite : Binary64 → String) (config : Config)

/-- How many requests a subject may park in a window of time. -/
structure RateLimit where
  perSubject : Nat
  windowSeconds : Int
  perSubject_pos : 0 < perSubject
  windowSeconds_pos : 0 < windowSeconds

/-- One submission to the gate route. -/
structure Post where
  body : Octets
  submittedBy : String
  now : String

/-- What a submission asks for, with the arguments it comes with. -/
structure Asked where
  post : Post
  request : GateQueue.GateRequest
  since : String
  submitted : Option Value

/-- How a submission to the gate route is answered. -/
inductive Reply where
  | queued (requestHash notAfter : String) (idempotent : Bool)
  | refused (code detail : String)
  | limited (detail : String) (retryAfter : Nat)
  | unavailable (detail : String)
  deriving DecidableEq

namespace GateQueue

def submissionMembers : List String :=
  ["request", "arguments"]

def argumentsMaxBytes : Nat :=
  16384

def argumentsHashMismatch : String :=
  "gate-arguments-hash-mismatch"

/-- The request of a body and the arguments beside it: a submission, or a request by itself. -/
def submission (body : Value) : Result (Value × Option Value) := do
  let map ← okOr body.asObject
    (err "schema-type-mismatch" "a gate-request submission must be an object")
  if map.containsKey "request" = true then
    forEach (fun key => require (key ∈ submissionMembers) (err "schema-unknown-member" key)) map.keys
    let request ← okOr (map.get "request") (err "schema-missing-member" "request")
    require request.isObject
      (err "schema-type-mismatch" "submission.request must be an action-request object")
    return (request, map.get "arguments")
  else return (body, none)

/-- The canonical form of the arguments, where the request commits to it. -/
def checkArguments (arguments : Value) (argsHash : String) : Result Jcs.Canonical := do
  let canonical ← Jcs.canonicalize arguments
  let text ← Jcs.Text.canonicalize ext formatFinite arguments
  require (text.utf8ByteSize ≤ argumentsMaxBytes) (err "gate-arguments-too-large"
    (s!"{text.utf8ByteSize} bytes of canonical arguments, above the cap of {argumentsMaxBytes}. Park " ++
      "without them rather than not parking."))
  let hash := ext.sha256Hex (.canonical canonical)
  require (hash = argsHash) (err argumentsHashMismatch
    s!"the arguments hash to {hash}, and the request commits to {argsHash}")
  return canonical

end GateQueue

namespace Store

variable (store : Store)

def gateRequestsSince (subject since : String) : Nat :=
  (store.gateRequests.filter fun row => row.subject == subject && decide (since ≤ row.receivedAt)).length

def argumentMismatchesSince (submittedBy since : String) : Nat :=
  (store.rejections.filter fun row => row.submittedBy == some submittedBy &&
    row.reason == GateQueue.argumentsHashMismatch && decide (since ≤ row.receivedAt)).length

end Store

/-- The arguments an approver is shown beside a request. -/
structure ArgumentsRow where
  requestHash : String
  arguments : Jcs.Canonical
  recordedAt : String

/-- What a submission has still to do: look for its request, count its subject's, queue it; or count its
submitter's mismatches and record one. -/
inductive Pending where
  | look (asked : Asked) (shown : Option Jcs.Canonical)
  | count (asked : Asked) (shown : Option Jcs.Canonical)
  | queue (asked : Asked) (shown : Option Jcs.Canonical) (cap : Option (Nat × String))
  | mismatch (asked : Asked) (error : Error)
  | record (asked : Asked) (error : Error)

structure Answered where
  post : Post
  asked : Option Asked
  reply : Reply

/-- The kernel with the arguments table and every submission to the gate route that is under way. -/
structure Desk where
  world : World
  arguments : List ArgumentsRow
  pending : List Pending
  answers : List Answered

/-- Whether an action parks a request, which nothing but the gate route does. -/
def Action.parks : Action → Bool
  | .park _ _ _ _ => true
  | _ => false

inductive DeskAction where
  | post (post : Post)
  | perform (index : Nat)
  | abandon (index : Nat)
  | kernel (action : Action) (elsewhere : action.parks = false)
  | erase (now : String)

namespace Desk

variable (limit : RateLimit)

def answer (desk : Desk) (post : Post) (asked : Option Asked) (reply : Reply) : Desk :=
  { desk with answers := desk.answers ++ [{ post, asked, reply }] }

def push (desk : Desk) (pending : Pending) : Desk :=
  { desk with pending := desk.pending ++ [pending] }

def refusal (e : Error) : Reply :=
  .refused e.code e.detail

/-- Reads a submission, before anything of the store is. -/
def read (post : Post) : Except Reply Asked := do
  let (request, submitted) ← ((ext.parseOctets post.body) >>= GateQueue.submission).mapError refusal
  let queued ← (GateQueue.validate ext request post.now).mapError refusal
  let since ← (Clock.shift post.now (-limit.windowSeconds)).mapError fun e => .unavailable e.detail
  return { post, request := queued, since, submitted }

/-- The arguments to show, where there are some. -/
def shown (asked : Asked) : Result (Option Jcs.Canonical) :=
  match asked.submitted with
  | none => .ok none
  | some arguments => do
      return some (← GateQueue.checkArguments ext formatFinite arguments asked.request.argsHash)

/-- A submission comes in and is checked. -/
def postGateRequest (desk : Desk) (post : Post) : Desk :=
  match read ext limit post with
  | .error reply => desk.answer post none reply
  | .ok asked =>
      match shown ext formatFinite asked with
      | .ok arguments => desk.push (.look asked arguments)
      | .error e =>
          if e.code = GateQueue.argumentsHashMismatch then desk.push (.mismatch asked e)
          else desk.answer post (some asked) (refusal e)

/-- Whether a request is in the queue. -/
def queued (desk : Desk) (requestHash : String) : Bool :=
  (desk.world.store.gateRequest requestHash).isSome

/-- The request is looked for. One that is queued already is not counted. -/
def performLook (desk : Desk) (asked : Asked) (shown : Option Jcs.Canonical) : Desk :=
  if desk.queued asked.request.requestHash then desk.push (.queue asked shown none)
  else desk.push (.count asked shown)

/-- The subject's requests are counted, before the transaction that counts them again. -/
def performCount (desk : Desk) (asked : Asked) (shown : Option Jcs.Canonical) : Desk :=
  let parked := desk.world.store.gateRequestsSince asked.request.subject asked.since
  if limit.perSubject ≤ parked then
    desk.answer asked.post (some asked) (.limited
      (s!"{asked.request.subject} has parked {parked} requests in the last {limit.windowSeconds} seconds, " ++
        s!"at or above the configured cap of {limit.perSubject}. The console shows this as a spike.")
      limit.windowSeconds.toNat)
  else desk.push (.queue asked shown (some (limit.perSubject, asked.since)))

/-- The transaction that queues a request, with the arguments of the submission that queues it. -/
def queueGateRequest (desk : Desk) (asked : Asked) (shown : Option Jcs.Canonical)
    (cap : Option (Nat × String)) : Result (Desk × Bool) := do
  let (store, fresh) ← desk.world.store.queueGateRequest asked.request asked.post.submittedBy asked.post.now cap
  let next := { desk with world := { desk.world with store } }
  match fresh, shown with
  | true, some arguments =>
      let requestHash := asked.request.requestHash
      require (desk.arguments.all fun row => row.requestHash != requestHash)
        (err storeUnavailable "UNIQUE constraint failed: gate_request_arguments.request_hash")
      let row : ArgumentsRow := { requestHash, arguments, recordedAt := asked.post.now }
      return ({ next with arguments := desk.arguments ++ [row] }, fresh)
  | _, _ => return (next, fresh)

def performQueue (desk : Desk) (asked : Asked) (shown : Option Jcs.Canonical)
    (cap : Option (Nat × String)) : Desk :=
  match desk.queueGateRequest asked shown cap with
  | .ok (next, fresh) =>
      next.answer asked.post (some asked) (.queued asked.request.requestHash asked.request.notAfter (!fresh))
  | .error e =>
      desk.answer asked.post (some asked)
        (if e.code = "gate-rate-limited" then .limited e.detail limit.windowSeconds.toNat
        else .unavailable e.detail)

/-- Whether another mismatch of the submitter is recorded. -/
def performMismatch (desk : Desk) (asked : Asked) (error : Error) : Desk :=
  let submittedBy := asked.post.submittedBy
  let recorded := desk.world.store.argumentMismatchesSince submittedBy asked.since
  if limit.perSubject ≤ recorded then
    desk.answer asked.post (some asked) (.limited
      (s!"{submittedBy} has had {recorded} submissions refused for arguments that do not match their own " ++
        s!"request in the last {limit.windowSeconds} seconds, at or above the configured cap of " ++
        s!"{limit.perSubject}. Further mismatches are refused without a record.")
      limit.windowSeconds.toNat)
  else desk.push (.record asked error)

/-- What the record of a mismatch says of it. -/
def mismatchDetail (asked : Asked) (error : Error) : Value :=
  .object [("action", .string asked.request.action), ("reason", .string error.detail),
    ("request-hash", .string asked.request.requestHash), ("subject", .string asked.request.subject)]

def performRecord (desk : Desk) (asked : Asked) (error : Error) : Desk :=
  let recorded := do
    let detail ← Jcs.Text.canonicalize ext formatFinite (mismatchDetail asked error)
    let canonical ← Jcs.canonicalize (mismatchDetail asked error)
    desk.world.store.recordRejection ext config.rejectionStream config.kernelKey {
      reason := GateQueue.argumentsHashMismatch
      detail
      objectHash := ext.sha256Hex (.canonical canonical)
      submittedBy := some asked.post.submittedBy
      receivedAt := asked.post.now
      claimedStream := none
      claimedSeq := none
      claimedKind := none }
  match recorded with
  | .ok (store, _) =>
      { desk with world := { desk.world with store } }.answer asked.post (some asked) (refusal error)
  | .error e => desk.answer asked.post (some asked) (.unavailable e.detail)

def perform (desk : Desk) (index : Nat) : Desk :=
  let rest := { desk with pending := desk.pending.eraseIdx index }
  match desk.pending[index]? with
  | none => desk
  | some (.look asked shown) => rest.performLook asked shown
  | some (.count asked shown) => rest.performCount limit asked shown
  | some (.queue asked shown cap) => rest.performQueue limit asked shown cap
  | some (.mismatch asked error) => rest.performMismatch limit asked error
  | some (.record asked error) => rest.performRecord ext formatFinite config asked error

/-- Whether a request has expired by an instant. -/
def expired (store : Store) (requestHash now : String) : Bool :=
  match store.gateRequest requestHash with
  | some (request, _) => decide ((request.getStr "not-after").getD "" ≤ now)
  | none => false

def eraseExpiredGateArguments (desk : Desk) (now : String) : Desk :=
  { desk with arguments := desk.arguments.filter fun row => !expired desk.world.store row.requestHash now }

def step (desk : Desk) (action : DeskAction) : Desk :=
  match action with
  | .post post => desk.postGateRequest ext formatFinite limit post
  | .perform index => desk.perform ext formatFinite config limit index
  | .abandon index => { desk with pending := desk.pending.eraseIdx index }
  | .kernel action _ => { desk with world := World.step ext config desk.world action }
  | .erase now => desk.eraseExpiredGateArguments now

def initial : Desk where
  world := .initial
  arguments := []
  pending := []
  answers := []

end Desk

/-- The kernel's gate route over a new database: every interleaving of submissions to it with each other and
with all else the kernel does. -/
def gateRoute (limit : RateLimit) : System Desk DeskAction where
  start desk := desk = Desk.initial
  step := Desk.step ext formatFinite config limit

end Stozher
