import Stozher.Ingest.Submit
import Stozher.Library.Runs

namespace Stozher

open Library Ingest

variable (ext : External) (config : Config)

/-- One request to the ingest route. -/
structure Submission where
  raw : Octets
  submittedBy : Option String
  receivedAt : String
  deriving DecidableEq

/-- What a submission has still to do: finish the validation it opened, append what it validated, or
record why it was refused. -/
inductive Task where
  | validate (request : Submission)
  | append (request : Submission) (snapshot : Store) (validated : Validated)
  | reject (request : Submission) (error : Error) (claims : Claims)

/-- How a submission is answered. -/
inductive Outcome where
  | accepted (appended : Appended)
  | rejected (reason detail : String)
  | unavailable (detail : String)
  deriving DecidableEq

structure Answer where
  request : Submission
  outcome : Outcome

/-- An envelope the store took, with the state of the store it was validated against. -/
structure Accepted where
  request : Submission
  snapshot : Store
  plan : AppendPlan

/-- The kernel with every submission that is under way. -/
structure World where
  store : Store
  tasks : List Task
  accepted : List Accepted
  answers : List Answer

/-- What can happen next. A submission looks its envelope up, reads the rest of what it needs of the
store, and appends in a transaction of its own, with anything in between. -/
inductive Action where
  | submit (request : Submission)
  | perform (index : Nat)
  | abandon (index : Nat)
  | record (reason detail objectHash : String) (submittedBy : Option String) (receivedAt : String)
  | park (request : Value) (submittedBy receivedAt : String) (cap : Option (Nat × String))
  | decay (now : String)
  | seed (rootKey : KeyId) (subject enrolledAt : String)

namespace World

def answer (world : World) (request : Submission) (outcome : Outcome) : World :=
  { world with answers := world.answers ++ [{ request, outcome }] }

/-- An outage is answered as one; anything else is recorded before it is answered. -/
def refuse (world : World) (request : Submission) (error : Error) (claims : Claims) : World :=
  if error.code = storeUnavailable then answer world request (.unavailable error.detail)
  else { world with tasks := world.tasks ++ [.reject request error claims] }

/-- A request comes in and its envelope is looked up. -/
def submit (world : World) (request : Submission) : World :=
  match receive ext request.raw with
  | .error e => refuse world request e (claims ext request.raw)
  | .ok received =>
      match resubmitted world.store received with
      | some appended => answer world request (.accepted appended)
      | none => { world with tasks := world.tasks ++ [.validate request] }

/-- The rest of a validation, against the store as it is by then. -/
def performValidate (world : World) (request : Submission) : World :=
  match receive ext request.raw >>= fun received =>
      assess ext config world.store received request.receivedAt with
  | .ok validated =>
      { world with tasks := world.tasks ++ [.append request world.store validated] }
  | .error e => refuse world request e (claims ext request.raw)

/-- The append transaction of a submission. -/
def performAppend (world : World) (request : Submission) (snapshot : Store)
    (validated : Validated) : World :=
  match world.store.append validated.plan with
  | .ok (store, appended) =>
      answer { world with
        store
        accepted := if appended.idempotent then world.accepted
          else world.accepted ++ [{ request, snapshot, plan := validated.plan }] }
        request (.accepted appended)
  | .error e => refuse world request e validated.claims

def recordRejection (world : World) (input : RejectionInput) : World :=
  match world.store.recordRejection ext config.rejectionStream config.kernelKey input with
  | .ok (store, _) => { world with store }
  | .error _ => world

def perform (world : World) (index : Nat) : World :=
  let rest := { world with tasks := world.tasks.eraseIdx index }
  match world.tasks[index]? with
  | none => world
  | some (.validate request) => performValidate ext config rest request
  | some (.append request snapshot validated) => performAppend rest request snapshot validated
  | some (.reject request error claims) =>
      answer (recordRejection ext config rest (rejectionInput ext request.raw error
        request.submittedBy request.receivedAt claims)) request (.rejected error.code error.detail)

def park (world : World) (request : Value) (submittedBy receivedAt : String)
    (cap : Option (Nat × String)) : World :=
  match GateQueue.validate ext request receivedAt with
  | .error _ => world
  | .ok queued =>
      match world.store.queueGateRequest queued submittedBy receivedAt cap with
      | .ok (store, _) => { world with store }
      | .error _ => world

def step (world : World) (action : Action) : World :=
  match action with
  | .submit request => submit ext world request
  | .perform index => perform ext config world index
  | .abandon index => { world with tasks := world.tasks.eraseIdx index }
  | .record reason detail objectHash submittedBy receivedAt =>
      recordRejection ext config world {
        reason, detail, objectHash, submittedBy, receivedAt
        claimedStream := none, claimedSeq := none, claimedKind := none }
  | .park request submittedBy receivedAt cap => park ext world request submittedBy receivedAt cap
  | .decay now => { world with store := world.store.decayPayloads now }
  | .seed rootKey subject enrolledAt =>
      { world with store := world.store.seedConfiguredRoot rootKey subject enrolledAt }

def initial : World where
  store := .empty
  tasks := []
  accepted := []
  answers := []

end World

/-- The kernel over a new database: every interleaving of submissions, refusals, parked requests,
decay sweeps and starts that seed configured roots. -/
def kernel : System World Action where
  start world := world = World.initial
  step := World.step ext config

end Stozher
