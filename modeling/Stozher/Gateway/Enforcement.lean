import Stozher.Clock
import Stozher.Gateway.Local

namespace Stozher.Gateway

open Library

structure RootConfig where
  subject : String
  key : KeyId

structure GatewayConfig where
  component : String
  correlationRef : Option String
  roots : List RootConfig

namespace GatewayConfig

variable (config : GatewayConfig)

def approvers (subjects : List String) : List Gate.Approver :=
  (config.roots.filter fun root => subjects.contains root.subject).map fun root =>
    .named root.key root.subject

def rootApprovers : List Gate.Approver :=
  config.roots.map fun root => .named root.key root.subject

end GatewayConfig

/-- An authenticated caller: its subject and key, the mandate it acts under and its own stream. -/
structure Session where
  subject : String
  key : Signed.SigningKey
  mandateRef : String
  stream : String

/-- A call under way: what was asked, and what it was classified as under which policy. -/
structure Work where
  session : Session
  call : Call
  classification : Classification
  target : String
  argsHash : String
  policy : Policy

/-- What the answer to a seed was asked for: a call that still waits, or a sweep over other seeds. -/
inductive After where
  | claim (work : Work) (parked : Parked) (authorization : Value) (requestHash : String)
  | seeds (session : Session) (policy : Policy) (rest : List Parked)

/-- What a caller's process has still to do. -/
inductive Task where
  | gate (work : Work) (approvers : List Gate.Approver) (firstCall : Bool)
  | parkSeed (work : Work) (requestHash : String)
  | consume (work : Work) (approvers : List Gate.Approver) (parked : Parked)
  | verifySeed (session : Session) (policy : Policy) (approvers : List Gate.Approver) (parked : Parked)
      (after : After)
  | claimSeed (session : Session) (policy : Policy) (parked : Parked) (seed : Seed) (decision : Value)
      (after : After)
  | chainSeed (session : Session) (policy : Policy) (parked : Parked) (seed : Seed) (decision : Value)
      (now : String) (after : After)
  | recordSeed (row : CatalogRow) (after : After)
  | seeds (session : Session) (policy : Policy) (rest : List Parked)
  | claim (work : Work) (parked : Parked) (authorization : Value) (requestHash : String)
  | settle (work : Work) (parked : Parked) (authorization : Value)
  | forward (work : Work) (authorization : Option Value)
  | forwarding (work : Work) (authorization : Option Value) (startedAt intent : String)
  | folding (work : Work) (startedAt : String)
  | chain (work : Work) (outcome : String) (authorization : Option Value) (startedAt intent : Option String)
  | recover (session : Session) (now : String) (rest : List Intent)

/-- How the forwarded call came back. -/
inductive Returned where
  | result
  | refusal
  | exception

/-- What a task reads of the world besides the store: the clock, fresh random text and what the
upstream server did. -/
structure Reading where
  now : String
  later : String
  createdAt : String
  fresh : String
  returned : Returned

/-- The gateway's processes over their one database. -/
structure Enforcer where
  store : Local
  tasks : List Task

/-- What can happen next. Decisions come from the kernel or from the command line, and a process can
stop between any two of its writes. -/
inductive Action where
  | call (session : Session) (call : Call) (policy : Policy) (required : Bool)
  | perform (index : Nat) (reading : Reading)
  | abandon (index : Nat)
  | decide (requestHash : String) (decision : Value)
  | decideSeed (requestHash : String) (decision : Value)
  | record (requestHash : String) (decision : Value) (catalogClass : Option String) (seed : Option Seed)
  | applySeeds (session : Session) (policy : Policy)
  | recoverIntents (session : Session) (now : String)

variable (ext : External) (checkShape : Value → Result Unit) (config : GatewayConfig)
  (classifier : Classifier)

namespace Work

/-- The members an approval of the call has to bind. -/
def ask (work : Work) : ActionRequest where
  subject := work.session.subject
  key := work.session.key.id.text
  component := config.component
  mandateRef := work.session.mandateRef
  policyVersion := work.policy.version
  classification := work.classification.classification
  action := work.classification.action
  target := work.target
  argsHash := work.argsHash

/-- Whether the call folds into an aggregation window instead of having an envelope of its own. -/
def folded (work : Work) (authorization : Option Value) : Bool :=
  work.classification.classification == "read" && authorization.isNone

end Work

def authorizationOf (request decision : Value) : Value :=
  .object [("decision", decision), ("request", request)]

def identity (session : Session) : Value :=
  .object [("component", .string config.component), ("key", .string session.key.id.text),
    ("subject", .string session.subject)]

def retainUntil (at_ classification : String) (policy : Policy) : Result String :=
  Clock.addDuration at_ (policy.evidenceTtl classification)

def payloadOf (payload : Value) (hash : String) : Value :=
  .object [("media-type", .string "application/json"), ("payload", payload),
    ("payload-hash", .string hash)]

def evidence (schema payloadHash retainUntil : String) : Value :=
  .object [("media-type", .string "application/json"), ("payload-hash", .string payloadHash),
    ("retain-until", .string retainUntil), ("schema", .string schema)]

/-- The body of an effect's envelope, and the payload that goes with it. -/
def effectBody (work : Work) (outcome : String) (authorization : Option Value)
    (startedAt : Option String) (now : String) : Result (Members × List Value) := do
  let payload := Value.object [("arguments", work.call.arguments), ("server", .string work.call.server),
    ("tool", .string work.call.tool)]
  let payloadHash ← Jcs.objectHash ext payload
  let retained ← retainUntil now work.classification.classification work.policy
  let body : Members := [
    ("v", .string "stozher/0.1"),
    ("kind", .string "effect"),
    ("emitted-at", .string now),
    ("identity", identity config work.session),
    ("mandate-ref", .string work.session.mandateRef),
    ("policy-version", .string work.policy.version),
    ("classification", .string work.classification.classification),
    ("execution", .object [
      ("action", .string work.classification.action),
      ("target", .string work.target),
      ("args-hash", .string work.argsHash),
      ("outcome", .string outcome),
      ("started-at", .string (startedAt.getD now)),
      ("finished-at", .string now)]),
    ("evidence", evidence (work.classification.action ++ ".v1") payloadHash retained)]
  return (body ++ authorization.toList.map (fun a => ("authorization", a)) ++
    config.correlationRef.toList.map (fun r => ("correlation-ref", .string r)),
    [payloadOf payload payloadHash])

/-- The body of the envelope that puts a catalog entry in force, and its payload. -/
def seedBody (session : Session) (policy : Policy) (parked : Parked) (seed : Seed) (decision : Value)
    (now : String) : Result (Members × List Value) := do
  let request := seed.request
  let classification := request.index "classification"
  let entry := Value.object [("class", .string (parked.catalogClass.getD "")),
    ("server", .string parked.server), ("tool", .string parked.tool)]
  let payloadHash ← Jcs.objectHash ext entry
  let retained ← retainUntil now (str classification) policy
  return ([
    ("v", .string "stozher/0.1"),
    ("kind", .string "effect"),
    ("emitted-at", .string now),
    ("identity", identity config session),
    ("mandate-ref", .string session.mandateRef),
    ("policy-version", .string policy.version),
    ("classification", classification),
    ("execution", .object [
      ("action", request.index "action"),
      ("target", request.index "target"),
      ("args-hash", request.index "args-hash"),
      ("outcome", .string "applied"),
      ("started-at", .string now),
      ("finished-at", .string now)]),
    ("evidence", evidence "kernel.seed_catalog_entry.v1" payloadHash retained),
    ("authorization", authorizationOf request decision)], [payloadOf entry payloadHash])

/-- An open record as `recover_intents` chains it. -/
def recoveredBody (body : Members) (now : String) : Members :=
  let execution := ((Members.get body "execution").bind Value.asObject).getD []
  (Members.insert body "emitted-at" (.string now)).insert "execution"
    (.object (Members.insert execution "finished-at" (.string now)))

/-- The envelope a decision is verified against before anything is done on the strength of it: what
the stored request itself says. -/
def probe (request : Value) (authorization : Value) (at_ : String) : Result Value := do
  let member := fun name => okOr (request.get name) (err "KeyError" name)
  return .object [
    ("identity", .object [("subject", ← member "subject"), ("key", ← member "key"),
      ("component", ← member "component")]),
    ("mandate-ref", ← member "mandate-ref"),
    ("policy-version", ← member "policy-version"),
    ("classification", ← member "classification"),
    ("execution", .object [("action", ← member "action"), ("target", ← member "target"),
      ("args-hash", ← member "args-hash")]),
    ("emitted-at", .string at_),
    ("authorization", authorization)]

namespace Local

def seenHashes (store : Local) (requestHash : String) : List String :=
  if requestHash ∈ store.gateSeen then [requestHash] else []

end Local

/-- Who may approve the call, as far as this component can tell: anyone enrolled where no rule names
an approver. -/
def approversFor (subjects : List String) : Option (List Gate.Approver) :=
  if subjects.isEmpty then some config.rootApprovers
  else
    match config.approvers subjects with
    | [] => none
    | approvers => some approvers

namespace After

/-- What follows once a seed is dealt with. -/
def task : After → Task
  | claim work parked authorization requestHash => .claim work parked authorization requestHash
  | seeds session policy rest => .seeds session policy rest

end After

namespace Enforcer

def push (enforcer : Enforcer) (task : Task) : Enforcer :=
  { enforcer with tasks := enforcer.tasks ++ [task] }

/-- Everything before the gate: classify, refuse what is prohibited, unmet or denied, and send the
rest to the gate or on its way. -/
def call (enforcer : Enforcer) (session : Session) (call : Call) (policy : Policy) (required : Bool) :
    Enforcer :=
  let classification := classify policy { classifier with orgSeeded := enforcer.store.catalogEntry }
    session.subject call
  let work : Work := { session, call, classification, target := target call, argsHash := "", policy }
  match Jcs.objectHash ext call.arguments with
  | .error e =>
      let standIn := Value.object [("uncanonicalizable-arguments", .string e.code)]
      match Jcs.objectHash ext standIn with
      | .error _ => enforcer
      | .ok argsHash =>
          let work := { work with call := { call with arguments := standIn }, argsHash }
          enforcer.push (.chain work "blocked" none none none)
  | .ok argsHash =>
      let work := { work with argsHash }
      let decision := policy.decisionFor classification.classification
      let firstCall := !classification.known && !classification.policyNamed
      if classification.classification = "prohibited" then
        enforcer.push (.chain work "attempted" none none none)
      else if required = false ∨ decision.kind = "deny" then
        enforcer.push (.chain work "blocked" none none none)
      else if decision.kind = "gate" ∨ firstCall = true then
        match approversFor config decision.approvers with
        | some approvers => enforcer.push (.gate work approvers firstCall)
        | none => enforcer.push (.chain work "blocked" none none none)
      else enforcer.push (.forward work none)

/-- Proceeds on a decision already made about exactly this call, or parks it. -/
def gate (enforcer : Enforcer) (work : Work) (approvers : List Gate.Approver) (firstCall : Bool)
    (reading : Reading) : Enforcer :=
  let ask := work.ask config
  match enforcer.store.decidedFor ask.fields with
  | some parked => enforcer.push (.consume work approvers parked)
  | none =>
      match Clock.shift reading.now 3600 with
      | .error _ => enforcer
      | .ok notAfter =>
          let request := actionRequest ask reading.now reading.fresh notAfter
          match Jcs.objectHash ext request with
          | .error _ => enforcer
          | .ok requestHash =>
              let row : Parked := {
                requestHash, request, server := work.call.server, tool := work.call.tool
                proposedClass := work.classification.classification, firstCall
                createdAt := reading.now, decision := none, catalogClass := none, seed := none
                consumedAt := none }
              match enforcer.store.parkUnique row ask.fields reading.now with
              | (store, some _) => { enforcer with store }
              | (store, none) =>
                  if firstCall = true ∧ work.classification.proposed ≠ "" then
                    { enforcer with store }.push (.parkSeed work requestHash)
                  else { enforcer with store }

/-- Parks the second request of a first call beside the first: what class the tool is. -/
def parkSeed (enforcer : Enforcer) (work : Work) (requestHash : String) (reading : Reading) : Enforcer :=
  let class_ := work.classification.proposed
  let entry := Value.object [("class", .string class_), ("server", .string work.call.server),
    ("tool", .string work.call.tool)]
  match Clock.shift reading.now 3600, Jcs.objectHash ext entry with
  | .ok notAfter, .ok argsHash =>
      let request := actionRequest { work.ask config with
        classification := "consequential", action := "kernel.seed_catalog_entry"
        target := s!"tool:{work.call.server}/{work.call.tool}", argsHash } reading.now reading.fresh notAfter
      { enforcer with store := enforcer.store.parkSeed requestHash request class_ }
  | _, _ => enforcer

/-- Verifies a decision and, where it approves, goes on to the catalog seed parked beside it. -/
def consume (enforcer : Enforcer) (work : Work) (approvers : List Gate.Approver) (parked : Parked)
    (reading : Reading) : Enforcer :=
  let authorization := authorizationOf parked.request (parked.decision.getD .null)
  match probe parked.request authorization reading.now with
  | .error _ => enforcer
  | .ok envelope =>
      match verifyAuthorization ext envelope true approvers
          (enforcer.store.seenHashes parked.requestHash) (some reading.now) with
      | .ok none => enforcer
      | .ok (some ok) =>
          if enforcer.store.catalogEntry parked.server parked.tool = none then
            enforcer.push (.verifySeed work.session work.policy approvers parked
              (.claim work parked authorization ok.requestHash))
          else enforcer.push (.claim work parked authorization ok.requestHash)
      | .error e =>
          let enforcer := { enforcer with store := enforcer.store.consume parked.requestHash reading.later }
          if e.code = "gate-denied" then
            enforcer.push (.chain { work with
              target := str (parked.request.index "target")
              argsHash := str (parked.request.index "args-hash") } "denied" (some authorization) none none)
          else enforcer

/-- A seed nobody has answered is a question, and one that does not verify is dropped. -/
def verifySeed (enforcer : Enforcer) (session : Session) (policy : Policy)
    (approvers : List Gate.Approver) (parked : Parked) (after : After) (reading : Reading) : Enforcer :=
  match parked.catalogClass, parked.seed with
  | some _, some seed =>
      match seed.decision.filter Value.isObject with
      | none => enforcer.push after.task
      | some decision =>
          match probe seed.request (authorizationOf seed.request decision) reading.now,
              decision.get "request-hash" with
          | .ok envelope, some seedHash =>
              match verifyAuthorization ext envelope true approvers
                  (enforcer.store.seenHashes (str seedHash)) (some reading.now) with
              | .ok _ => enforcer.push (.claimSeed session policy parked seed decision after)
              | .error _ => enforcer.push after.task
          | _, _ => enforcer
  | _, _ => enforcer.push after.task

def claimSeed (enforcer : Enforcer) (session : Session) (policy : Policy) (parked : Parked) (seed : Seed)
    (decision : Value) (after : After) (reading : Reading) : Enforcer :=
  match enforcer.store.claimGateUse (str (decision.index "request-hash")) with
  | (store, true) =>
      { enforcer with store }.push (.chainSeed session policy parked seed decision reading.now after)
  | (_, false) => enforcer.push after.task

def emit (enforcer : Enforcer) (session : Session) (written : Result (Members × List Value))
    (resolveIntent : Option String) (reading : Reading) : Result (Enforcer × String) := do
  let (body, payloads) ← written
  let (store, id) ← enforcer.store.append ext checkShape
    { key := session.key, stream := session.stream, body, payloads, createdAt := reading.createdAt }
    resolveIntent
  return ({ enforcer with store }, id)

def chainSeed (enforcer : Enforcer) (session : Session) (policy : Policy) (parked : Parked) (seed : Seed)
    (decision : Value) (now : String) (after : After) (reading : Reading) : Enforcer :=
  match enforcer.emit ext checkShape session (seedBody ext config session policy parked seed decision now)
      none reading with
  | .error _ => enforcer
  | .ok (enforcer, id) => enforcer.push (.recordSeed {
      server := parked.server, tool := parked.tool
      action := classifier.action parked.server parked.tool
      class_ := parked.catalogClass.getD "", seededAt := now, envelopeId := id } after)

/-- One transaction claims the decision; only the process that gets it goes on. -/
def claim (enforcer : Enforcer) (work : Work) (parked : Parked) (authorization : Value)
    (requestHash : String) (reading : Reading) : Enforcer :=
  match enforcer.store.claimGateUse requestHash with
  | (store, true) => { enforcer with store }.push (.settle work parked authorization)
  | (_, false) => { enforcer with store := enforcer.store.consume parked.requestHash reading.now }

/-- Writes the record of the effect ahead of the effect, unless the call folds. -/
def forward (enforcer : Enforcer) (work : Work) (authorization : Option Value) (reading : Reading) :
    Enforcer :=
  if work.folded authorization = true then enforcer.push (.folding work reading.now)
  else
    match effectBody ext config work "attempted" authorization (some reading.now) reading.later with
    | .error _ => enforcer
    | .ok (body, payloads) =>
        match enforcer.store.recordIntent {
          intentId := reading.fresh, stream := work.session.stream
          subjectKey := work.session.key.id.text, body, payloads, createdAt := reading.createdAt
          resolvedAt := none } with
        | .error _ => enforcer
        | .ok store =>
            { enforcer with store }.push (.forwarding work authorization reading.now reading.fresh)

def returned (enforcer : Enforcer) (work : Work) (authorization : Option Value) (startedAt : String)
    (intent : Option String) (reading : Reading) : Enforcer :=
  match reading.returned with
  | .refusal => enforcer
  | .exception => enforcer.push (.chain work "failed" authorization (some startedAt) intent)
  | .result =>
      if intent.isNone then enforcer
      else enforcer.push (.chain work "applied" authorization (some startedAt) intent)

def chain (enforcer : Enforcer) (work : Work) (outcome : String) (authorization : Option Value)
    (startedAt intent : Option String) (reading : Reading) : Enforcer :=
  match enforcer.emit ext checkShape work.session
      (effectBody ext config work outcome authorization startedAt reading.now) intent reading with
  | .error _ => enforcer
  | .ok (enforcer, _) => enforcer

/-- Chains one open record and goes on with the rest, whether or not it could be chained. -/
def recover (enforcer : Enforcer) (session : Session) (now : String) (rest : List Intent)
    (reading : Reading) : Enforcer :=
  match rest with
  | [] => enforcer
  | intent :: rest =>
      match enforcer.emit ext checkShape session (.ok (recoveredBody intent.body now, intent.payloads))
          (some intent.intentId) reading with
      | .error _ => enforcer.push (.recover session now rest)
      | .ok (enforcer, _) => enforcer.push (.recover session now rest)

def seeds (enforcer : Enforcer) (session : Session) (policy : Policy) (rest : List Parked) : Enforcer :=
  match rest with
  | [] => enforcer
  | parked :: rest =>
      if enforcer.store.catalogEntry parked.server parked.tool = none then
        enforcer.push (.verifySeed session policy config.rootApprovers parked (.seeds session policy rest))
      else enforcer.push (.seeds session policy rest)

def performTask (enforcer : Enforcer) (task : Task) (reading : Reading) : Enforcer :=
  match task with
  | .gate work approvers firstCall => enforcer.gate ext config work approvers firstCall reading
  | .parkSeed work requestHash => enforcer.parkSeed ext config work requestHash reading
  | .consume work approvers parked => enforcer.consume ext work approvers parked reading
  | .verifySeed session policy approvers parked after =>
      enforcer.verifySeed ext session policy approvers parked after reading
  | .claimSeed session policy parked seed decision after =>
      enforcer.claimSeed session policy parked seed decision after reading
  | .chainSeed session policy parked seed decision now after =>
      enforcer.chainSeed ext checkShape config classifier session policy parked seed decision now after
        reading
  | .recordSeed row after => { enforcer with store := enforcer.store.seedCatalog row }.push after.task
  | .seeds session policy rest => enforcer.seeds config session policy rest
  | .claim work parked authorization requestHash =>
      enforcer.claim work parked authorization requestHash reading
  | .settle work parked authorization =>
      let store := enforcer.store.consume parked.requestHash reading.now
      { enforcer with store }.push (.forward work (some authorization))
  | .forward work authorization => enforcer.forward ext config work authorization reading
  | .forwarding work authorization startedAt intent =>
      enforcer.returned work authorization startedAt (some intent) reading
  | .folding work startedAt => enforcer.returned work none startedAt none reading
  | .chain work outcome authorization startedAt intent =>
      enforcer.chain ext checkShape config work outcome authorization startedAt intent reading
  | .recover session now rest => enforcer.recover ext checkShape session now rest reading

def step (enforcer : Enforcer) (action : Action) : Enforcer :=
  match action with
  | .call session call policy required =>
      enforcer.call ext config classifier session call policy required
  | .perform index reading =>
      match enforcer.tasks[index]? with
      | none => enforcer
      | some task => performTask ext checkShape config classifier
          { enforcer with tasks := enforcer.tasks.eraseIdx index } task reading
  | .abandon index => { enforcer with tasks := enforcer.tasks.eraseIdx index }
  | .decide requestHash decision =>
      { enforcer with store := enforcer.store.recordGateDecision requestHash decision }
  | .decideSeed requestHash decision =>
      { enforcer with store := enforcer.store.attachSeedDecision requestHash decision }
  | .record requestHash decision catalogClass seed =>
      { enforcer with store := enforcer.store.recordDecision requestHash decision catalogClass seed }
  | .applySeeds session policy =>
      enforcer.push (.seeds session policy enforcer.store.seededPending)
  | .recoverIntents session now =>
      enforcer.push (.recover session now (enforcer.store.openIntents session.stream session.key.id.text))

def initial : Enforcer where
  store := .empty
  tasks := []

end Enforcer

/-- The gateway over a new database: every interleaving of calls, retries, decisions, session openings
and crashes. -/
def enforcement : System Enforcer Action where
  start enforcer := enforcer = Enforcer.initial
  step := Enforcer.step ext checkShape config classifier

end Stozher.Gateway
