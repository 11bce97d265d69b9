import Stozher.Gateway
import Stozher.Gateway.Authorization
import Stozher.Gateway.Classifier

namespace Stozher.Gateway

open Library

variable (ext : External) (checkShape : Value → Result Unit)

/-- The classification asked for beside a first call, and its answer. -/
structure Seed where
  request : Value
  decision : Option Value

/-- A request waiting for a human's signature. -/
structure Parked where
  requestHash : String
  request : Value
  server : String
  tool : String
  proposedClass : String
  firstCall : Bool
  createdAt : String
  decision : Option Value
  catalogClass : Option String
  seed : Option Seed
  consumedAt : Option String

structure CatalogRow where
  server : String
  tool : String
  action : String
  class_ : String
  seededAt : String
  envelopeId : String

/-- The record of an effect, kept from before the effect is applied until its envelope is chained. -/
structure Intent where
  intentId : String
  stream : String
  subjectKey : String
  body : Members
  payloads : List Value
  createdAt : String
  resolvedAt : Option String

/-- The local state of the gateway. -/
structure Local where
  chain : GatewayStore
  parked : List Parked
  catalog : List CatalogRow
  gateSeen : List String
  intents : List Intent

namespace Local

def empty : Local where
  chain := { envelopes := [] }
  parked := []
  catalog := []
  gateSeen := []
  intents := []

variable (store : Local)

/-- Chains an envelope and closes the record that waited for it, in one transaction. -/
def append (emission : Emission) (resolveIntent : Option String) : Result (Local × String) := do
  let (chain, id) ← Gateway.append ext checkShape store.chain emission
  return ({ store with
    chain
    intents := store.intents.map fun intent =>
      if some intent.intentId = resolveIntent then { intent with resolvedAt := some emission.createdAt }
      else intent }, id)

def recordIntent (intent : Intent) : Result Local := do
  require (store.intents.all fun held => held.intentId != intent.intentId)
    (err "IntegrityError" "UNIQUE constraint failed: intents.intent_id")
  return { store with intents := store.intents ++ [intent] }

def openIntents (stream subjectKey : String) : List Intent :=
  (store.intents.filter fun intent =>
    intent.resolvedAt.isNone && intent.stream == stream && intent.subjectKey == subjectKey).mergeSort
      fun first second => first.createdAt ≤ second.createdAt

/-- Whether a request has these values in these members. -/
def describes (fields : List (String × String)) (request : Value) : Bool :=
  fields.all fun (name, value) => request.getStr name == some value

def byCreation (rows : List Parked) : List Parked :=
  rows.mergeSort fun first second => first.createdAt ≤ second.createdAt

/-- The oldest unanswered request of a call that can still be answered. -/
def outstandingFor (fields : List (String × String)) (now : String) : Option Parked :=
  (byCreation (store.parked.filter fun row => row.decision.isNone && row.consumedAt.isNone)).find?
    fun row =>
      (match row.request.getStr "not-after" with
        | some notAfter => decide (now ≤ notAfter)
        | none => false) && describes fields row.request

/-- Parks a request, unless an unanswered one for the same call is held. -/
def parkUnique (row : Parked) (fields : List (String × String)) (now : String) :
    Local × Option Parked :=
  match store.outstandingFor fields now with
  | some held => (store, some held)
  | none => ({ store with
      parked := store.parked.filter (fun other => other.requestHash != row.requestHash) ++ [row] }, none)

/-- The oldest answered request of a call that has not been used. -/
def decidedFor (fields : List (String × String)) : Option Parked :=
  (byCreation (store.parked.filter fun row => row.decision.isSome && row.consumedAt.isNone)).find?
    fun row => describes fields row.request

def updateParked (requestHash : String) (update : Parked → Parked) : Local :=
  { store with parked := store.parked.map fun row =>
      if row.requestHash = requestHash then update row else row }

def parkSeed (requestHash : String) (seedRequest : Value) (catalogClass : String) : Local :=
  store.updateParked requestHash fun row => { row with
    seed := some { request := seedRequest, decision := none }
    catalogClass := some catalogClass }

def attachSeedDecision (requestHash : String) (decision : Value) : Local :=
  store.updateParked requestHash fun row => { row with
    seed := row.seed.map fun seed => { seed with decision := some decision } }

def recordGateDecision (requestHash : String) (decision : Value) : Local :=
  store.updateParked requestHash fun row => { row with decision := some decision }

def recordDecision (requestHash : String) (decision : Value) (catalogClass : Option String)
    (seed : Option Seed) : Local :=
  store.updateParked requestHash fun row => { row with decision := some decision, catalogClass, seed }

def consume (requestHash at_ : String) : Local :=
  store.updateParked requestHash fun row => { row with consumedAt := some at_ }

/-- The parked requests whose classification is answered, oldest first. -/
def seededPending : List Parked :=
  byCreation (store.parked.filter fun row => (row.seed.bind Seed.decision).isSome)

def catalogEntry (server tool : String) : Option (String × String) :=
  (store.catalog.find? fun row => row.server == server && row.tool == tool).map fun row =>
    (row.action, row.class_)

def seedCatalog (row : CatalogRow) : Local :=
  { store with catalog := store.catalog.filter (fun other =>
      !(other.server == row.server && other.tool == row.tool)) ++ [row] }

/-- Takes the exclusive right to spend a decision. -/
def claimGateUse (requestHash : String) : Local × Bool :=
  if requestHash ∈ store.gateSeen then (store, false)
  else ({ store with gateSeen := store.gateSeen ++ [requestHash] }, true)

end Local

end Stozher.Gateway
