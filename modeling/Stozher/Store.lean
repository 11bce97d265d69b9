import Stozher.Budget
import Stozher.Chain
import Stozher.Library.Table

namespace Stozher

open Library

structure EnvelopeRow where
  stream : String
  seq : Nat
  id : String
  prevHash : Option String
  kind : String
  subject : String
  subjectKey : String
  component : String
  mandateRef : Option String
  humanRoot : Option String
  policyVersion : Option String
  classification : Option String
  effectiveClass : Option String
  action : Option String
  target : Option String
  argsHash : Option String
  outcome : Option String
  emittedAt : String
  receivedAt : String
  correlationRef : Option String
  commitmentType : Option String
  commitmentId : Option String
  commitmentTransition : Option String
  policyViolation : Option String
  canonicalJson : Jcs.Canonical

inductive StreamKind where
  | effect
  | signal
  deriving DecidableEq

structure StreamRow where
  stream : String
  streamKind : StreamKind
  headSeq : Nat
  headHash : String
  firstSeenAt : String
  lastAppendedAt : String
  deriving DecidableEq

structure PayloadEntry where
  payloadHash : String
  mediaType : String
  bytes : Octets
  firstSeenAt : String

structure PayloadRef where
  payloadHash : String
  envelopeId : String
  stream : String
  retainUntil : String
  deriving DecidableEq

structure CheckpointEntry where
  stream : String
  fromSeq : Nat
  toSeq : Nat
  headHash : String
  envelopeId : String
  observedAt : String
  deriving DecidableEq

structure RejectionRow where
  stream : String
  seq : Nat
  id : String
  prevHash : Option String
  reason : String
  detail : String
  objectHash : String
  submittedBy : Option String
  receivedAt : String
  claimedStream : Option String
  claimedSeq : Option Nat
  claimedKind : Option String
  recordJson : Jcs.Canonical

structure GateHashRow where
  requestHash : String
  envelopeId : String
  decidedBy : String
  singleUse : Bool
  notAfter : String
  recordedAt : String
  deriving DecidableEq

structure GateRequestRow where
  requestHash : String
  requestJson : Jcs.Canonical
  submittedBy : String
  receivedAt : String
  subject : String

structure GateDecisionEntry where
  requestHash : String
  verdict : String
  reason : Option String
  decidedBy : String
  decidedAt : String
  decisionJson : Jcs.Canonical
  envelopeId : String
  recordedAt : String

structure PolicyRow where
  policyVersion : String
  documentHash : String
  documentJson : Jcs.Canonical
  publishedBy : String
  envelopeId : String
  publishedAt : String

structure ManifestRow where
  name : String
  version : String
  manifestHash : String
  componentKey : String
  documentJson : Jcs.Canonical
  envelopeId : String
  registeredAt : String

structure RootRow where
  rootKey : KeyId
  subject : String
  enrolledAt : String
  retiredAt : Option String
  envelopeId : String
  deriving DecidableEq

structure MandateRow where
  mandateId : String
  parent : Option String
  mandateKind : String
  grantorKey : String
  granteeKey : String
  granteeSubject : String
  notBefore : String
  notAfter : String
  documentJson : Jcs.Canonical
  envelopeId : String

structure RevocationRow where
  revocationId : String
  revokes : String
  revokedAt : String
  documentJson : Jcs.Canonical
  envelopeId : String

structure SpendRow where
  mandateId : String
  dimension : String
  amount : String
  deriving DecidableEq

structure ResumeRow where
  stream : String
  resumeSeq : Nat
  bridgeHash : String
  reasonCode : String
  envelopeId : String
  authorizedAt : String
  deriving DecidableEq

/-- The tables of the kernel's database, each row list in insertion order. A JSON column holds the
canonical form it was written from, which is what reading it back gives. -/
structure Store where
  envelopes : List EnvelopeRow
  streams : List StreamRow
  payloads : List PayloadEntry
  payloadRefs : List PayloadRef
  checkpoints : List CheckpointEntry
  rejections : List RejectionRow
  gateRequestHashes : List GateHashRow
  gateRequests : List GateRequestRow
  gateDecisions : List GateDecisionEntry
  policies : List PolicyRow
  manifests : List ManifestRow
  roots : List RootRow
  mandates : List MandateRow
  revocations : List RevocationRow
  spend : List SpendRow
  streamResumes : List ResumeRow

/-- A 64-bit column keeps what fits, and the greatest value otherwise. -/
def saturate (n : Nat) : Nat :=
  min n (2 ^ 63 - 1)

theorem saturate_of_lt {n : Nat} (small : n < 2 ^ 63) : saturate n = n := by
  unfold saturate
  omega

namespace Store

def empty : Store where
  envelopes := []
  streams := []
  payloads := []
  payloadRefs := []
  checkpoints := []
  rejections := []
  gateRequestHashes := []
  gateRequests := []
  gateDecisions := []
  policies := []
  manifests := []
  roots := []
  mandates := []
  revocations := []
  spend := []
  streamResumes := []

variable (store : Store)

def envelopeById (id : String) : Option EnvelopeRow :=
  store.envelopes.find? fun row => row.id == id

def ofStream (stream : String) : List EnvelopeRow :=
  store.envelopes.filter fun row => row.stream == stream

def streamHead (stream : String) : Option (Nat × String) :=
  (Table.topBy EnvelopeRow.seq (store.ofStream stream)).map fun row => (row.seq, row.id)

def streamKind (stream : String) : Option StreamKind :=
  (store.streams.find? fun row => row.stream == stream).map StreamRow.streamKind

def streamsHoldingEnvelopes : List String :=
  (store.envelopes.map EnvelopeRow.stream).dedup.insertionSort (· ≤ ·)

def streamResume (stream : String) (resumeSeq : Nat) : Option String :=
  (store.streamResumes.find? fun row =>
    row.stream == stream && row.resumeSeq == saturate resumeSeq).map ResumeRow.bridgeHash

def rejectionAt (stream : String) (seq : Nat) : Option String :=
  (Table.topBy RejectionRow.seq (store.rejections.filter fun row =>
    row.claimedStream == some stream && row.claimedSeq == some (saturate seq))).map
      RejectionRow.objectHash

def range (stream : String) (fromSeq toSeq : Nat) : List Value :=
  (((store.ofStream stream).filter fun row =>
    decide (saturate fromSeq ≤ row.seq ∧ row.seq ≤ saturate toSeq)).insertionSort
      (fun a b => a.seq ≤ b.seq)).map fun row => row.canonicalJson.tree

def enrolledAt (at_ : String) (row : RootRow) : Bool :=
  decide (row.enrolledAt ≤ at_) &&
    match row.retiredAt with
    | none => true
    | some retiredAt => decide (at_ < retiredAt)

def rootsAt (at_ : String) : List (KeyId × String) :=
  ((store.roots.filter (enrolledAt at_)).insertionSort
    (fun a b => a.rootKey.text ≤ b.rootKey.text)).map fun row => (row.rootKey, row.subject)

def mandateRow (id : String) : Option MandateRow :=
  store.mandates.find? fun row => row.mandateId == id

def mandate (id : String) : Option Value :=
  (store.mandateRow id).map fun row => row.documentJson.tree

/-- Collects the mandate and its ancestors, for the given number of hops. -/
def ancestryFrom : Nat → Members → String → Members
  | 0, chain, _ => chain
  | hops + 1, chain, id =>
      if chain.containsKey id then chain
      else
        match store.mandateRow id with
        | none => chain
        | some row =>
            let chain := chain.insert id row.documentJson.tree
            match row.parent with
            | some parent => ancestryFrom hops chain parent
            | none => chain

/-- One extra hop so the walk can see the parent that puts it over the bound. -/
def mandateAncestry (leafRef : String) (maxLinks : Nat) : Members :=
  store.ancestryFrom (min (maxLinks + 2) (2 ^ 32 - 1) + 1) [] leafRef

def revocationsTargeting (ids : List String) : List Value :=
  ids.flatMap fun id => (store.revocations.filter fun row => row.revokes == id).map
    fun row => row.documentJson.tree

def liveAt (at_ : String) (row : MandateRow) : Bool :=
  decide (row.notBefore ≤ at_) && decide (at_ ≤ row.notAfter)

def mandatesHeldBy (subject at_ : String) : List Value :=
  (store.mandates.filter fun row => row.granteeSubject == subject && liveAt at_ row).map
    fun row => row.documentJson.tree

def mandatedSubjectOf (key at_ : String) : Option String :=
  (store.mandates.find? fun row => row.granteeKey == key && liveAt at_ row).map
    MandateRow.granteeSubject

def durableTransitions (objectType objectId : String) : List (String × String) :=
  ((store.envelopes.filter fun row =>
    row.commitmentType == some objectType && row.commitmentId == some objectId).insertionSort
      (fun a b => a.stream < b.stream ∨ (a.stream = b.stream ∧ a.seq ≤ b.seq))).map
    fun row => (row.commitmentTransition.getD "", row.subject)

def conformanceRunIsGreen (manifestHash : String) : Bool :=
  store.envelopes.any fun row =>
    row.action == some "kernel.conformance_run" && row.outcome == some "applied"
      && row.argsHash == some manifestHash && row.target == some s!"manifest:{manifestHash}"

def gateRequestSpentBy (requestHash : String) : Option String :=
  (store.gateRequestHashes.find? fun row => row.requestHash == requestHash && row.singleUse).map
    GateHashRow.envelopeId

def gateRequest (requestHash : String) : Option (Value × String) :=
  (store.gateRequests.find? fun row => row.requestHash == requestHash).map
    fun row => (row.requestJson.tree, row.submittedBy)

def currentPolicy : Option Value :=
  store.policies.getLast?.map fun row => row.documentJson.tree

def policyVersionExists (version : String) : Bool :=
  store.policies.any fun row => row.policyVersion == version

def latestManifest (name : String) : Option Value :=
  (store.manifests.filter fun row => row.name == name).getLast?.map
    fun row => row.documentJson.tree

def manifestComponentKey (name : String) : Option String :=
  (store.manifests.find? fun row => row.name == name).map ManifestRow.componentKey

def manifestVersionExists (name version : String) : Bool :=
  store.manifests.any fun row => row.name == name && row.version == version

def spendOf (mandateId : String) : Budget.Amounts :=
  (store.spend.filter fun row => row.mandateId == mandateId).map
    fun row => (row.dimension, row.amount)

/-- Follows parents upwards, never naming a mandate twice. -/
def lineFrom : Nat → List String → String → List String
  | 0, line, _ => line
  | steps + 1, line, current =>
      match (store.mandateRow current).bind MandateRow.parent with
      | some parent =>
          if parent ∈ line then line else lineFrom steps (line ++ [parent]) parent
      | none => line

def mandateLine (mandateId : String) : List String :=
  store.lineFrom 64 [mandateId] mandateId

/-- The last checkpoint of a stream: its range and the head it attests. -/
def lastCheckpoint (stream : String) : Option (Nat × Nat × String) :=
  (Table.topBy CheckpointEntry.toSeq (store.checkpoints.filter fun row => row.stream == stream)).map
    fun row => (row.fromSeq, row.toSeq, row.headHash)

def rejectionChain : List Value :=
  (store.rejections.insertionSort (fun a b => a.seq ≤ b.seq)).map fun row => row.recordJson.tree

variable (ext : External)

def checkPreviousRejection (seq : Nat) (previous claimed : Option String) : Result Unit :=
  match previous, claimed with
  | none, none => .ok ()
  | none, some _ =>
      .error ((err "chain-genesis-prev-not-null" "seq 0 must carry prev-hash null").atSeq seq)
  | some actual, some claimed =>
      require (claimed = actual) ((err "chain-prev-hash-mismatch"
        s!"prev-hash {claimed} != predecessor id {actual}").atSeq seq)
  | some _, none => .error ((err "chain-prev-hash-missing" s!"seq {seq} has no prev-hash").atSeq seq)

/-- One record of the rejection chain, checked against its predecessor's id. -/
def verifyRejection (stream : String) (expected : Nat) (previous : Option String) (record : Value) :
    Result String := do
  let seq := (record.getU64 "seq").getD 0
  let _ ← (Signed.verifySignedObject ext record).mapError (·.atSeq seq)
  require (record.getStr "stream" = some stream) ((err "chain-stream-mismatch"
    s!"record {seq} does not belong to {stream}").atSeq seq)
  require (seq = expected) ((err
    (if seq < expected then "chain-seq-duplicate" else "chain-seq-gap")
    s!"expected seq {expected}, found {seq}").atSeq seq)
  checkPreviousRejection seq previous (record.getStr "prev-hash")
  Signed.objectId ext record

def verifyRejectionChain (stream : String) :
    Nat → Option String → List Value → Result (Option String)
  | _, previous, [] => .ok previous
  | expected, previous, record :: rest => do
      let id ← verifyRejection ext stream expected previous record
      verifyRejectionChain stream (expected + 1) (some id) rest

/-- One stream of `verify_every_chain`. -/
def verifyHeldStream (name : String) : Result Unit :=
  match store.streamHead name with
  | none => .ok ()
  | some (headSeq, _) => do
      let _ ← Chain.verifyChain ext (store.range name 0 headSeq) name none

def verifyEveryChain (rejectionStream : String) : Result Unit := do
  forEach (store.verifyHeldStream ext) store.streamsHoldingEnvelopes
  let _ ← verifyRejectionChain ext rejectionStream 0 none store.rejectionChain

/-- What `verify_stream` reports of a stream. -/
structure StreamReport where
  stream : String
  count : Nat
  headHash : String
  anchored : Bool
  lastCheckpoint : Option (Nat × Nat × String)
  deriving DecidableEq

/-- The stream's chain reproduces the head its last checkpoint attests. -/
def verifyCheckpoint (stream : String) : Result Unit :=
  match store.lastCheckpoint stream with
  | some (fromSeq, toSeq, headHash) => do
      let observed ← Chain.verifyChain ext (store.range stream 0 toSeq) stream none
      require (observed.headHash = headHash) (err "checkpoint-head-mismatch"
        (s!"the checkpoint of {stream}[{fromSeq}, {toSeq}] attests {headHash}, " ++
          s!"the chain reproduces {observed.headHash}"))
  | none => .ok ()

def verifyStream (stream : String) : Result StreamReport := do
  let (headSeq, _) ← okOr (store.streamHead stream)
    (err "chain-empty-range" s!"stream {stream} holds no envelopes")
  let result ← Chain.verifyChain ext (store.range stream 0 headSeq) stream none
  store.verifyCheckpoint ext stream
  return {
    stream
    count := result.count
    headHash := result.headHash
    anchored := result.anchored
    lastCheckpoint := store.lastCheckpoint stream }

end Store

end Stozher
