import Stozher.Store

namespace Stozher

open Library

structure CheckpointClaim where
  stream : String
  fromSeq : Nat
  toSeq : Nat
  headHash : String
  observedAt : String
  deriving DecidableEq

structure GateDecisionRow where
  requestHash : String
  verdict : String
  reason : Option String
  decidedBy : String
  decidedAt : String
  decision : Value

structure StreamResume where
  stream : String
  resumeSeq : Nat
  bridgeHash : String
  reasonCode : String
  deriving DecidableEq

structure ManifestProjection where
  name : String
  version : String
  hash : String
  componentKey : String
  document : Value

/-- What an envelope writes besides itself. -/
structure Projections where
  mandate : Option (String × Value)
  revocation : Option (String × Value)
  policy : Option (String × Value × String)
  manifest : Option ManifestProjection
  enrollRoot : Option (KeyId × String)
  retireRoot : Option KeyId
  checkpoint : Option CheckpointClaim
  gateDecision : Option GateDecisionRow
  streamResume : Option StreamResume

def Projections.none : Projections where
  mandate := .none
  revocation := .none
  policy := .none
  manifest := .none
  enrollRoot := .none
  retireRoot := .none
  checkpoint := .none
  gateDecision := .none
  streamResume := .none

structure SpendAccrual where
  mandates : List String
  amounts : Budget.Amounts

structure PayloadRow where
  payloadHash : String
  mediaType : String
  bytes : Octets
  retainUntil : String

structure GateUse where
  requestHash : String
  decidedBy : String
  singleUse : Bool
  notAfter : String
  deriving DecidableEq

/-- An envelope that passed validation, with everything its append writes. -/
structure AppendPlan where
  envelope : Value
  id : String
  canonicalJson : Jcs.Canonical
  streamKind : StreamKind
  receivedAt : String
  humanRoot : Option String
  effectiveClass : Option String
  policyViolation : Option String
  payloads : List PayloadRow
  gateUse : Option GateUse
  projections : Projections
  spend : Option SpendAccrual

structure Appended where
  id : String
  stream : String
  seq : Nat
  idempotent : Bool
  deriving DecidableEq

def storeUnavailable : String := "x-store-unavailable"

namespace AppendPlan

def stream (plan : AppendPlan) : String :=
  (plan.envelope.getStr "stream").getD ""

def seq (plan : AppendPlan) : Nat :=
  (plan.envelope.getU64 "seq").getD 0

def prevHash (plan : AppendPlan) : Option String :=
  plan.envelope.getStr "prev-hash"

end AppendPlan

namespace Store

/-- A value bound to a column declared `NOT NULL`. -/
def notNull (value : Option String) (column : String) : Result String :=
  okOr value (err storeUnavailable s!"NOT NULL constraint failed: {column}")

def checkStreamKind (store : Store) (plan : AppendPlan) : Result Unit :=
  match store.streamKind plan.stream with
  | some kind => require (kind = plan.streamKind) (err "stream-kind-mixed"
      s!"stream {plan.stream} carries records of another kind")
  | none => .ok ()

/-- The one position past the next that a resume may let an envelope take. -/
def bridgeableAt (store : Store) (stream : String) : Nat :=
  match store.streamHead stream with
  | none => 1
  | some (headSeq, _) => headSeq + 2

/-- The bridge hash of an accepted resume, where the envelope arrives right after the position it
resumes. -/
def bridgeFor (store : Store) (plan : AppendPlan) : Option String :=
  if plan.seq = store.bridgeableAt plan.stream then store.streamResume plan.stream (plan.seq - 1)
  else none

def bridged (store : Store) (plan : AppendPlan) : Bool :=
  (store.bridgeFor plan).isSome && store.bridgeFor plan == plan.prevHash

/-- The chain position of an envelope: next in order, or across a bridge. -/
def checkPosition (store : Store) (plan : AppendPlan) : Result Unit :=
  let stream := plan.stream
  let seq := plan.seq
  match store.streamHead stream with
  | none => do
      require (seq = 0 ∨ store.bridged plan = true) ((err "chain-seq-gap"
        s!"stream {stream} is empty, so the first envelope must be seq 0, not {seq}").atSeq seq)
      require (seq = 0 → plan.prevHash = none)
        ((err "chain-genesis-prev-not-null" "seq 0 must carry prev-hash null").atSeq seq)
  | some (headSeq, headId) =>
      if seq ≤ headSeq then
        .error ((err "chain-seq-duplicate"
          s!"stream {stream} is already at seq {headSeq}; {seq} is in the past").atSeq seq)
      else if seq > headSeq + 1 then
        require (store.bridged plan) ((err "chain-seq-gap"
          s!"stream {stream} is at seq {headSeq}; {seq} would leave a gap").atSeq seq)
      else
        require (plan.prevHash = some headId) ((err "chain-prev-hash-mismatch"
          ("prev-hash " ++ plan.prevHash.getD "null" ++
            s!" does not match the head {headId}")).atSeq seq)

/-- The replay set: one row per request hash, and a second use only of a standing approval. -/
def consumeGate (store : Store) (plan : AppendPlan) : Result Store :=
  match plan.gateUse with
  | none => .ok store
  | some gateUse =>
      match store.gateRequestHashes.find? fun row => row.requestHash == gateUse.requestHash with
      | none => .ok { store with
          gateRequestHashes := store.gateRequestHashes ++ [{
            requestHash := gateUse.requestHash
            envelopeId := plan.id
            decidedBy := gateUse.decidedBy
            singleUse := gateUse.singleUse
            notAfter := gateUse.notAfter
            recordedAt := plan.receivedAt }] }
      | some existing => do
          require (existing.singleUse = false ∧ gateUse.singleUse = false)
            (err "gate-authorization-replayed"
              (s!"request {gateUse.requestHash} was already used" ++
                s!" (spent by envelope {existing.envelopeId} at {existing.recordedAt})"))
          return store

def envelopeRow (plan : AppendPlan) : Result EnvelopeRow := do
  let envelope := plan.envelope
  let identity := envelope.index "identity"
  let execution := envelope.get "execution"
  let commitment := envelope.get "commitment-ref"
  return {
    stream := plan.stream
    seq := saturate plan.seq
    id := plan.id
    prevHash := plan.prevHash
    kind := ← notNull (envelope.getStr "kind") "envelopes.kind"
    subject := ← notNull (identity.getStr "subject") "envelopes.subject"
    subjectKey := ← notNull (identity.getStr "key") "envelopes.subject_key"
    component := ← notNull (identity.getStr "component") "envelopes.component"
    mandateRef := envelope.getStr "mandate-ref"
    humanRoot := plan.humanRoot
    policyVersion := envelope.getStr "policy-version"
    classification := envelope.getStr "classification"
    effectiveClass := plan.effectiveClass
    action := execution.bind (·.getStr "action")
    target := execution.bind (·.getStr "target")
    argsHash := execution.bind (·.getStr "args-hash")
    outcome := execution.bind (·.getStr "outcome")
    emittedAt := ← notNull (envelope.getStr "emitted-at") "envelopes.emitted_at"
    receivedAt := plan.receivedAt
    correlationRef := envelope.getStr "correlation-ref"
    commitmentType := commitment.bind (·.getStr "object-type")
    commitmentId := commitment.bind (·.getStr "object-id")
    commitmentTransition := commitment.bind (·.getStr "transition")
    policyViolation := plan.policyViolation
    canonicalJson := plan.canonicalJson }

/-- The triggers on `envelopes`: an insert extends its stream, crosses a bridge, or starts it. -/
def chainTriggersAdmit (store : Store) (row : EnvelopeRow) : Bool :=
  if 0 < row.seq then
    (store.envelopes.any fun other =>
        other.stream == row.stream && other.seq == row.seq - 1 && some other.id == row.prevHash)
      || store.streamResumes.any fun resume =>
        resume.stream == row.stream && resume.resumeSeq == row.seq - 1
          && some resume.bridgeHash == row.prevHash
  else row.prevHash.isNone && !(store.envelopes.any fun other => other.stream == row.stream)

def insertEnvelope (store : Store) (plan : AppendPlan) : Result Store := do
  let row ← envelopeRow plan
  require (store.chainTriggersAdmit row)
    (err storeUnavailable "envelopes are append-only: an insert must extend its stream")
  require (store.envelopes.all fun other =>
      !(other.stream == row.stream && other.seq == row.seq) && other.id != row.id)
    ((err "chain-seq-duplicate" s!"({plan.stream}, {plan.seq}) is already occupied").atSeq plan.seq)
  return { store with envelopes := store.envelopes ++ [row] }

def insertPayload (plan : AppendPlan) (store : Store) (payload : PayloadRow) : Store :=
  let known := store.payloads.any fun row => row.payloadHash == payload.payloadHash
  let referenced := store.payloadRefs.any fun row =>
    row.payloadHash == payload.payloadHash && row.envelopeId == plan.id
  { store with
    payloads := if known then store.payloads else store.payloads ++ [{
      payloadHash := payload.payloadHash
      mediaType := payload.mediaType
      bytes := payload.bytes
      firstSeenAt := plan.receivedAt }]
    payloadRefs := if referenced then store.payloadRefs else store.payloadRefs ++ [{
      payloadHash := payload.payloadHash
      envelopeId := plan.id
      stream := plan.stream
      retainUntil := payload.retainUntil }] }

def insertPayloads (store : Store) (plan : AppendPlan) : Store :=
  plan.payloads.foldl (insertPayload plan) store

def writeMandate (plan : AppendPlan) (store : Store) : Result Store :=
  match plan.projections.mandate with
  | none => .ok store
  | some (id, mandate) => do
      let row : MandateRow := {
        mandateId := id
        parent := mandate.getStr "parent"
        mandateKind := ← notNull (mandate.getStr "mandate-kind") "mandates.mandate_kind"
        grantorKey := ← notNull ((mandate.index "grantor").getStr "key") "mandates.grantor_key"
        granteeKey := ← notNull ((mandate.index "grantee").getStr "key") "mandates.grantee_key"
        granteeSubject := ← notNull ((mandate.index "grantee").getStr "subject")
          "mandates.grantee_subject"
        notBefore := ← notNull (mandate.getStr "not-before") "mandates.not_before"
        notAfter := ← notNull (mandate.getStr "not-after") "mandates.not_after"
        documentJson := ← Jcs.canonicalize mandate
        envelopeId := plan.id }
      if (store.mandateRow id).isSome then return store
      return { store with mandates := store.mandates ++ [row] }

def writeRevocation (plan : AppendPlan) (store : Store) : Result Store :=
  match plan.projections.revocation with
  | none => .ok store
  | some (id, revocation) => do
      let row : RevocationRow := {
        revocationId := id
        revokes := ← notNull (revocation.getStr "revokes") "revocations.revokes"
        revokedAt := ← notNull (revocation.getStr "revoked-at") "revocations.revoked_at"
        documentJson := ← Jcs.canonicalize revocation
        envelopeId := plan.id }
      if store.revocations.any fun row => row.revocationId == id then return store
      return { store with revocations := store.revocations ++ [row] }

def writePolicy (plan : AppendPlan) (store : Store) : Result Store :=
  match plan.projections.policy with
  | none => .ok store
  | some (version, document, hash) => do
      let row : PolicyRow := {
        policyVersion := version
        documentHash := hash
        documentJson := ← Jcs.canonicalize document
        publishedBy := ← notNull ((plan.envelope.index "identity").getStr "subject")
          "policies.published_by"
        envelopeId := plan.id
        publishedAt := plan.receivedAt }
      require (store.policyVersionExists version = false) (err "policy-version-reused"
        s!"policy version {version} has already been published")
      return { store with policies := store.policies ++ [row] }

def writeManifest (plan : AppendPlan) (store : Store) : Result Store :=
  match plan.projections.manifest with
  | none => .ok store
  | some manifest => do
      let row : ManifestRow := {
        name := manifest.name
        version := manifest.version
        manifestHash := manifest.hash
        componentKey := manifest.componentKey
        documentJson := ← Jcs.canonicalize manifest.document
        envelopeId := plan.id
        registeredAt := plan.receivedAt }
      require (store.manifestVersionExists manifest.name manifest.version = false)
        (err "manifest-version-retained"
          s!"manifest {manifest.name} {manifest.version} is already registered")
      return { store with manifests := store.manifests ++ [row] }

def writeEnrollRoot (plan : AppendPlan) (store : Store) : Result Store :=
  match plan.projections.enrollRoot with
  | none => .ok store
  | some (key, subject) => do
      let row : RootRow := {
        rootKey := key
        subject
        enrolledAt := ← notNull (plan.envelope.getStr "emitted-at") "roots.enrolled_at"
        retiredAt := none
        envelopeId := plan.id }
      if store.roots.any fun row => row.rootKey == key then return store
      return { store with roots := store.roots ++ [row] }

/-- Retirement keeps `enrolled_at`, so historical envelopes still verify. -/
def retireRow (key : KeyId) (at_ : Option String) (row : RootRow) : RootRow :=
  if row.rootKey = key ∧ row.retiredAt = none then { row with retiredAt := at_ } else row

def writeRetireRoot (plan : AppendPlan) (store : Store) : Store :=
  match plan.projections.retireRoot with
  | none => store
  | some key =>
      { store with roots := store.roots.map (retireRow key (plan.envelope.getStr "emitted-at")) }

def writeGateDecision (plan : AppendPlan) (store : Store) : Result Store :=
  match plan.projections.gateDecision with
  | none => .ok store
  | some decision => do
      let row : GateDecisionEntry := {
        requestHash := decision.requestHash
        verdict := decision.verdict
        reason := decision.reason
        decidedBy := decision.decidedBy
        decidedAt := decision.decidedAt
        decisionJson := ← Jcs.canonicalize decision.decision
        envelopeId := plan.id
        recordedAt := plan.receivedAt }
      require (store.gateDecisions.all fun row => row.requestHash != decision.requestHash)
        (err "gate-decision-already-recorded"
          s!"request {decision.requestHash} has already been answered by a named human")
      return { store with gateDecisions := store.gateDecisions ++ [row] }

/-- A resume names the bytes the kernel last refused at the position. -/
def checkRefused (store : Store) (resume : StreamResume) : Result Unit :=
  match store.rejectionAt resume.stream resume.resumeSeq with
  | some hash => require (hash = resume.bridgeHash) (err "stream-resume-position-unknown"
      (s!"the rejection recorded at {resume.stream} seq {resume.resumeSeq} is of {hash}, " ++
        s!"not {resume.bridgeHash}"))
  | none => .error (err "stream-resume-position-unknown"
      s!"no rejection is recorded at {resume.stream} seq {resume.resumeSeq}")

/-- The first resume accepted for a position stays. -/
def writeStreamResume (plan : AppendPlan) (store : Store) : Result Store :=
  match plan.projections.streamResume with
  | none => .ok store
  | some resume => do
      checkRefused store resume
      if (store.streamResume resume.stream resume.resumeSeq).isSome then return store
      return { store with streamResumes := store.streamResumes ++ [{
        stream := resume.stream
        resumeSeq := saturate resume.resumeSeq
        bridgeHash := resume.bridgeHash
        reasonCode := resume.reasonCode
        envelopeId := plan.id
        authorizedAt := plan.receivedAt }] }

def writeCheckpoint (plan : AppendPlan) (store : Store) : Result Store :=
  match plan.projections.checkpoint with
  | none => .ok store
  | some checkpoint => do
      let expectedFrom := match store.lastCheckpoint checkpoint.stream with
        | some (_, toSeq, _) => toSeq + 1
        | none => 0
      require (checkpoint.fromSeq = expectedFrom) (err "checkpoint-range-discontinuous"
        (s!"checkpoint of {checkpoint.stream} starts at {checkpoint.fromSeq}, " ++
          s!"expected {expectedFrom}"))
      require (store.checkpoints.all fun row =>
          !(row.stream == checkpoint.stream && row.fromSeq == saturate checkpoint.fromSeq))
        (err "checkpoint-range-discontinuous"
          s!"a checkpoint of {checkpoint.stream} already starts at {checkpoint.fromSeq}")
      return { store with checkpoints := store.checkpoints ++ [{
        stream := checkpoint.stream
        fromSeq := saturate checkpoint.fromSeq
        toSeq := saturate checkpoint.toSeq
        headHash := checkpoint.headHash
        envelopeId := plan.id
        observedAt := checkpoint.observedAt }] }

def isSpendOf (mandate dimension : String) (row : SpendRow) : Bool :=
  row.mandateId == mandate && row.dimension == dimension

/-- Adds one amount to what a mandate has spent in one dimension. -/
def accrue (mandate : String) (spend : List SpendRow) (entry : String × String) :
    Result (List SpendRow) := do
  let (dimension, amount) := entry
  match spend.find? (isSpendOf mandate dimension) with
  | some held =>
      let total ← Decimal.add held.amount amount
      return spend.map fun row =>
        if isSpendOf mandate dimension row then { row with amount := total } else row
  | none => return spend ++ [{ mandateId := mandate, dimension, amount }]

def writeSpend (plan : AppendPlan) (store : Store) : Result Store :=
  match plan.spend with
  | none => .ok store
  | some accrual => do
      let spend ← foldChecked
        (fun spend mandate => foldChecked (accrue mandate) spend accrual.amounts)
        store.spend accrual.mandates
      return { store with spend }

def writeProjections (plan : AppendPlan) (store : Store) : Result Store := do
  let store ← writeMandate plan store
  let store ← writeRevocation plan store
  let store ← writePolicy plan store
  let store ← writeManifest plan store
  let store ← writeEnrollRoot plan store
  let store := writeRetireRoot plan store
  let store ← writeGateDecision plan store
  let store ← writeStreamResume plan store
  let store ← writeCheckpoint plan store
  writeSpend plan store

def touchStream (plan : AppendPlan) (store : Store) : Store :=
  if (store.streamKind plan.stream).isSome then
    { store with
      streams := store.streams.map fun row =>
        if row.stream = plan.stream then
          { row with
            headSeq := saturate plan.seq
            headHash := plan.id
            lastAppendedAt := plan.receivedAt }
        else row }
  else
    { store with
      streams := store.streams ++ [{
        stream := plan.stream
        streamKind := plan.streamKind
        headSeq := saturate plan.seq
        headHash := plan.id
        firstSeenAt := plan.receivedAt
        lastAppendedAt := plan.receivedAt }] }

/-- Everything `append` does for an envelope the store does not hold yet. -/
def appendFresh (store : Store) (plan : AppendPlan) : Result Store := do
  checkStreamKind store plan
  checkPosition store plan
  let store ← consumeGate store plan
  let store ← insertEnvelope store plan
  let store ← writeProjections plan (insertPayloads store plan)
  return touchStream plan store

/-- One transaction: on an error nothing of it is kept. -/
def append (store : Store) (plan : AppendPlan) : Result (Store × Appended) :=
  match store.envelopeById plan.id with
  | some row => .ok (store, { id := plan.id, stream := row.stream, seq := row.seq, idempotent := true })
  | none => do
      let next ← appendFresh store plan
      return (next, { id := plan.id, stream := plan.stream, seq := plan.seq, idempotent := false })

end Store

end Stozher
