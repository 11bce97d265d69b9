import Stozher.Append
import Stozher.GateQueue

namespace Stozher

open Library

structure RejectionInput where
  reason : String
  detail : String
  objectHash : String
  submittedBy : Option String
  receivedAt : String
  claimedStream : Option String
  claimedSeq : Option Nat
  claimedKind : Option String

structure RejectionRecord where
  id : String
  seq : Nat
  reason : String
  deriving DecidableEq

namespace Store

variable (ext : External)

def rejectionBody (signer : KeyId) (stream : String) (seq : Nat) (prevHash : Option String)
    (input : RejectionInput) : Value :=
  .object [
    ("detail", .string input.detail),
    ("identity", .object [("component", .string "kernel"), ("key", .string signer.text),
      ("subject", .string "agent:kernel")]),
    ("kind", .string "rejection"),
    ("object-hash", .string input.objectHash),
    ("prev-hash", .ofOption prevHash),
    ("reason", .string input.reason),
    ("received-at", .string input.receivedAt),
    ("seq", .ofNat seq),
    ("stream", .string stream),
    ("submitted-by", .ofOption input.submittedBy),
    ("v", .string Envelope.version)]

/-- The position after the head of a chain of records. -/
def seqAfter (head : Option RejectionRow) : Nat :=
  match head with
  | some row => row.seq + 1
  | none => 0

/-- One transaction: the next record of the rejection chain. -/
def recordRejection (store : Store) (rejectionStream : String) (signer : Signed.SigningKey)
    (input : RejectionInput) : Result (Store × RejectionRecord) := do
  let head := Table.topBy RejectionRow.seq
    (store.rejections.filter fun row => row.stream == rejectionStream)
  let seq := seqAfter head
  let prevHash := head.map RejectionRow.id
  let record ← Signed.signObject signer
    (rejectionBody signer.id rejectionStream seq prevHash input)
  let canonical ← Jcs.canonicalize record
  let id ← Signed.objectId ext record
  require (store.rejections.all fun row =>
      !(row.stream == rejectionStream && row.seq == saturate seq) && row.id != id)
    (err storeUnavailable "UNIQUE constraint failed: rejections")
  let row : RejectionRow := {
    stream := rejectionStream
    seq := saturate seq
    id
    prevHash
    reason := input.reason
    detail := input.detail
    objectHash := input.objectHash
    submittedBy := input.submittedBy
    receivedAt := input.receivedAt
    claimedStream := input.claimedStream
    claimedSeq := input.claimedSeq.filter fun s => decide (s < 2 ^ 63)
    claimedKind := input.claimedKind
    recordJson := canonical }
  return ({ store with rejections := store.rejections ++ [row] }, { id, seq, reason := input.reason })

/-- A cap on the requests one subject has parked since an instant. -/
def checkParked (store : Store) (subject : String) (cap : Option (Nat × String)) : Result Unit :=
  match cap with
  | some (perSubject, since) =>
      let parked := (store.gateRequests.filter fun row =>
        row.subject == subject && decide (since ≤ row.receivedAt)).length
      require (parked < perSubject) (err "gate-rate-limited"
        (s!"{subject} has parked {parked} requests in this window, at or above the " ++
          s!"configured cap of {perSubject}"))
  | none => .ok ()

/-- Parks an action request, unless its subject has parked as many as it may. -/
def queueGateRequest (store : Store) (request : GateQueue.GateRequest)
    (submittedBy receivedAt : String) (cap : Option (Nat × String)) : Result (Store × Bool) := do
  checkParked store request.subject cap
  let row : GateRequestRow := {
    requestHash := request.requestHash
    requestJson := ← Jcs.canonicalize request.request
    submittedBy
    receivedAt
    subject := request.subject }
  if store.gateRequests.any fun row => row.requestHash == request.requestHash then
    return (store, false)
  return ({ store with gateRequests := store.gateRequests ++ [row] }, true)

/-- Deletes the payloads no reference retains any longer. -/
def decayPayloads (store : Store) (now : String) : Store :=
  { store with
    payloads := store.payloads.filter fun entry => store.payloadRefs.any fun ref =>
      ref.payloadHash == entry.payloadHash && decide (now < ref.retainUntil) }

def seedConfiguredRoot (store : Store) (rootKey : KeyId) (subject enrolledAt : String) : Store :=
  if store.roots.any fun row => row.rootKey == rootKey then store
  else
    { store with
      roots := store.roots ++ [{
        rootKey, subject, enrolledAt, retiredAt := none, envelopeId := "configuration" }] }

end Store

end Stozher
