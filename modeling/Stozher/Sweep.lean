import Stozher.System

namespace Stozher

open Library

namespace Store

variable (store : Store) (now : String)

/-- Whether no reference to a payload retains it any longer. -/
def unretained (payloadHash : String) : Bool :=
  !store.payloadRefs.any fun ref => ref.payloadHash == payloadHash && decide (now < ref.retainUntil)

/-- The streams a sweep would touch. -/
def streamsWithExpiringPayloads : List String :=
  ((store.payloadRefs.filter fun ref =>
    (store.payloads.any fun entry => entry.payloadHash == ref.payloadHash) &&
      store.unretained now ref.payloadHash).map PayloadRef.stream).dedup.insertionSort (· ≤ ·)

/-- What a sweep deletes. -/
def expiredPayloads : List String :=
  (store.payloads.filter fun entry => store.unretained now entry.payloadHash).map PayloadEntry.payloadHash

end Store

namespace Sweep

/-- The head of a stream, as it was found by a checkpoint that is under way. -/
structure Head where
  stream : String
  seq : Nat
  hash : String

/-- The positions a checkpoint is to attest, or nothing where they are attested already. -/
def Head.fromSeq (head : Head) (last : Option (Nat × Nat × String)) : Option Nat :=
  match last with
  | some (_, toSeq, _) => if toSeq ≥ head.seq then none else some (toSeq + 1)
  | none => some 0

/-- What the kernel signs. -/
def Head.body (head : Head) (signer : KeyId) (checkpointStream : String) (fromSeq : Nat) (now : String)
    (prevHash : Option String) (seq : Nat) : Value :=
  .object [
    ("checkpoint", .object [("count", .ofNat (head.seq - fromSeq + 1)), ("from-seq", .ofNat fromSeq),
      ("head-hash", .string head.hash), ("observed-at", .string now), ("stream", .string head.stream),
      ("to-seq", .ofNat head.seq)]),
    ("emitted-at", .string now),
    ("identity", .object [("component", .string "kernel"), ("key", .string signer.text),
      ("subject", .string "agent:kernel")]),
    ("kind", .string "checkpoint"),
    ("prev-hash", .ofOption prevHash),
    ("seq", .ofNat seq),
    ("stream", .string checkpointStream),
    ("v", .string Envelope.version)]

/-- The ingest request a checkpoint is submitted in. -/
def checkpointRequest (signer : Signed.SigningKey) (body : Value) : Result Octets := do
  let envelope ← Signed.signObject signer body
  let raw ← Jcs.canonicalize (.object [("envelope", envelope), ("payloads", .array [])])
  return .canonical raw

/-- A checkpoint goes after the head of the stream that checkpoints are kept in. -/
def Head.request (config : Ingest.Config) (checkpointStream : String) (store : Store) (head : Head)
    (fromSeq : Nat) (now : String) (prevHash : Option String) : Result Octets :=
  let seq := ((store.streamHead checkpointStream).map fun top => top.1 + 1).getD 0
  checkpointRequest config.kernelKey
    (head.body config.kernelKey.id checkpointStream fromSeq now prevHash seq)

/-- What a decay run did. -/
structure DecayReport where
  at_ : String
  streamsCheckpointed : List String
  payloadsDeleted : Nat
  deletedHashes : List String

/-- Where a sweep is: before it looks at the next stream, in the checkpoint of one, waiting for the answer to the
checkpoint it submitted as the answers stood when it did, or at its end. -/
inductive Stage where
  | next
  | last (head : Head)
  | previous (head : Head) (fromSeq : Nat)
  | position (head : Head) (fromSeq : Nat) (now : String) (prevHash : Option String)
  | waiting (head : Head) (request : Submission) (asked : Nat)
  | ended (result : Result DecayReport)

end Sweep

/-- A decay run, with the streams it listed and those of them it has still to look at. -/
structure Sweep where
  now : String
  affected : List String
  rest : List String
  stage : Sweep.Stage
  checkpointed : List String

namespace Sweep

def start (store : Store) (now : String) : Sweep where
  now
  affected := store.streamsWithExpiringPayloads now
  rest := store.streamsWithExpiringPayloads now
  stage := .next
  checkpointed := []

/-- The head of the next stream, or the deletion once there is none. -/
def look (sweep : Sweep) (store : Store) : Sweep :=
  match sweep.rest with
  | [] => { sweep with stage := .ended (.ok {
      at_ := sweep.now
      streamsCheckpointed := sweep.checkpointed
      payloadsDeleted := (store.expiredPayloads sweep.now).length
      deletedHashes := store.expiredPayloads sweep.now }) }
  | stream :: rest =>
      match store.streamHead stream with
      | some (seq, hash) => { sweep with rest, stage := .last { stream, seq, hash } }
      | none => { sweep with rest }

def answered (sweep : Sweep) (head : Head) (outcome : Outcome) : Sweep :=
  match outcome with
  | .accepted appended => { sweep with
      stage := .next
      checkpointed := sweep.checkpointed ++ [s!"{head.stream}@{appended.seq}"] }
  | .rejected reason detail => { sweep with
      stage := .ended (.error (err reason s!"the kernel's own checkpoint was rejected: {detail}")) }
  | .unavailable detail => { sweep with stage := .ended (.error (err storeUnavailable detail)) }

variable (config : Ingest.Config) (checkpointStream : String)

/-- What a sweep does next to the kernel: it submits a checkpoint, deletes payloads, or only reads. -/
def acts (sweep : Sweep) (world : World) (now : String) : Option Action :=
  match sweep.stage with
  | .next => if sweep.rest = [] then some (.decay sweep.now) else none
  | .position head fromSeq observedAt prevHash =>
      match head.request config checkpointStream world.store fromSeq observedAt prevHash with
      | .ok raw => some (.submit { raw, submittedBy := some "agent:kernel", receivedAt := now })
      | .error _ => none
  | _ => none

/-- Where a sweep is next. -/
def next (sweep : Sweep) (world : World) (now : String) : Sweep :=
  match sweep.stage with
  | .next => sweep.look world.store
  | .last head =>
      match head.fromSeq (world.store.lastCheckpoint head.stream) with
      | some fromSeq => { sweep with stage := .previous head fromSeq }
      | none => { sweep with stage := .next }
  | .previous head fromSeq => { sweep with
      stage := .position head fromSeq now ((world.store.streamHead checkpointStream).map Prod.snd) }
  | .position head fromSeq observedAt prevHash =>
      match head.request config checkpointStream world.store fromSeq observedAt prevHash with
      | .ok raw => { sweep with
          stage := .waiting head { raw, submittedBy := some "agent:kernel", receivedAt := now }
            world.answers.length }
      | .error e => { sweep with stage := .ended (.error e) }
  | .waiting head request asked =>
      match (world.answers.drop asked).find? fun answer => decide (answer.request = request) with
      | some answer => sweep.answered head answer.outcome
      | none => sweep
  | .ended _ => sweep

end Sweep

/-- The kernel with every decay run that was started. -/
structure Sweeper where
  world : World
  sweeps : List Sweep

variable (ext : External) (config : Ingest.Config) (checkpointStream : String)

namespace Sweeper

/-- Anything that can happen to the kernel, a decay run that starts, or one that takes its next step. -/
inductive Turn where
  | serve (action : Action)
  | start (now : String)
  | advance (index : Nat) (now : String)

def step (state : Sweeper) (turn : Turn) : Sweeper :=
  match turn with
  | .serve action => { state with world := state.world.step ext config action }
  | .start now => { state with sweeps := state.sweeps ++ [Sweep.start state.world.store now] }
  | .advance index now =>
      match state.sweeps[index]? with
      | some sweep => {
          world := ((sweep.acts config checkpointStream state.world now).map (state.world.step ext config)).getD state.world
          sweeps := state.sweeps.set index (sweep.next config checkpointStream state.world now) }
      | none => state

end Sweeper

/-- The kernel with its decay runs, over a new database: every interleaving of them with what it serves. -/
def sweeping : System Sweeper Sweeper.Turn where
  start state := state = { world := World.initial, sweeps := [] }
  step := Sweeper.step ext config checkpointStream

end Stozher
