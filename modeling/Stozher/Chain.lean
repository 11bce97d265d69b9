import Stozher.Envelope

namespace Stozher.Chain

open Library

variable (ext : External)

structure ChainResult where
  count : Nat
  headHash : String
  anchored : Bool
  deriving DecidableEq

def attach (error : Error) (seq : Option Nat) : Error :=
  match seq with
  | some seq => error.atSeq seq
  | none => error

/-- Checks the claimed predecessor, or the anchor of a range that does not start at its stream's. -/
def checkPrevious (expectedFirstPrev : Option String) (seq : Nat)
    (previousId claimed : Option String) : Result Unit :=
  match previousId, claimed with
  | none, none => .ok ()
  | none, some claimed =>
      match expectedFirstPrev with
      | some anchor => require (claimed = anchor) ((err "chain-prev-hash-mismatch"
          s!"prev-hash {claimed} does not match the supplied anchor {anchor}").atSeq seq)
      | none => .ok ()
  | some actual, some claimed => require (claimed = actual) ((err "chain-prev-hash-mismatch"
      s!"prev-hash {claimed} != predecessor id {actual}").atSeq seq)
  | some _, none => .error ((err "chain-prev-hash-missing" s!"seq {seq} has no prev-hash").atSeq seq)

/-- Checks one envelope of the range against its predecessor's id and returns its own. -/
def verifyLink (stream : String) (expectedFirstPrev : Option String) (expectedSeq : Nat)
    (previousId : Option String) (current : Value) : Result String := do
  let observedSeq := current.getU64 "seq"
  let seq := observedSeq.getD 0
  let _ ← (Signed.verifySignedObject ext current).mapError (attach · observedSeq)
  (Envelope.validate ext current).mapError (·.atSeq seq)
  let observedStream := (current.getStr "stream").getD ""
  require (observedStream = stream) ((err "chain-stream-mismatch"
    s!"expected {debug stream}, found {debug observedStream}").atSeq seq)
  require (seq = expectedSeq) ((err
    (if seq < expectedSeq then "chain-seq-duplicate" else "chain-seq-gap")
    s!"expected seq {expectedSeq}, found {seq}").atSeq seq)
  checkPrevious expectedFirstPrev seq previousId (current.getStr "prev-hash")
  Signed.objectId ext current

def verifyLinks (stream : String) (expectedFirstPrev : Option String) :
    Nat → Option String → List Value → Result (Option String)
  | _, previousId, [] => .ok previousId
  | expectedSeq, previousId, current :: rest => do
      let id ← verifyLink ext stream expectedFirstPrev expectedSeq previousId current
      verifyLinks stream expectedFirstPrev (expectedSeq + 1) (some id) rest

def verifyChain (envelopes : List Value) (stream : String) (expectedFirstPrev : Option String) :
    Result ChainResult := do
  let first ← okOr envelopes.head? (err "chain-empty-range" "no envelopes supplied")
  let firstSeq := (first.getU64 "seq").getD 0
  let previousId ← verifyLinks ext stream expectedFirstPrev firstSeq none envelopes
  return {
    count := envelopes.length
    headHash := previousId.getD ""
    anchored := firstSeq == 0 || expectedFirstPrev.isSome }

end Stozher.Chain
