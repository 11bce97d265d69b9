import Stozher.Gateway.Enforcement
import Stozher.InstantOrder
import Stozher.Library.Transactions

namespace Stozher.Gateway

open Library

/-- A call that needs an approver, with what it has read of the clock. -/
structure ParkCall where
  ask : ActionRequest
  now : Int
  fresh : String
  server : String
  tool : String
  firstCall : Bool

namespace ParkCall

variable (ext : External) (call : ParkCall)

def reading : String :=
  Clock.formatMillis call.now

/-- The request a call mints before it asks the store. -/
def mint : Result Parked := do
  let notAfter ← Clock.shift call.reading 3600
  let request := actionRequest call.ask call.reading call.fresh notAfter
  let requestHash ← Jcs.objectHash ext request
  return {
    requestHash, request, server := call.server, tool := call.tool
    proposedClass := call.ask.classification, firstCall := call.firstCall
    createdAt := call.reading, decision := none, catalogClass := none, seed := none
    consumedAt := none }

end ParkCall

/-- What is written to parked requests: a call parks, an answer arrives or is used, a seed is asked for or answered. -/
inductive Paperwork where
  | park (call : ParkCall)
  | parkSeed (requestHash : String) (seedRequest : Value) (catalogClass : String)
  | attachSeedDecision (requestHash : String) (decision : Value)
  | recordGateDecision (requestHash : String) (decision : Value)
  | recordDecision (requestHash : String) (decision : Value) (catalogClass : Option String) (seed : Option Seed)
  | consume (requestHash at_ : String)

/-- How far a transaction over the parked requests is. -/
inductive Parking where
  | locked (paperwork : Paperwork)
  | looked (call : ParkCall) (minted : Parked) (held : Option Parked)
  | parked (call : ParkCall) (told : String)
  | updated

/-- The next statement of a transaction over the parked requests. -/
def parkingNext (ext : External) (store : Local) : Parking → Option (Local × Parking)
  | .locked (.park call) =>
      (call.mint ext).toOption.map fun minted =>
        (store, .looked call minted (store.outstandingFor call.ask.fields call.reading))
  | .looked call _ (some held) => some (store, .parked call held.requestHash)
  | .looked call minted none =>
      some ({ store with
        parked := store.parked.filter (fun other => other.requestHash != minted.requestHash) ++ [minted] },
        .parked call minted.requestHash)
  | .locked (.parkSeed requestHash seedRequest catalogClass) =>
      some (store.parkSeed requestHash seedRequest catalogClass, .updated)
  | .locked (.attachSeedDecision requestHash decision) =>
      some (store.attachSeedDecision requestHash decision, .updated)
  | .locked (.recordGateDecision requestHash decision) =>
      some (store.recordGateDecision requestHash decision, .updated)
  | .locked (.recordDecision requestHash decision catalogClass seed) =>
      some (store.recordDecision requestHash decision catalogClass seed, .updated)
  | .locked (.consume requestHash at_) => some (store.consume requestHash at_, .updated)
  | .parked _ _ => none
  | .updated => none

/-- `park_unique` and the updates of parked requests as the transactions they are. -/
def parking (ext : External) : Transactions Local Parking Paperwork where
  first := .locked
  next := parkingNext ext
  final
    | .parked _ _ => true
    | .updated => true
    | _ => false

/-- The local database of a gateway, the clock of the host beside it. -/
structure Desk (ω : Type) where
  shared : Shared ω Local Parking
  instant : Int

def Desk.now {ω : Type} (desk : Desk ω) : String :=
  Clock.formatMillis desk.instant

/-- What can happen next: a turn at the database, or time passes. -/
inductive DeskMove (ω : Type) where
  | turn (turn : Turn ω Paperwork)
  | wait (millis : Nat)

/-- Whether a transaction may start at an instant: a call has read the clock before. -/
def mayStart (instant : Int) : Paperwork → Bool
  | .park call => -62135596800000 ≤ call.now && call.now ≤ instant
  | _ => true

/-- A clock stops where timestamps do. -/
def Desk.move {ω : Type} [DecidableEq ω] (ext : External) (desk : Desk ω) : DeskMove ω → Desk ω
  | .turn (.start writer paperwork) =>
      if mayStart desk.instant paperwork then
        { desk with shared := (parking ext).step desk.shared (.start writer paperwork) }
      else desk
  | .turn turn => { desk with shared := (parking ext).step desk.shared turn }
  | .wait millis =>
      if desk.instant + millis ≤ 253402300799999 then { desk with instant := desk.instant + millis } else desk

/-- The threads of any number of processes that park calls in one local database. -/
def parkingDesk (ext : External) (ω : Type) [DecidableEq ω] : System (Desk ω) (DeskMove ω) where
  start desk := desk.shared.stored.parked = [] ∧ desk.shared.writing = none ∧ Clock.InForm desk.instant
  step := Desk.move ext

/-- The gate parks what it mints for the call, unless a request of it is held. -/
theorem Enforcer.gate_parks {ext : External} {config : GatewayConfig} {enforcer : Enforcer} {work : Work}
    {approvers : List Gate.Approver} {firstCall : Bool} {reading : Reading} {call : ParkCall} {minted : Parked}
    (undecided : enforcer.store.decidedFor (work.ask config).fields = none)
    (asks : call.ask = work.ask config) (reads : call.reading = reading.now) (fresh : call.fresh = reading.fresh)
    (server : call.server = work.call.server) (tool : call.tool = work.call.tool)
    (first : call.firstCall = firstCall) (mints : call.mint ext = .ok minted) :
    (enforcer.gate ext config work approvers firstCall reading).store =
      (enforcer.store.parkUnique minted call.ask.fields call.reading).1 := by
  unfold ParkCall.mint at mints
  simp only [bind_eq_ok, pure_eq_ok] at mints
  obtain ⟨notAfter, shifts, requestHash, hashed, rfl⟩ := mints
  rw [reads] at shifts
  rw [asks, reads, fresh] at hashed
  unfold Enforcer.gate
  dsimp only
  rw [undecided]
  dsimp only
  rw [shifts]
  dsimp only
  rw [hashed]
  dsimp only
  rw [asks, reads, fresh, server, tool, first]
  have class_ : (work.ask config).classification = work.classification.classification := rfl
  rw [class_]
  split
  · rename_i held
    exact (congrArg Prod.fst held).symm
  · rename_i parks
    split
    · exact (congrArg Prod.fst parks).symm
    · exact (congrArg Prod.fst parks).symm

end Stozher.Gateway
