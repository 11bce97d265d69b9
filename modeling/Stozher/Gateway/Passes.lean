import Stozher.PushProgress

namespace Stozher.Gateway

open Library

/-- What a pass is at: between two envelopes, about to offer one, or writing down what became of it. -/
inductive Stage where
  | ready
  | offering (row : Queued) (standing : Option Wedge)
  | accepting (row : Queued) (marked : Bool)
  | refused (row : Queued) (reason detail : String) (marked : Bool)
  | failing (row : Queued) (detail : String)

/-- The stream of an answer a pass has from the kernel and has not written down yet. -/
def Stage.busyWith : Stage → Option String
  | .accepting row _ => some (streamOf row)
  | .refused row _ _ _ => some (streamOf row)
  | _ => none

/-- The envelope a pass is at. -/
def Stage.row : Stage → Option Queued
  | .ready => none
  | .offering row _ => some row
  | .accepting row _ => some row
  | .refused row _ _ _ => some row
  | .failing row _ => some row

/-- A pass under way: what is left of the batch it read, the streams it has seen refused, and what it is at. -/
structure Offering where
  rows : List Queued
  wedged : List String
  stage : Stage

def Offering.idle : Offering where
  rows := []
  wedged := []
  stage := .ready

/-- The local store with the passes over it, and what the kernel has answered. -/
structure Pushers where
  outbox : Outbox
  passes : List Offering
  answers : List (Queued × Answer)

/-- What can happen next. A pass reads its batch, and then for each envelope of it reads the wedge of its stream,
offers it, and writes down what became of it, with anything in between. -/
inductive PassMove where
  | chain (emission : Emission)
  | grace (stream : String)
  | start (limit : Int)
  | perform (index : Nat) (answer : Answer) (now : String)
  | abandon (index : Nat)

namespace Outbox

/-- Counts one effect served while the stream is refused. -/
def noteGraceUse (outbox : Outbox) (stream : String) : Outbox :=
  { outbox with wedges := outbox.wedges.map fun wedge =>
      if wedge.stream = stream then { wedge with graceServed := wedge.graceServed + 1 } else wedge }

end Outbox

namespace Pushers

variable (ext : External)

/-- The next envelope of a batch, whose stream's wedge is read unless the pass has seen it refused. -/
def next (outbox : Outbox) (pass : Offering) : Offering :=
  match pass.rows with
  | [] => .idle
  | row :: rest =>
      if streamOf row ∈ pass.wedged then { pass with rows := rest }
      else { pass with rows := rest, stage := .offering row (outbox.wedge (streamOf row)) }

/-- What the kernel's answer has a pass do. -/
def heard (pass : Offering) (row : Queued) (standing : Option Wedge) (answer : Answer) : Offering :=
  match answer with
  | .error unreachable => { pass with stage := .failing row unreachable }
  | .ok response =>
      if response.accepted then { pass with stage := .accepting row false }
      else if response.refusesTheObject ext = false then
        let code := (response.reasonCode ext).getD (toString response.status)
        { pass with stage := .failing row (code ++ ": " ++ response.detail ext) }
      else if standing.isSome then { pass with stage := .ready, wedged := streamOf row :: pass.wedged }
      else
        let reason := (response.reasonCode ext).getD "x-kernel-refused"
        { pass with stage := .refused row reason (response.detail ext) false }

def setPass (state : Pushers) (index : Nat) (pass : Offering) : Pushers :=
  { state with passes := state.passes.set index pass }

def wedgeOf (row : Queued) (reason detail now : String) : Wedge where
  stream := streamOf row
  envelopeId := row.id
  seq := ((row.envelope.get "seq").bind Value.asI64).getD (-1)
  reasonCode := reason
  detail
  firstRefusedAt := now
  graceServed := 0

/-- One step of a pass. -/
def perform (state : Pushers) (index : Nat) (answer : Answer) (now : String) : Pushers :=
  match state.passes[index]? with
  | none => state
  | some pass =>
      match pass.stage with
      | .ready => state.setPass index (next state.outbox pass)
      | .offering row standing =>
          { state with answers := state.answers ++ [(row, answer)] }.setPass index
            (heard ext pass row standing answer)
      | .accepting row false =>
          { state with outbox := state.outbox.markPushed row.id now none }.setPass index
            { pass with stage := .accepting row true }
      | .accepting row true =>
          { state with outbox := state.outbox.clearWedge (streamOf row) }.setPass index { pass with stage := .ready }
      | .refused row reason detail false =>
          { state with outbox := state.outbox.markPushed row.id now (some (reason ++ ": " ++ detail)) }.setPass index
            { pass with stage := .refused row reason detail true }
      | .refused row reason detail true =>
          { state with outbox := state.outbox.recordWedge (wedgeOf row reason detail now) }.setPass index
            { pass with stage := .ready, wedged := streamOf row :: pass.wedged }
      | .failing row detail =>
          { state with outbox := state.outbox.markPushError row.id detail }.setPass index .idle

def step (checkShape : Value → Result Unit) (state : Pushers) : PassMove → Pushers
  | .chain emission =>
      { state with outbox := turn ext checkShape state.outbox (.chain emission : Turn Unit) }
  | .grace stream => { state with outbox := state.outbox.noteGraceUse stream }
  | .start limit =>
      { state with passes := state.passes ++ [{ rows := state.outbox.unpushed limit, wedged := [], stage := .ready }] }
  | .perform index answer now => perform ext state index answer now
  | .abandon index => state.setPass index .idle

end Pushers

/-- The passes of the gateway's processes over a new local store. -/
def pushers (ext : External) (checkShape : Value → Result Unit) : System Pushers PassMove where
  start state := state.outbox.rows = [] ∧ state.outbox.wedges = [] ∧ state.passes = [] ∧ state.answers = []
  step := Pushers.step ext checkShape

/-- The refusal a stream has had no progress since, after one more answer. -/
def judge (ext : External) (stream : String) (refused : Option Queued) (entry : Queued × Answer) : Option Queued :=
  if entry.1.stream = stream then
    match entry.2 with
    | .error _ => refused
    | .ok response =>
        if response.accepted then refused.filter fun first => decide (entry.1.seq ≤ first.seq)
        else if response.refusesTheObject ext then refused.or (some entry.1)
        else refused
  else refused

/-- The envelope of a stream that the kernel refused first since it last accepted one past a refusal. -/
def refusal (ext : External) (answers : List (Queued × Answer)) (stream : String) : Option Queued :=
  answers.foldl (judge ext stream) none

end Stozher.Gateway
