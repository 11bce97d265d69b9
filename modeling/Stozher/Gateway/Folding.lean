import Stozher.Gateway.Windows

namespace Stozher.Gateway

open Library

/-- What a window is keyed by. Any change opens another. -/
structure WindowKey where
  stream : String
  subjectKey : String
  mandateRef : String
  policyVersion : String
  deriving DecidableEq

namespace Window

def key (window : Window) : WindowKey where
  stream := window.stream
  subjectKey := window.subjectKey
  mandateRef := window.mandateRef
  policyVersion := window.policyVersion

def start (key : WindowKey) (openedAt : String) (maxSamples : Nat) : Window where
  stream := key.stream
  subjectKey := key.subjectKey
  mandateRef := key.mandateRef
  policyVersion := key.policyVersion
  openedAt := openedAt
  lastAt := openedAt
  counts := []
  samples := []
  maxSamples := maxSamples

end Window

/-- One call of `fold_read`. -/
structure FoldedRead where
  key : WindowKey
  action : String
  argsHash : String

/-- A window with the calls it counts, each by how many were made before it. -/
structure Folded where
  window : Window
  calls : List Nat

/-- When a window is full, and how many samples it keeps. -/
structure FoldConfig where
  gateway : GatewayConfig
  maxEvents : Nat
  maxSamples : Nat

/-- The emitter: the keys it has seen, the windows that are open, those its callers have taken out and have yet to
seal, and the local chain. The calls that were made and the envelopes windows were sealed in are kept with it. -/
structure Folds where
  keys : List (Signed.SigningKey × String)
  windows : List Folded
  closing : List (List Folded)
  chain : GatewayStore
  calls : List FoldedRead
  sealed : List (Folded × String)

/-- What can happen next. A caller takes windows out of the table, and then seals them one after another with
anything in between. -/
inductive FoldEvent where
  | fold (key : Signed.SigningKey) (subject : String) (read : FoldedRead) (openedAt : String) (readAt : String)
  | expire (deadline : String)
  | flush
  | close (index : Nat) (now : String) (createdAt : String) (interrupted : Bool)
  | emit (emission : Emission)

namespace Folds

/-- A new emitter over a local chain. -/
def onto (chain : GatewayStore) : Folds where
  keys := []
  windows := []
  closing := []
  chain
  calls := []
  sealed := []

variable (ext : External) (checkShape : Value → Result Unit) (config : FoldConfig)

def registerKey (keys : List (Signed.SigningKey × String)) (key : Signed.SigningKey) (subject : String) :
    List (Signed.SigningKey × String) :=
  keys.filter (fun held => held.1.id.text != key.id.text) ++ [(key, subject)]

/-- Changes the window of a key, which is opened where there is none. -/
def enter (windows : List Folded) (fresh : Folded) (change : Folded → Folded) : List Folded :=
  if windows.any fun folded => folded.window.key == fresh.window.key then
    windows.map fun folded => if folded.window.key = fresh.window.key then change folded else folded
  else windows ++ [change fresh]

def full (key : WindowKey) (folded : Folded) : Bool :=
  folded.window.key == key && decide (config.maxEvents ≤ folded.window.total)

/-- The windows a caller takes out of the table, which it is then to seal. -/
def takeOut (state : Folds) (taken : Folded → Bool) : Folds :=
  { state with
    windows := state.windows.filter fun folded => !taken folded
    closing := state.closing ++ [state.windows.filter taken] }

def foldRead (state : Folds) (key : Signed.SigningKey) (subject : String) (read : FoldedRead)
    (openedAt readAt : String) : Folds :=
  let entered := { state with
    keys := registerKey state.keys key subject
    windows := enter state.windows { window := .start read.key openedAt config.maxSamples, calls := [] }
      fun folded => {
        window := folded.window.add (read.action, read.argsHash, readAt)
        calls := folded.calls ++ [state.calls.length] }
    calls := state.calls ++ [read] }
  entered.takeOut (full config read.key)

/-- The envelope that seals a window, where its signing key is known. -/
def emission (keys : List (Signed.SigningKey × String)) (window : Window) (now createdAt : String) :
    Option Emission :=
  (keys.find? fun held => held.1.id.text == window.subjectKey).map fun held => {
    key := held.1
    stream := window.stream
    body := windowBody config.gateway held.2 window now
    payloads := []
    createdAt }

/-- Seals a window, unless the database fails the write. What a refusal of the envelope's shape does not stop, any
other failure does. -/
def sealNext (state : Folds) (index : Nat) (folded : Folded) (rest : List Folded) (now createdAt : String)
    (interrupted : Bool) : Folds :=
  match emission config state.keys folded.window now createdAt with
  | none => { state with closing := state.closing.set index rest }
  | some emission =>
      if interrupted then { state with closing := state.closing.set index [] }
      else
        match append ext checkShape state.chain emission with
        | .ok (chain, id) =>
            { state with
              chain
              closing := state.closing.set index rest
              sealed := state.sealed ++ [(folded, id)] }
        | .error refusal =>
            { state with closing := state.closing.set index (if refusal.seq.isSome then rest else []) }

def step (state : Folds) : FoldEvent → Folds
  | .fold key subject read openedAt readAt => foldRead config state key subject read openedAt readAt
  | .expire deadline => state.takeOut fun folded => decide (folded.window.openedAt ≤ deadline)
  | .flush => state.takeOut fun _ => true
  | .close index now createdAt interrupted =>
      match state.closing[index]? with
      | some (folded :: rest) => sealNext ext checkShape config state index folded rest now createdAt interrupted
      | _ => state
  | .emit emission => { state with chain := Gateway.step ext checkShape state.chain emission }

/-- Whether a window that is taken out is not chained: its key is not known, its envelope is refused, or the
database fails. -/
def loses (state : Folds) : FoldEvent → Bool
  | .close index now createdAt interrupted =>
      (state.closing[index]?.bind List.head?).any fun folded =>
        interrupted || ((emission config state.keys folded.window now createdAt).all fun emission =>
          !(append ext checkShape state.chain emission).isOk)
  | _ => false

/-- The windows that are open, those that are being sealed, and those that are. -/
def holders (state : Folds) : List Folded :=
  state.windows ++ state.closing.flatten ++ state.sealed.map Prod.fst

end Folds

/-- The emitter over a local chain, with whatever else is chained meanwhile. -/
def folding (ext : External) (checkShape : Value → Result Unit) (config : FoldConfig) : System Folds FoldEvent where
  start state := ∃ chain, state = .onto chain
  step := Folds.step ext checkShape config

end Stozher.Gateway
