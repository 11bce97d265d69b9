import Stozher.Library.Text

namespace Stozher.Sync

open Library

def accepted : String := "accepted"
def unreachable : String := "unreachable"

/-- Whether a call may proceed, what a refusal of it must say, and whether serving it is a finding. -/
structure Decision where
  serve : Bool
  reasonCode : Option String
  finding : Bool
  deriving DecidableEq

/-- What a component decides from. -/
structure SyncState where
  outcome : String
  reasonCode : Option String
  classification : String
  elapsedSeconds : Int
  offline : String
  wedgeGraceSeconds : Int

/-- Whether a refusal's reason leaves no grace for any class. -/
def deniesEveryClass (reasonCode : String) : Bool :=
  Text.startsWith reasonCode "mandate-" || reasonCode == "policy-not-published"

def decide (state : SyncState) : Decision :=
  if state.outcome = accepted then { serve := true, reasonCode := none, finding := false }
  else if state.outcome = unreachable then
    if state.offline = "allow" then { serve := true, reasonCode := none, finding := false }
    else { serve := false, reasonCode := some "policy-stale-offline", finding := false }
  else
    let reason := state.reasonCode.getD "x-kernel-refused"
    let refuse := { serve := false, reasonCode := some reason, finding := false }
    if deniesEveryClass reason then refuse
    else if state.classification = "consequential" ∨ state.classification = "prohibited" then refuse
    else if state.elapsedSeconds < state.wedgeGraceSeconds then { serve := true, reasonCode := none, finding := true }
    else refuse

/-- Where a stream stands. -/
inductive StreamStatus where
  | healthy
  | quiet
  | refused
  deriving DecidableEq

def streamStatus (lastAcceptedAt lastRefusedAt : Option String) (secondsSinceAccepted : Option Int)
    (quietAfterSeconds : Int) : StreamStatus :=
  if lastRefusedAt.any fun refused => lastAcceptedAt.all fun accepted => accepted ≤ refused then .refused
  else
    match secondsSinceAccepted with
    | none => .quiet
    | some silent => if quietAfterSeconds < silent then .quiet else .healthy

end Stozher.Sync
