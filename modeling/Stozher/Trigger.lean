import Stozher.Signed

namespace Stozher.Trigger

open Library

def check (envelope : Value) (mandate signal : Option Value) : Result Unit :=
  match envelope.get "trigger" with
  | none => .ok ()
  | some trigger => do
      let standingRef ← okOr (trigger.getStr "standing-mandate-ref")
        (err "schema-missing-member" "trigger.standing-mandate-ref")
      require (envelope.getStr "mandate-ref" = some standingRef) (err "trigger-mandate-mismatch"
        "the authority for a triggered action is the mandate the effect is judged against")
      let signalRef ← okOr (trigger.getStr "signal-ref")
        (err "schema-missing-member" "trigger.signal-ref")
      let signal ← okOr signal (err "trigger-signal-unresolved"
        s!"no appended signal envelope with id {signalRef}")
      require (signal.getStr "kind" = some "signal")
        (err "trigger-signal-unresolved" s!"{signalRef} is not a signal envelope")
      let mandate ← okOr mandate (err "mandate-unresolved" s!"no mandate {standingRef}")
      require (mandate.getStr "mandate-kind" = some "standing") (err "trigger-mandate-not-standing"
        "a triggered effect must cite a standing mandate")

end Stozher.Trigger
