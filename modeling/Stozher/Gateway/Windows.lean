import Mathlib.Algebra.GroupWithZero.Nat
import Stozher.Gateway.Envelopes

namespace Stozher.Gateway

open Library

/-- Reads of one caller folded together: how many there were of each, and samples of their arguments. -/
structure Window where
  stream : String
  subjectKey : String
  mandateRef : String
  policyVersion : String
  openedAt : String
  lastAt : String
  counts : List (String × Nat)
  samples : List String
  maxSamples : Nat

namespace Window

def opened (session : Session) (policyVersion openedAt : String) (maxSamples : Nat) : Window where
  stream := session.stream
  subjectKey := session.key.id.text
  mandateRef := session.mandateRef
  policyVersion := policyVersion
  openedAt := openedAt
  lastAt := openedAt
  counts := []
  samples := []
  maxSamples := maxSamples

def count (counts : List (String × Nat)) (action : String) : List (String × Nat) :=
  if counts.any (fun entry => entry.1 == action) then
    counts.map fun entry => if entry.1 = action then (entry.1, entry.2 + 1) else entry
  else counts ++ [(action, 1)]

/-- The first samples are kept, and after them the most recent. -/
def add (window : Window) (read : String × String × String) : Window :=
  let (action, argsHash, at_) := read
  { window with
    counts := count window.counts action
    lastAt := at_
    samples := if window.samples.length < window.maxSamples then window.samples ++ [argsHash]
      else window.samples.dropLast ++ [argsHash] }

def total (window : Window) : Nat :=
  (window.counts.map Prod.snd).sum

end Window

/-- The body of the envelope that seals a window. -/
def windowBody (config : GatewayConfig) (subject : String) (window : Window) (now : String) : Members := [
  ("v", .string "stozher/0.1"),
  ("kind", .string "aggregate"),
  ("emitted-at", .string now),
  ("identity", .object [("subject", .string subject), ("key", .string window.subjectKey),
    ("component", .string config.component)]),
  ("mandate-ref", .string window.mandateRef),
  ("policy-version", .string window.policyVersion),
  ("classification", .string "read"),
  ("window", .object [("from", .string window.openedAt), ("to", .string window.lastAt)]),
  ("counts", .object [("total", .ofNat window.total),
    ("by-action", .object (window.counts.map fun entry => (entry.1, .ofNat entry.2)))]),
  ("sample-hashes", .array ((window.samples.take 16).map .string))]

/-- What the kernel's gate rule reads of a sealed window. -/
theorem windowBody_read {config : GatewayConfig} {subject now : String} {window : Window} {env : Value}
    (carries : Carries env (windowBody config subject window now)) :
    env.getStr "kind" = some "aggregate" ∧ env.getStr "emitted-at" = some now ∧
      env.getStr "classification" = some "read" ∧ env.get "authorization" = none ∧
      (Ingest.execution env).getStr "action" = none := by
  have body : Ingest.execution env = .null := by
    unfold Ingest.execution
    rw [carries.index (by decide)]
    rfl
  rw [carries.getStr (by decide), carries.getStr (by decide), carries.getStr (by decide),
    carries "authorization" (by decide), body]
  exact ⟨rfl, rfl, rfl, rfl, rfl⟩

end Stozher.Gateway
