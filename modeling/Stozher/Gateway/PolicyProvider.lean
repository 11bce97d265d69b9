import Stozher.Clock
import Stozher.Gateway.MandateWalk
import Stozher.Gateway.Policy
import Stozher.Library.Marked
import Stozher.Library.Runs

namespace Stozher.Gateway

open Library

/-- The policies a gateway has verified, by version, each with the instant it was vouched for at. -/
abbrev PolicyCache := List (Marked String (Value × String))

namespace Policy

variable (ext : External) (readInt : String → Option Int)

/-- The members a policy document has to have. -/
def members : List String :=
  ["policy-version", "classification", "gate-rules", "offline", "evidence-ttl"]

/-- Parses a document, refusing anything unsigned, wrongly signed, or not understood. -/
def verified (document : Value) (policyKey : Option String) : Result Policy := do
  require document.isObject (err "schema-type-mismatch" "a policy document must be an object")
  require (document.getStr "v" = some "stozher/0.1")
    (err "envelope-version-unsupported" (((document.get "v").map (KernelResponse.str ext)).getD "None"))
  require (document.getStr "kind" = some "policy") (err "schema-type-mismatch" "kind must be policy")
  let signer ← okOr (Signed.verifySignedObject ext document).toOption
    (err "policy-sig-invalid" "the policy signature does not verify")
  require (policyKey.all fun key => signer.text == key) (err "policy-sig-invalid" s!"signed by {signer.text}")
  forEach (fun member => require (document.get member).isSome (err "schema-missing-member" member)) members
  return { document }

def revokeCached (policy : Policy) : Bool :=
  ((policy.document.get "revoke-cached").map KernelResponse.truthy).getD false

def maxStalenessSeconds (policy : Policy) : Result Int :=
  ((policy.document.get "max-staleness-seconds").map (MandateWalk.int readInt)).getD (.ok 300)

end Policy

/-- Versioned pull with a persistent cache. -/
structure PolicyProvider where
  policy : Option Policy
  verifiedAt : Option String
  checkedAt : Option String
  repulledFor : Option String

namespace PolicyProvider

variable (ext : External) (readInt : String → Option Int) (policyKey : Option String) (refreshSeconds : Int)

/-- A provider nothing was pulled into yet. -/
def new : PolicyProvider where
  policy := none
  verifiedAt := none
  checkedAt := none
  repulledFor := none

/-- What a refresh leaves: the provider, the cache, and whether the kernel answered. -/
structure Refreshed where
  provider : PolicyProvider
  cache : PolicyCache
  answered : Bool

/-- Asks the kernel. What cannot be verified is not put in force. -/
def pull (provider : PolicyProvider) (cache : PolicyCache) (answer : Answer) (now : String) : Refreshed :=
  let checked := { provider with checkedAt := some now }
  match answer with
  | .error _ => { provider := checked, cache, answered := false }
  | .ok response =>
      if response.accepted = false ∧ response.status ≠ 200 then { provider := checked, cache, answered := false }
      else
        match Policy.verified ext response.body policyKey with
        | .error _ => { provider := checked, cache, answered := false }
        | .ok policy => {
            provider := { checked with policy := some policy, verifiedAt := some now }
            cache := Marked.put cache policy.version (policy.document, now)
            answered := true }

/-- Pulls where a pull is due. -/
def refreshIfDue (provider : PolicyProvider) (cache : PolicyCache) (answer : Answer) (now : String) :
    Result Refreshed :=
  match provider.checkedAt with
  | none => .ok (provider.pull ext policyKey cache answer now)
  | some checkedAt => do
      let due ← Clock.shift checkedAt refreshSeconds
      if now < due then return { provider, cache, answered := true }
      else return provider.pull ext policyKey cache answer now

def loadCache (provider : PolicyProvider) (cache : PolicyCache) : PolicyProvider :=
  match Marked.current cache with
  | none => provider
  | some (_, document, verifiedAt) =>
      match Policy.verified ext document policyKey with
      | .ok policy => { provider with policy := some policy, verifiedAt := some verifiedAt }
      | .error _ => provider

def isFresh (provider : PolicyProvider) (now : String) : Result Bool :=
  match provider.policy, provider.verifiedAt with
  | some policy, some verifiedAt => do
      let staleness ← policy.maxStalenessSeconds readInt
      let deadline ← Clock.shift verifiedAt staleness
      return decide (now ≤ deadline)
  | _, _ => .ok false

/-- What is read of the world while the policy in force is asked for: the clock, and what the kernel answers to
a pull that is due and to one that is owed. -/
structure Reading where
  now : String
  answer : Answer
  again : String
  owed : Answer
  later : String

/-- The policy in force, with whether it is fresh enough to act on as if online. -/
def inForce (provider : PolicyProvider) (cache : PolicyCache) (policy : Policy) (fresh : Result Bool) :
    PolicyProvider × PolicyCache × Result (Policy × Bool) :=
  (provider, cache, fresh.map fun fresh => (policy, fresh))

def current (provider : PolicyProvider) (cache : PolicyCache) (reading : Reading) :
    PolicyProvider × PolicyCache × Result (Policy × Bool) :=
  match provider.refreshIfDue ext policyKey refreshSeconds cache reading.answer reading.now with
  | .error e => (provider, cache, .error e)
  | .ok { provider, cache, .. } =>
      let provider := if provider.policy.isNone then provider.loadCache ext policyKey cache else provider
      match provider.policy with
      | none => (provider, cache, .error (err "policy-not-published" "no verified policy is available"))
      | some policy =>
          if policy.revokeCached = true ∧ provider.repulledFor ≠ some policy.version then
            let again := { provider with checkedAt := none }.pull ext policyKey cache reading.owed reading.again
            let policy := again.provider.policy.getD policy
            if again.answered then
              let provider := { again.provider with repulledFor := some policy.version }
              inForce provider again.cache policy (provider.isFresh readInt reading.later)
            else inForce again.provider again.cache policy (.ok false)
          else inForce provider cache policy (provider.isFresh readInt reading.later)

end PolicyProvider

end Stozher.Gateway
