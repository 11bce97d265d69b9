import Stozher.Mandate.Revocation

namespace Stozher.Mandate

open Library

variable (ext : External)

structure MandateChainOk where
  humanRoot : String
  rootKey : KeyId
  depth : Nat
  deriving DecidableEq

structure VerifyParams where
  roots : List KeyId
  revocations : List Value
  at_ : String
  subjectKey : KeyId
  maxDelegationDepth : Nat

/-- What of the scope a walk checks at every link. -/
inductive Scoped where
  | full (request : MandateRequest)
  | byResource (resource : String)
  | not

def maxDepthOf (mandate : Value) : Result Nat := do
  let raw ← okOr (mandate.getU64 "max-depth") (err "schema-missing-member" "max-depth")
  require (raw < 2 ^ 32) (err "encoding-integer-out-of-range" s!"max-depth {raw}")
  return raw

def windowOf (mandate : Value) : Result (String × String) := do
  let start ← okOr (mandate.getStr "not-before") (err "schema-missing-member" "not-before")
  let stop ← okOr (mandate.getStr "not-after") (err "mandate-missing-expiry" "not-after")
  return (start, stop)

/-- Signed by its grantor, who is not its grantee. -/
def checkSigner (current : Value) : Result KeyId := do
  let signer ← Signed.verifySignedObject ext current
  let grantorKey ← keyAt current "grantor"
  require (signer = grantorKey) (err "mandate-signer-not-grantor"
    s!"signed by {signer.text}, grantor is {grantorKey.text}")
  let granteeKey ← keyAt current "grantee"
  require (grantorKey ≠ granteeKey)
    (err "mandate-self-grant" "grantor and grantee are the same key")
  return grantorKey

def checkWindow (current : Value) (currentRef at_ : String) : Result Unit := do
  let notAfter ← okOr (current.getStr "not-after")
    (err "mandate-missing-expiry" s!"mandate {currentRef} has no not-after")
  let notBefore ← okOr (current.getStr "not-before") (err "schema-missing-member" "not-before")
  require (notBefore ≤ at_) (err "mandate-not-yet-valid" s!"at {at_} precedes {notBefore}")
  require (at_ ≤ notAfter) (err "mandate-expired" s!"at {at_} is after {notAfter}")

def checkNotRevoked (revoked : RevocationIndex) (currentRef at_ : String) : Result Unit :=
  match revoked currentRef with
  | some revokedAt => require (at_ < revokedAt)
      (err "mandate-revoked" s!"mandate {currentRef} was revoked at {revokedAt}")
  | none => .ok ()

def checkScope (scope : Value) : Scoped → Result Unit
  | .byResource resource => do
      let permitted ← dimensionPermits scope "resources" resource
      require permitted (err "mandate-scope-not-permitted"
        s!"scope does not cover the resource {resource}")
  | .not => .ok ()
  | .full request => do
      let permitted ← scopePermits scope request
      require permitted (err "mandate-scope-not-permitted"
        s!"scope does not cover {request.component}/{request.action} on {request.resource}")

/-- What every link is checked for, whatever its kind. -/
def checkLink (revoked : RevocationIndex) (request : Scoped) (params : VerifyParams)
    (currentRef : String) (current : Value) : Result KeyId := do
  let grantorKey ← checkSigner ext current
  checkWindow current currentRef params.at_
  checkNotRevoked revoked currentRef params.at_
  let scope ← okOr (current.get "scope") (err "schema-missing-member" "scope")
  checkScope scope request
  return grantorKey

/-- A mandate without a parent, granted by an enrolled human root. -/
def checkRootGrant (current : Value) (grantorKey : KeyId) (grantorRole : String)
    (roots : List KeyId) : Result Unit := do
  require (((current.get "parent").getD .null).isNull)
    (err "mandate-root-has-parent" "a root mandate must have parent null")
  require (grantorRole = "human") (err "mandate-root-grantor-not-human"
    s!"root mandate granted by role {debug grantorRole}")
  require (grantorKey ∈ roots) (err "mandate-root-not-enrolled"
    s!"{grantorKey.text} is not an enrolled human root")

/-- What a delegated mandate may not exceed of its parent. -/
def checkNarrowing (current parent : Value) (ownMaxDepth : Result Nat) (exhausted : String) :
    Result Unit := do
  let parentMax ← maxDepthOf parent
  require (1 ≤ parentMax) (err "mandate-delegation-depth-exceeded" exhausted)
  let ownMaxDepth ← ownMaxDepth
  require (ownMaxDepth ≤ parentMax - 1) (err "mandate-delegation-depth-exceeded"
    s!"max-depth {ownMaxDepth} exceeds the parent's budget")
  let scope ← okOr (current.get "scope") (err "schema-missing-member" "scope")
  let parentScope ← okOr (parent.get "scope") (err "schema-missing-member" "parent.scope")
  let narrowed ← scopeSubset scope parentScope
  require narrowed
    (err "mandate-scope-widened" "delegated scope is not a subset of the parent's")
  let (childFrom, childTo) ← windowOf current
  let (parentFrom, parentTo) ← windowOf parent
  require (parentFrom ≤ childFrom ∧ childTo ≤ parentTo) (err "mandate-window-outside-parent"
    s!"[{childFrom}, {childTo}] is not inside [{parentFrom}, {parentTo}]")
  let within ← budgetWithin (current.get "budget") (parent.get "budget")
  require within (err "mandate-budget-exceeds-parent" "a delegated budget may only narrow")

def checkHeld (grantorKey : KeyId) (parent : Value) : Result Unit := do
  let parentGrantee ← keyAt parent "grantee"
  require (grantorKey = parentGrantee) (err "mandate-delegation-not-held"
    s!"{grantorKey.text} is not the parent's grantee")

/-- The parent of a delegated link, once the link is checked against it. -/
def checkDelegation (mandates : Members) (current : Value) (grantorKey : KeyId)
    (grantorRole : String) : Result (String × Value) := do
  let parentRef ← okOr (current.getStr "parent")
    (err "mandate-delegated-without-parent" "parent is null")
  require (grantorRole = "agent") (err "mandate-delegated-grantor-not-agent"
    s!"delegated mandate granted by role {debug grantorRole}")
  let parent ← resolve mandates parentRef
  checkHeld grantorKey parent
  checkNarrowing current parent (maxDepthOf current)
    s!"parent {parentRef} permits no further delegation"
  return (parentRef, parent)

def grantorRoleOf (mandate : Value) : Result String :=
  okOr ((mandate.get "grantor").bind (·.getStr "role"))
    (err "schema-missing-member" "grantor.role")

/-- The loop of `walk`, from one mandate up to the root. -/
def walkFrom (mandates : Members) (revoked : RevocationIndex) (request : Scoped)
    (params : VerifyParams) (depth : Nat) (currentRef : String) (current : Value) :
    Result MandateChainOk := do
  let grantorKey ← checkLink ext revoked request params currentRef current
  let kind ← okOr (current.getStr "mandate-kind") (err "schema-missing-member" "mandate-kind")
  let grantorRole ← grantorRoleOf current
  if kind = "interactive" ∨ kind = "standing" then
    checkRootGrant current grantorKey grantorRole params.roots
    let subject ← okOr ((current.get "grantor").bind (·.getStr "subject"))
      (err "schema-missing-member" "grantor.subject")
    return { humanRoot := subject, rootKey := grantorKey, depth }
  else if kind = "delegated" then
    let (parentRef, parent) ← checkDelegation mandates current grantorKey grantorRole
    if depth + 1 ≤ params.maxDelegationDepth then
      walkFrom mandates revoked request params (depth + 1) parentRef parent
    else
      throw (err "mandate-delegation-depth-exceeded"
        s!"chain depth {depth + 1} exceeds the configured maximum {params.maxDelegationDepth}")
  else throw (err "mandate-kind-unknown" s!"mandate-kind {debug kind}")
termination_by params.maxDelegationDepth - depth

def walk (mandates : Members) (leafRef : String) (request : Scoped) (params : VerifyParams) :
    Result MandateChainOk := do
  let revoked := revocationIndex ext mandates params.revocations params.roots
  let current ← resolve mandates leafRef
  let granteeKey ← keyAt current "grantee"
  require (granteeKey = params.subjectKey) (err "mandate-grantee-key-mismatch"
    s!"mandate is held by {granteeKey.text}, envelope signed by {params.subjectKey.text}")
  walkFrom ext mandates revoked request params 0 leafRef current

def verifyMandateChain (mandates : Members) (leafRef : String) (request : MandateRequest)
    (params : VerifyParams) : Result MandateChainOk :=
  walk ext mandates leafRef (.full request) params

def verifyMandateChainUnscoped (mandates : Members) (leafRef : String) (params : VerifyParams) :
    Result MandateChainOk :=
  walk ext mandates leafRef .not params

def verifyMandateChainForResource (mandates : Members) (leafRef resource : String)
    (params : VerifyParams) : Result MandateChainOk :=
  walk ext mandates leafRef (.byResource resource) params

end Stozher.Mandate
