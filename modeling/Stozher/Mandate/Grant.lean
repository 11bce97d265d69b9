import Stozher.Mandate.Walk

namespace Stozher.Mandate

open Library Library.Text

variable (ext : External)

structure GrantParams where
  roots : List KeyId
  maxStandingNotAfter : Option String

def checkNonce (nonce : String) : Result Unit := do
  require (nonce.utf8ByteSize = 32 ∧ (octets nonce).all isAsciiHexDigit)
    (err "encoding-not-lowercase-hex" "nonce must be 32 hex digits")
  require ((octets nonce).all (fun b => !isAsciiUppercase b))
    (err "encoding-not-lowercase-hex" "nonce is not lowercase")

def granteeSubject (mandate : Value) : Result String :=
  okOr ((mandate.get "grantee").bind (·.getStr "subject"))
    (err "schema-missing-member" "grantee.subject")

/-- What a grant of any kind is checked for, before its kind is looked at. -/
def checkGrantShape (mandate : Value) : Result (KeyId × KeyId × String × Nat) := do
  let grantorKey ← checkSigner ext mandate
  let granteeKey ← keyAt mandate "grantee"
  let strMember := fun name => okOr (mandate.getStr name) (err "schema-missing-member" name)
  let issuedAt ← strMember "issued-at"
  let notBefore ← strMember "not-before"
  let notAfter ← okOr (mandate.getStr "not-after") (err "mandate-missing-expiry" "not-after")
  require (notBefore < notAfter) (err "mandate-window-inverted"
    s!"not-after {notAfter} does not follow not-before {notBefore}")
  require (issuedAt ≤ notBefore) (err "mandate-window-inverted"
    s!"not-before {notBefore} precedes issued-at {issuedAt}")
  checkNonce (← strMember "nonce")
  let scope ← okOr (mandate.get "scope") (err "schema-missing-member" "scope")
  validateScope scope
  let ownMaxDepth ← maxDepthOf mandate
  return (grantorKey, granteeKey, notAfter, ownMaxDepth)

/-- A grant by a human root. -/
def verifyRootGrant (mandate : Value) (kind grantorRole notAfter : String)
    (grantorKey granteeKey : KeyId) (params : GrantParams) : Result Unit := do
  checkRootGrant mandate grantorKey grantorRole params.roots
  let subject ← granteeSubject mandate
  require (¬ (granteeKey ∈ params.roots ∧ startsWith subject "agent:" = true))
    (err "root-key-used-as-agent"
      s!"{granteeKey.text} is an enrolled human root and cannot be an agent grantee")
  match params.maxStandingNotAfter with
  | some ceiling =>
      require (kind = "standing" → notAfter ≤ ceiling) (err "mandate-standing-lifetime-exceeded"
        s!"not-after {notAfter} exceeds the policy ceiling {ceiling}")
  | none => pure ()

/-- A grant by an agent, within its own mandate. -/
def verifyDelegatedGrant (mandate : Value) (grantorRole : String) (grantorKey : KeyId)
    (ownMaxDepth : Nat) (parent : Option Value) : Result Unit := do
  require ((mandate.getStr "parent").getD "" ≠ "")
    (err "mandate-delegated-without-parent" "parent is null")
  require (grantorRole = "agent") (err "mandate-delegated-grantor-not-agent"
    s!"delegated mandate granted by role {debug grantorRole}")
  let parent ← okOr parent
    (err "mandate-unresolved" "the parent of a delegated grant must be resolvable")
  checkHeld grantorKey parent
  checkNarrowing mandate parent (.ok ownMaxDepth) "the parent permits no further delegation"

def verifyGrant (mandate : Value) (parent : Option Value) (params : GrantParams) : Result Unit := do
  let (grantorKey, granteeKey, notAfter, ownMaxDepth) ← checkGrantShape ext mandate
  let kind ← okOr (mandate.getStr "mandate-kind") (err "schema-missing-member" "mandate-kind")
  let grantorRole ← grantorRoleOf mandate
  if kind = "interactive" ∨ kind = "standing" then
    verifyRootGrant mandate kind grantorRole notAfter grantorKey granteeKey params
  else if kind = "delegated" then
    verifyDelegatedGrant mandate grantorRole grantorKey ownMaxDepth parent
  else throw (err "mandate-kind-unknown" s!"mandate-kind {debug kind}")

end Stozher.Mandate
