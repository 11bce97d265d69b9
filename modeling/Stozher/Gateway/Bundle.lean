import Stozher.Gateway.Durations
import Stozher.Gateway.PolicyProvider
import Stozher.Gateway.RevocationFeed

namespace Stozher.Gateway.Bundle

open Library

variable (ext : External) (decimal : Char → Option Nat) (repr : Option Value → String)

/-- The bundle format this build reads. -/
def bundleVersion : Nat := 1

/-- Every member of the signed body. -/
def members : List String :=
  ["exported-at", "max-age", "policy", "revocations", "anchor"]

/-- Whether a value equals a positive number, as Python compares them. -/
def equalsNumber (number : Nat) : Value → Bool
  | .bool b => b && number == 1
  | .number (.posInt n _) => n == number
  | .number (.negInt _ _) => false
  | .number (.float bits) => !bits.isNegative && bits.wholeMagnitude == some number
  | _ => false

/-- `str` of a member that may be missing. -/
def strOf (value : Option Value) : String :=
  (value.map (KernelResponse.str ext)).getD "None"

/-- The tables of the gateway's store that a bundle is written to. -/
structure Tables where
  policies : PolicyCache
  revocations : RevocationCache
  marks : List (String × String)

/-- A one-time step is recorded once. -/
def mark (marks : List (String × String)) (key at_ : String) : List (String × String) :=
  if marks.any fun held => held.1 == key then marks else marks ++ [(key, at_)]

/-- `exported-at` and `max-age` later, refusing either half. -/
def expiry (exportedAt maxAge : String) : Result String := do
  let seconds ← (Durations.parseDuration decimal maxAge).mapError fun e =>
    err "bundle-bad-max-age" s!"{maxAge}: {e.detail}"
  require (0 < seconds) (err "bundle-bad-max-age" s!"{maxAge} is not a positive duration")
  let _ ← (Clock.parseTimestamp exportedAt).mapError fun e =>
    err "bundle-bad-exported-at" s!"{exportedAt}: {e.detail}"
  (Clock.shift exportedAt seconds).mapError fun _ => err "OverflowError" "date value out of range"

def checkRevocation (path : String) (item : Value) : Result Unit := do
  require (item.isObject ∧ isOk (Signed.verifySignedObject ext item))
    (err "bundle-revocation-sig-invalid" s!"{path} carries a revocation that does not verify")
  require ((item.getStr "revokes").isSome ∧ (item.getStr "revoked-at").isSome)
    (err "bundle-revocation-schema" s!"{path} carries a revocation missing revokes/revoked-at")

/-- Every revocation in the bundle, or a refusal. -/
def revocations (path : String) (listed : Value) : Result (List Value) := do
  let listed ← okOr listed.asArray (err "bundle-schema-type-mismatch" "revocations must be a list")
  forEach (checkRevocation ext path) listed
  return listed

def checkHeader (document : Value) : Result Unit := do
  require document.isObject (err "bundle-schema-type-mismatch" "a policy bundle must be an object")
  require (document.getStr "v" = some "stozher/0.1")
    (err "envelope-version-unsupported" (strOf ext (document.get "v")))
  require (document.getStr "kind" = some "policy-bundle")
    (err "bundle-schema-type-mismatch" ("kind is " ++ repr (document.get "kind")))
  require ((document.get "bundle-version").any (equalsNumber bundleVersion))
    (err "bundle-version-unsupported" (strOf ext (document.get "bundle-version")))

def checkSigner (path : String) (roots : List String) (document : Value) : Result Unit := do
  let signer ← okOr (Signed.verifySignedObject ext document).toOption
    (err "bundle-sig-invalid" s!"{path}: the bundle signature does not verify")
  require (signer.text ∈ roots) (err "bundle-signer-not-a-root" <|
    signer.text ++ " is not an enrolled root; a bundle is only as good as the key that vouches for it, and this " ++
      "deployment has not enrolled that one")

def checkAge (path : String) (document : Value) (now : String) : Result Unit := do
  let exportedAt := strOf ext (document.get "exported-at")
  let maxAge := strOf ext (document.get "max-age")
  let expiresAt ← expiry decimal exportedAt maxAge
  require (now ≤ expiresAt) (err "bundle-expired" <|
    s!"{path} was exported {exportedAt} with max-age {maxAge} and expired {expiresAt}; it is now {now}. " ++
      "Export a fresh bundle — a component does not run on a policy nobody can vouch for any more")

/-- What is left once every check has passed. -/
structure Checked where
  policy : Policy
  revocations : List Value
  exportedAt : String

def check (path : String) (roots : List String) (policyKey : Option String) (document : Value) (now : String) :
    Result Checked := do
  checkHeader ext repr document
  checkSigner ext path roots document
  forEach (fun member => require (document.get member).isSome (err "bundle-missing-member" member)) members
  checkAge ext decimal path document now
  let policy ← (Policy.verified ext (document.index "policy") policyKey).mapError fun e =>
    err e.code s!"the policy inside {path} is not enforceable: {e.detail}"
  let revocations ← revocations ext path (document.index "revocations")
  return { policy, revocations, exportedAt := strOf ext (document.get "exported-at") }

/-- `load_policy_bundle`: nothing is written until every check has passed. -/
def loadPolicyBundle (path : String) (roots : List String) (policyKey : Option String) (tables : Tables)
    (file : Except String Value) (now : String) : Tables × Result String :=
  match file with
  | .error e => (tables, .error (err "bundle-unreadable" s!"{path}: {e}"))
  | .ok document =>
      match check ext decimal repr path roots policyKey document now with
      | .error e => (tables, .error e)
      | .ok { policy, revocations, exportedAt } =>
          let seeded := {
            tables with
            policies := Marked.put tables.policies policy.version (policy.document, exportedAt)
            revocations := Marked.put tables.revocations "" (revocations, exportedAt) }
          match Signed.objectId ext document with
          | .error e => (seeded, .error e)
          | .ok id => ({ seeded with marks := mark seeded.marks s!"policy-bundle:{id}" now }, .ok policy.version)

/-- What holds of a document that passes every check. -/
structure Passes (roots : List String) (policyKey : Option String) (document : Value) (now : String)
    (checked : Checked) : Prop where
  version : document.getStr "v" = some "stozher/0.1"
  kind : document.getStr "kind" = some "policy-bundle"
  bundleVersion : (document.get "bundle-version").any (equalsNumber bundleVersion) = true
  signer : ∃ signer, Signed.verifySignedObject ext document = .ok signer ∧ signer.text ∈ roots
  complete : ∀ member ∈ members, (document.get member).isSome = true
  exportedAt : checked.exportedAt = strOf ext (document.get "exported-at")
  unexpired : ∃ expiresAt, expiry decimal checked.exportedAt (strOf ext (document.get "max-age")) = .ok expiresAt ∧
    now ≤ expiresAt
  policy : Policy.verified ext (document.index "policy") policyKey = .ok checked.policy
  revocations : document.index "revocations" = .array checked.revocations ∧
    ∀ revocation ∈ checked.revocations, RevocationFeed.isVerifiable ext revocation = true

variable {ext} {decimal} {repr} {path now : String} {roots : List String} {policyKey : Option String}
  {document : Value} {checked : Checked}

theorem checkRevocation_eq_ok {item : Value} {u : Unit} :
    checkRevocation ext path item = .ok u ↔ RevocationFeed.isVerifiable ext item = true := by
  unfold checkRevocation RevocationFeed.isVerifiable
  simp only [bind_eq_ok, require_eq_ok, Bool.and_eq_true]
  constructor
  · intro done
    obtain ⟨_, ⟨isObject, verified⟩, target, instant⟩ := done
    exact ⟨⟨⟨isObject, verified⟩, target⟩, instant⟩
  · intro verifiable
    obtain ⟨⟨⟨isObject, verified⟩, target⟩, instant⟩ := verifiable
    exact ⟨(), ⟨isObject, verified⟩, target, instant⟩

theorem revocations_eq_ok {listed : Value} {items : List Value} : revocations ext path listed = .ok items ↔
    listed = .array items ∧ ∀ revocation ∈ items, RevocationFeed.isVerifiable ext revocation = true := by
  unfold revocations
  simp only [bind_eq_ok, okOr_eq_ok, pure_eq_ok, forEach_eq_ok, checkRevocation_eq_ok]
  constructor
  · intro done
    obtain ⟨_, isArray, _, each, rfl⟩ := done
    refine ⟨?_, each⟩
    cases listed with
    | array items => rw [Option.some.inj isArray]
    | _ => cases isArray
  · intro done
    obtain ⟨rfl, each⟩ := done
    exact ⟨items, rfl, (), each, rfl⟩

/-- A document is let through exactly where every check passes. -/
theorem check_eq_ok : check ext decimal repr path roots policyKey document now = .ok checked ↔
    Passes ext decimal roots policyKey document now checked := by
  unfold check checkHeader checkSigner checkAge
  simp only [bind_eq_ok, require_eq_ok, okOr_eq_ok, forEach_eq_ok, mapError_eq_ok, pure_eq_ok, revocations_eq_ok]
  constructor
  · intro done
    obtain ⟨_, ⟨_, _, _, version, _, kind, known⟩, _, ⟨signer, verified, enrolled⟩, _, complete, _,
      ⟨expiresAt, aged, unexpired⟩, policy, vouched, items, set, rfl⟩ := done
    exact ⟨version, kind, known, ⟨signer, toOption_eq_some.mp verified, enrolled⟩, complete, rfl,
      ⟨expiresAt, aged, unexpired⟩, vouched, set⟩
  · intro passes
    obtain ⟨policy, items, at_⟩ := checked
    obtain ⟨version, kind, known, ⟨signer, verified, enrolled⟩, complete, rfl, ⟨expiresAt, aged, unexpired⟩, vouched,
      set⟩ := passes
    have isObject : document.isObject = true := by
      cases document with
      | object members => rfl
      | _ => cases version
    exact ⟨(), ⟨(), isObject, (), version, (), kind, known⟩, (),
      ⟨signer, toOption_eq_some.mpr verified, enrolled⟩, (), complete, (), ⟨expiresAt, aged, unexpired⟩, _, vouched,
      _, set, rfl⟩

theorem loadPolicyBundle_of_passes {tables : Tables} {id : String}
    (passes : Passes ext decimal roots policyKey document now checked)
    (hashed : Signed.objectId ext document = .ok id) :
    loadPolicyBundle ext decimal repr path roots policyKey tables (.ok document) now = ({
        policies := Marked.put tables.policies checked.policy.version (checked.policy.document, checked.exportedAt)
        revocations := Marked.put tables.revocations "" (checked.revocations, checked.exportedAt)
        marks := mark tables.marks s!"policy-bundle:{id}" now }, .ok checked.policy.version) := by
  have done : check ext decimal repr path roots policyKey document now = .ok checked := check_eq_ok.mpr passes
  unfold loadPolicyBundle
  simp only [done, hashed]

theorem loadPolicyBundle_accepted {tables seeded : Tables} {version : String}
    (loaded : loadPolicyBundle ext decimal repr path roots policyKey tables (.ok document) now = (seeded, .ok version)) :
    ∃ checked, Passes ext decimal roots policyKey document now checked := by
  unfold loadPolicyBundle at loaded
  cases done : check ext decimal repr path roots policyKey document now with
  | error e =>
      simp only [done] at loaded
      cases loaded
  | ok checked => exact ⟨checked, check_eq_ok.mp done⟩

end Stozher.Gateway.Bundle
