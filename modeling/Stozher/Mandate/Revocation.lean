import Stozher.Mandate.Scope
import Mathlib.Logic.Function.Basic

namespace Stozher.Mandate

open Library

variable (ext : External)

def keyAt (mandate : Value) (party : String) : Result KeyId := do
  let raw ← okOr ((mandate.get party).bind (·.getStr "key"))
    (err "schema-missing-member" s!"{party}.key")
  KeyId.parse raw

def resolve (mandates : Members) (id : String) : Result Value :=
  okOr (mandates.get id) (err "mandate-unresolved" s!"no mandate with id {id}")

/-- Follows parents from the cursor for the given number of steps, looking for a mandate the signer
granted. -/
def grantedAbove (mandates : Members) (signer : KeyId) : Nat → String → Bool
  | 0, _ => false
  | steps + 1, cursor =>
      match mandates.get cursor with
      | none => false
      | some mandate =>
          if isOk (keyAt mandate "grantor") && (keyAt mandate "grantor").toOption == some signer then true
          else
            match mandate.getStr "parent" with
            | some parent => grantedAbove mandates signer steps parent
            | none => false

def revokerIsAuthorized (mandates : Members) (target : String) (signer : KeyId)
    (roots : List KeyId) : Bool :=
  roots.contains signer || grantedAbove mandates signer (mandates.length + 1) target

/-- A revocation that precedes the issue of the mandate it names. -/
def backdated (mandates : Members) (target revokedAt : String) : Bool :=
  match (mandates.get target).bind (·.getStr "issued-at") with
  | some issuedAt => decide (revokedAt < issuedAt)
  | none => false

def verifyRevocation (mandates : Members) (revocation : Value) (roots : List KeyId) :
    Result Unit := do
  let signer ← Signed.verifySignedObject ext revocation
  let target ← okOr (revocation.getStr "revokes") (err "schema-missing-member" "revokes")
  let revokedAt ← okOr (revocation.getStr "revoked-at") (err "schema-missing-member" "revoked-at")
  require (revokerIsAuthorized mandates target signer roots)
    (err "revocation-not-authorized" s!"{signer.text} may not revoke {target}")
  require (backdated mandates target revokedAt = false)
    (err "revocation-before-issue" s!"revoked-at {revokedAt} precedes issued-at")

/-- When each mandate was first revoked. -/
abbrev RevocationIndex := String → Option String

/-- The target and the instant of a revocation that counts. -/
def countedRevocation (mandates : Members) (roots : List KeyId) (revocation : Value) :
    Option (String × String) := do
  let signer ← (Signed.verifySignedObject ext revocation).toOption
  let target ← revocation.getStr "revokes"
  let revokedAt ← revocation.getStr "revoked-at"
  if revokerIsAuthorized mandates target signer roots && !backdated mandates target revokedAt then
    some (target, revokedAt)
  else none

def recordRevocation (index : RevocationIndex) (entry : String × String) : RevocationIndex :=
  let (target, revokedAt) := entry
  Function.update index target
    (match index target with
    | some existing => some (if revokedAt < existing then revokedAt else existing)
    | none => some revokedAt)

/-- Lowers one mandate's entry to its parent's. -/
def inheritRevocation (index : RevocationIndex) (entry : String × Value) : RevocationIndex :=
  let (id, mandate) := entry
  match (mandate.getStr "parent").bind index with
  | none => index
  | some parentRevoked =>
      match index id with
      | some existing =>
          if parentRevoked < existing then Function.update index id (some parentRevoked) else index
      | none => Function.update index id (some parentRevoked)

def changedBy (index : RevocationIndex) (entry : String × Value) : Bool :=
  let (id, mandate) := entry
  match (mandate.getStr "parent").bind index with
  | none => false
  | some parentRevoked =>
      match index id with
      | some existing => decide (parentRevoked < existing)
      | none => true

/-- One pass over the table, with whether it changed anything. -/
def propagateOnce : Members → RevocationIndex → RevocationIndex × Bool
  | [], index => (index, false)
  | entry :: rest, index =>
      let (next, changed) := propagateOnce rest (inheritRevocation index entry)
      (next, changedBy index entry || changed)

def propagateRevocations (mandates : Members) : Nat → RevocationIndex → RevocationIndex
  | 0, index => index
  | passes + 1, index =>
      let (next, changed) := propagateOnce mandates index
      if changed then propagateRevocations mandates passes next else next

def revocationIndex (mandates : Members) (revocations : List Value) (roots : List KeyId) :
    RevocationIndex :=
  let index := (revocations.filterMap (countedRevocation ext mandates roots)).foldl
    recordRevocation fun _ => none
  propagateRevocations mandates mandates.length index

end Stozher.Mandate
