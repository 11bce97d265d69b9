import Stozher.Crypto

namespace Stozher.Signed

open Library Jcs

variable (ext : External)

def signingInput (object : Value) : Result Canonical := do
  let members ← okOr object.asObject
    (err "schema-type-mismatch" "a signed object must be a JSON object")
  canonicalize (.object (members.filter fun member => member.1 != "sig"))

def objectId (object : Value) : Result String :=
  objectHash ext object

def checkAlg (alg : Option String) : Result Unit :=
  match alg with
  | some "ed25519" => .ok ()
  | some other => .error (err "crypto-unsupported-alg" s!"sig.alg {debug other}")
  | none => .error (err "schema-missing-member" "sig.alg")

def declaredSigner (object : Value) : Result KeyId := do
  let sig ← okOr (object.get "sig") (err "schema-missing-member" "sig")
  let sig ← okOr sig.asObject (err "schema-type-mismatch" "sig must be an object")
  checkAlg ((sig.get "alg").bind Value.asStr)
  let key ← okOr ((sig.get "key").bind Value.asStr) (err "schema-missing-member" "sig.key")
  KeyId.parse key

def verifySignedObject (object : Value) : Result KeyId := do
  let key ← declaredSigner object
  let value ← okOr ((object.get "sig").bind (·.getStr "value"))
    (err "sig-invalid" "sig.value is missing")
  let signature ← (Crypto.decodeHex 64 value).mapError fun e =>
    err "sig-invalid" s!"sig.value: {e.detail}"
  let message ← signingInput object
  require (ext.verifyStrict key (.canonical message) signature)
    (err "sig-invalid" s!"signature does not verify for {key.text}")
  return key

/-- A secret key, as the program uses it: its identifier, and the hex of what it signs. -/
structure SigningKey where
  id : KeyId
  sign : Octets → String

def signObject (key : SigningKey) (object : Value) : Result Value := do
  let members ← okOr object.asObject
    (err "schema-type-mismatch" "a signed object must be a JSON object")
  let members := members.filter fun member => member.1 != "sig"
  let message ← canonicalize (.object members)
  let sig : Value := .object [("alg", .string "ed25519"), ("key", .string key.id.text),
    ("value", .string (key.sign (.canonical message)))]
  return .object (Members.insert members "sig" sig)

end Stozher.Signed
