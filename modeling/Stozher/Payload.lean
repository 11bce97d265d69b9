import Stozher.Envelope

namespace Stozher.Payload

open Library Library.Text

variable (ext : External)

def jsonMediaType : String := "application/json"

def allowedMediaTypes : List String := [
  jsonMediaType, "application/octet-stream", "application/pdf", "application/zip",
  "application/gzip", "text/plain", "text/csv", "text/markdown", "image/png", "image/jpeg",
  "image/gif", "image/webp"]

structure IngestOk where
  envelopeHash : String
  stored : Nat
  decayed : Bool
  deriving DecidableEq

def referencedHashes (envelope : Value) : List String :=
  ["evidence", "signal"].filterMap fun parent =>
    (envelope.get parent).bind (·.getStr "payload-hash")

def hexValue (b : UInt8) : Nat :=
  if isAsciiDigit b then b.toNat - 0x30
  else if isAsciiUppercase b then b.toNat - 0x37
  else b.toNat - 0x57

/-- The octets named by pairs of hex digits of either case. -/
def decodePairs : List UInt8 → Option (List UInt8)
  | [] => some []
  | [_] => none
  | high :: low :: rest =>
      if isAsciiHexDigit high && isAsciiHexDigit low then
        (decodePairs rest).map (UInt8.ofNat (hexValue high * 16 + hexValue low) :: ·)
      else none

def hexDecode (text : String) : Result (List UInt8) :=
  okOr (decodePairs (octets text))
    (err "encoding-not-lowercase-hex" "payloads[].payload: not an even run of hex digits")

/-- The hash a payload's body has under its declared media type. -/
def computedHash (mediaType : String) (body : Value) : Result String := do
  if mediaType = jsonMediaType then
    Jcs.objectHash ext body
  else
    let hexBody ← okOr body.asStr
      (err "schema-type-mismatch" "a non-JSON payload must be a lowercase hex string")
    let bytes ← hexDecode hexBody
    require ((octets hexBody).all (fun b => !isAsciiUppercase b))
      (err "encoding-not-lowercase-hex" "payloads[].payload is not lowercase")
    return ext.sha256Hex (.other bytes)

def verifyPayload (referenced : List String) (payload : Value) : Result Unit := do
  let declared ← okOr (payload.getStr "payload-hash")
    (err "schema-missing-member" "payloads[].payload-hash")
  let mediaType ← okOr (payload.getStr "media-type")
    (err "schema-missing-member" "payloads[].media-type")
  require (mediaType ∈ allowedMediaTypes) (err "payload-media-type-not-allowed"
    s!"media-type {debug mediaType} is not one an evidence payload may declare")
  let body ← okOr (payload.get "payload") (err "schema-missing-member" "payloads[].payload")
  let computed ← computedHash ext mediaType body
  require (computed = declared)
    (err "payload-hash-mismatch" s!"payload hashes to {computed}, declared {declared}")
  require (declared ∈ referenced)
    (err "payload-not-referenced" s!"payload {declared} is not referenced by the envelope")

def verifyIngest (envelope : Value) (payloads : List Value) : Result IngestOk := do
  Envelope.validate ext envelope
  let referenced := referencedHashes envelope
  forEach (verifyPayload ext referenced) payloads
  let supplied := payloads.filterMap (·.getStr "payload-hash")
  return {
    envelopeHash := ← Signed.objectId ext envelope
    stored := payloads.length
    decayed := referenced.any fun hash => !supplied.contains hash }

end Stozher.Payload
