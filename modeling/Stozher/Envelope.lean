import Stozher.Signed

namespace Stozher.Envelope

open Library Library.Text

variable (ext : External)

def classes : List String := ["read", "benign", "consequential", "prohibited"]

def outcomes : List String := ["applied", "failed", "denied", "blocked", "attempted"]

def version : String := "stozher/0.1"

def maxSafeInteger : Int := 9007199254740991

def correlationRefMax : Nat := 512

def aggregateMaxActions : Nat := 1024

def common : List String :=
  ["v", "kind", "emitted-at", "stream", "seq", "prev-hash", "identity", "sig"]

def commonOptional : List String := ["memory-ref", "correlation-ref"]

structure KindSpec where
  required : List String
  optional : List String
  forbidden : List String
  forbiddenCode : String

def kindSpec : String → Option KindSpec
  | "effect" => some {
      required := ["mandate-ref", "policy-version", "classification", "execution"]
      optional := ["evidence", "authorization", "trigger", "commitment-ref"]
      forbidden := []
      forbiddenCode := "" }
  | "policy-change" => some {
      required := ["mandate-ref", "policy-version", "classification", "execution", "authorization"]
      optional := ["evidence"]
      forbidden := []
      forbiddenCode := "" }
  | "aggregate" => some {
      required := ["mandate-ref", "policy-version", "classification", "window", "counts",
        "sample-hashes"]
      optional := []
      forbidden := ["execution", "evidence", "authorization"]
      forbiddenCode := "schema-unknown-member" }
  | "cognition" => some {
      required := ["mandate-ref", "resource", "cost"]
      optional := []
      forbidden := ["execution", "evidence", "classification", "authorization", "commitment-ref"]
      forbiddenCode := "cognition-envelope-has-effect-fields" }
  | "signal" => some {
      required := ["signal"]
      optional := []
      forbidden := ["mandate-ref", "classification", "execution", "evidence", "authorization",
        "commitment-ref"]
      forbiddenCode := "signal-envelope-has-effect-fields" }
  | "mandate" => some {
      required := ["mandate"]
      optional := []
      forbidden := []
      forbiddenCode := "" }
  | "revocation" => some {
      required := ["revocation", "revokes", "revoked-at"]
      optional := ["reason"]
      forbidden := []
      forbiddenCode := "" }
  | "gate-decision" => some {
      required := ["decision-of"]
      optional := ["decision"]
      forbidden := []
      forbiddenCode := "" }
  | "checkpoint" => some {
      required := ["checkpoint"]
      optional := []
      forbidden := []
      forbiddenCode := "" }
  | _ => none

/-- The required and optional members of each closed sub-object. -/
def subObjectSpec : String → Option (List String × List String)
  | "identity" => some (["subject", "key", "component"], [])
  | "execution" =>
      some (["action", "target", "args-hash", "outcome", "started-at", "finished-at"], [])
  | "evidence" => some (["schema", "media-type", "payload-hash", "retain-until"], [])
  | "authorization" => some (["request", "decision"], [])
  | "revocation" => some (["revokes", "revoked-at", "sig"], ["v", "kind", "reason"])
  | "sig" => some (["alg", "key", "value"], [])
  | "resource" => some (["kind", "name"], [])
  | "window" => some (["from", "to"], [])
  | "counts" => some (["total", "by-action"], [])
  | "trigger" => some (["signal-ref", "standing-mandate-ref"], ["rule"])
  | "commitment-ref" => some (["object-type", "object-id", "transition"], [])
  | "signal" =>
      some (["source", "received-at", "media-type", "payload-hash", "sender-verified"],
        ["source-ref", "retain-until", "sender-verification"])
  | _ => none

def costDimensions : List String :=
  ["tokens", "tokens-in", "tokens-out", "requests", "wall-clock-ms", "wall-clock-seconds"]

def isLeapYear (year : Nat) : Bool :=
  year % 4 == 0 && (year % 100 != 0 || year % 400 == 0)

def daysInMonth (year month : Nat) : Nat :=
  match month with
  | 1 | 3 | 5 | 7 | 8 | 10 | 12 => 31
  | 4 | 6 | 9 | 11 => 30
  | 2 => if isLeapYear year then 29 else 28
  | _ => 0

def isTimestamp (s : String) : Bool :=
  let b := octets s
  let field := fun start stop : Nat => (b.take stop).drop start
  let digits := fun start stop : Nat => (field start stop).all isAsciiDigit
  let at_ := fun (position : Nat) (expected : UInt8) => b[position]? == some expected
  let num := fun start stop : Nat => decimalValue (field start stop)
  let year := num 0 4
  let month := num 5 7
  let day := num 8 10
  b.length == 24
    && digits 0 4 && digits 5 7 && digits 8 10 && digits 11 13 && digits 14 16 && digits 17 19
    && digits 20 23
    && at_ 4 0x2d && at_ 7 0x2d && at_ 10 0x54 && at_ 13 0x3a && at_ 16 0x3a && at_ 19 0x2e
    && at_ 23 0x5a
    && 1 ≤ year && 1 ≤ month && month ≤ 12 && 1 ≤ day && day ≤ daysInMonth year month
    && num 11 13 ≤ 23 && num 14 16 ≤ 59 && num 17 19 ≤ 59

def requireDigest (value : Value) (what : String) : Result Unit := do
  let s ← okOr value.asStr (err "schema-type-mismatch" s!"{what} must be a string")
  require (Crypto.isDigestHex s)
    (err "encoding-not-lowercase-hex" s!"{what} = {debug s} is not 64 lowercase hex digits")

def requireTimestamp (value : Value) (what : String) : Result Unit := do
  let s ← okOr value.asStr (err "schema-type-mismatch" s!"{what} must be a string")
  require (isTimestamp s) (err "encoding-bad-timestamp" s!"{what} = {debug s}")

/-- Runs a check on a value that may be absent. -/
def whenPresent (value : Option Value) (check : Value → Result Unit) : Result Unit :=
  match value with
  | some value => check value
  | none => .ok ()

def validateStreamId (stream : String) : Result Unit :=
  require (stream.utf8ByteSize ≠ 0 ∧ stream.utf8ByteSize ≤ 128 ∧
      (octets stream).all (fun b => isAsciiAlphanumeric b || b == 0x2e || b == 0x5f || b == 0x3a || b == 0x2d))
    (err "stream-id-malformed" s!"stream {debug stream}")

def validateCostMember (member : String × Value) : Result Unit :=
  let (key, value) := member
  match stripPrefix key "money-" with
  | some currency => do
      require (currency.utf8ByteSize = 3 ∧ (octets currency).all isAsciiLowercase)
        (err "schema-unknown-member" s!"cost.{key}")
      require value.isString (err "schema-type-mismatch" s!"cost.{key} must be a decimal string")
  | none => require (key ∈ costDimensions) (err "schema-unknown-member" s!"cost.{key}")

def validateCost (cost : Value) : Result Unit := do
  let members ← okOr cost.asObject (err "schema-type-mismatch" "cost must be an object")
  forEach validateCostMember members

mutual

def checkNumbers (value : Value) (path : String) : Result Unit :=
  match value with
  | .number n =>
      match n.asI64.or (n.asU64.map Int.ofNat) with
      | some i => require (i.natAbs ≤ maxSafeInteger)
          (err "encoding-integer-out-of-range" s!"{path} = {i} exceeds the safe integer range")
      | none => .error
          (err "encoding-non-integer-number" s!"{path} = {n.display ext} is not an integer")
  | .array items => checkItems items path 0
  | .object members => checkMembers members path
  | _ => .ok ()

def checkItems (items : List Value) (path : String) (i : Nat) : Result Unit :=
  match items with
  | [] => .ok ()
  | item :: rest => do
      checkNumbers item s!"{path}[{i}]"
      checkItems rest path (i + 1)

def checkMembers (members : List (String × Value)) (path : String) : Result Unit :=
  match members with
  | [] => .ok ()
  | (key, item) :: rest => do
      checkNumbers item (if path.isEmpty then key else s!"{path}.{key}")
      checkMembers rest path

end

/-- One count of `counts.by-action`, added to the running sum. -/
def addCount (sum : Int) (member : String × Value) : Result Int := do
  let (action, value) := member
  let count ← okOr value.asI64
    (err "schema-type-mismatch" "counts.by-action values must be integers")
  require (0 ≤ count) (err "aggregate-count-negative" s!"counts.by-action[{action}] is {count}")
  return sum + count

def validateAggregate (classification : Option Value) (counts samples : Value) : Result Unit := do
  require (classification.bind Value.asStr = some "read")
    (err "aggregate-class-not-read" "only class read may be aggregated")
  let total ← okOr (counts.index "total").asI64
    (err "schema-type-mismatch" "counts.total must be an integer")
  require (0 ≤ total) (err "aggregate-count-negative" s!"counts.total is {total}")
  let byAction ← okOr (counts.index "by-action").asObject
    (err "schema-type-mismatch" "counts.by-action must be an object")
  require (byAction.length ≤ aggregateMaxActions) (err "aggregate-cardinality"
    s!"{byAction.length} distinct actions exceeds {aggregateMaxActions}")
  let sum ← foldChecked addCount 0 byAction
  require (sum = total) (err "aggregate-count-mismatch" s!"total {total} != sum {sum}")
  let samples ← okOr samples.asArray
    (err "schema-type-mismatch" "sample-hashes must be an array")
  require (samples ≠ [] ∧ samples.length ≤ 16)
    (err "aggregate-sample-bounds" s!"{samples.length} samples, expected 1..=16")

/-- Which members the kind requires, admits and forbids. -/
def validateMembers (kind : String) (map : Members) (spec : KindSpec) : Result Unit := do
  forEach (fun forbidden => require (map.containsKey forbidden = false)
    (err spec.forbiddenCode s!"{kind} envelope carries {forbidden}")) spec.forbidden
  forEach (fun key => require
    (key ∈ common ∨ key ∈ spec.required ∨ key ∈ spec.optional ∨ key ∈ commonOptional)
    (err "schema-unknown-member" key)) map.keys
  forEach (fun required => require (map.containsKey required)
    (err "schema-missing-member" required)) (common ++ spec.required)

/-- The shape of one member: `cost`, or a closed sub-object. -/
def validateSubObject (member : String × Value) : Result Unit := do
  let (name, value) := member
  if name = "cost" then validateCost value
  else
    match subObjectSpec name with
    | none => .ok ()
    | some (required, optional) => do
        let sub ← okOr value.asObject (err "schema-type-mismatch" s!"{name} must be an object")
        forEach (fun key => require (key ∈ required ∨ key ∈ optional)
          (err "schema-unknown-member" s!"{name}.{key}")) sub.keys
        forEach (fun req => require (sub.containsKey req)
          (err "schema-missing-member" s!"{name}.{req}")) required

def validateDigests (map : Members) : Result Unit := do
  forEach (fun path =>
    whenPresent ((map.get path).filter fun v => !v.isNull) (requireDigest · path))
    ["mandate-ref", "prev-hash"]
  forEach (fun (parent, child) =>
    whenPresent ((map.get parent).bind (·.get child)) (requireDigest · child))
    [("execution", "args-hash"), ("evidence", "payload-hash"), ("signal", "payload-hash")]
  whenPresent (map.get "trigger") fun trigger =>
    forEach (fun child => whenPresent (trigger.get child) (requireDigest · child))
      ["signal-ref", "standing-mandate-ref"]
  whenPresent (map.get "sample-hashes") fun samples => do
    let list ← okOr samples.asArray
      (err "schema-type-mismatch" "sample-hashes must be an array")
    forEach (requireDigest · "sample-hashes[]") list

def validateTimestamps (map : Members) : Result Unit := do
  requireTimestamp ((map.get "emitted-at").getD .null) "emitted-at"
  forEach (fun (parent, child) =>
    whenPresent ((map.get parent).bind (·.get child)) (requireTimestamp · child))
    [("execution", "started-at"), ("execution", "finished-at"), ("evidence", "retain-until"),
      ("window", "from"), ("window", "to"), ("signal", "received-at"), ("signal", "retain-until")]

def validatePosition (map : Members) : Result Unit := do
  let stream ← okOr ((map.get "stream").bind Value.asStr)
    (err "schema-type-mismatch" "stream must be a string")
  validateStreamId stream
  let seq ← okOr ((map.get "seq").bind Value.asU64)
    (err "schema-type-mismatch" "seq must be a non-negative integer")
  let prevIsNull := ((map.get "prev-hash").getD .null).isNull
  require (seq = 0 → prevIsNull = true)
    (err "chain-genesis-prev-not-null" "seq 0 must have prev-hash null")
  require (0 < seq → prevIsNull = false)
    (err "chain-prev-hash-missing" s!"seq {seq} must carry a predecessor hash")

def validateIdentity (map : Members) : Result Unit := do
  let identityKey ← okOr (((map.get "identity").getD .null).getStr "key")
    (err "schema-missing-member" "identity.key")
  let _ ← KeyId.parse identityKey
  let sigKey ← okOr (((map.get "sig").getD .null).getStr "key")
    (err "schema-missing-member" "sig.key")
  require (identityKey = sigKey) (err "identity-key-sig-mismatch"
    s!"identity.key {identityKey} != sig.key {sigKey}")

def validateClassification (classification : Value) : Result Unit := do
  let class_ ← okOr classification.asStr
    (err "schema-type-mismatch" "classification must be a string")
  require (class_ ∈ classes)
    (err "envelope-classification-unknown" s!"classification {debug class_}")

def validateExecution (execution : Value) : Result Unit := do
  let outcome ← okOr (execution.getStr "outcome")
    (err "schema-type-mismatch" "execution.outcome must be a string")
  require (outcome ∈ outcomes) (err "envelope-outcome-unknown" s!"execution.outcome {debug outcome}")
  let started := (execution.getStr "started-at").getD ""
  let finished := (execution.getStr "finished-at").getD ""
  require (¬ finished < started) (err "execution-time-inverted" s!"{finished} precedes {started}")

/-- The arithmetic of an aggregate. -/
def validateCounts (kind : String) (map : Members) : Result Unit :=
  if kind = "aggregate" then
    validateAggregate (map.get "classification") ((map.get "counts").getD .null)
      ((map.get "sample-hashes").getD .null)
  else .ok ()

def validateCorrelation (correlation : Value) : Result Unit := do
  let s ← okOr correlation.asStr
    (err "schema-type-mismatch" "correlation-ref must be a string")
  require (s.utf8ByteSize ≤ correlationRefMax) (err "correlation-ref-too-long"
    s!"{s.utf8ByteSize} octets exceeds {correlationRefMax}")

def validate (envelope : Value) : Result Unit := do
  let map ← okOr envelope.asObject
    (err "schema-type-mismatch" "an envelope must be a JSON object")
  let v ← okOr (map.get "v") (err "schema-missing-member" "v")
  let v ← okOr v.asStr (err "schema-type-mismatch" "v must be a string")
  require (v = version) (err "envelope-version-unsupported" s!"v is {debug v}")
  let kind ← okOr (map.get "kind") (err "schema-missing-member" "kind")
  let kind ← okOr kind.asStr (err "schema-type-mismatch" "kind must be a string")
  let spec ← okOr (kindSpec kind) (err "envelope-unknown-kind" s!"kind {debug kind}")
  validateMembers kind map spec
  forEach validateSubObject map
  checkNumbers ext envelope ""
  validateDigests map
  validateTimestamps map
  validatePosition map
  validateIdentity map
  whenPresent (map.get "classification") validateClassification
  whenPresent (map.get "execution") validateExecution
  validateCounts kind map
  whenPresent (map.get "correlation-ref") validateCorrelation

end Stozher.Envelope
