import Stozher.Display
import Stozher.Envelope

namespace Stozher.Gateway.Structure

open Library

variable (ext : External)

def classes : List String := ["read", "benign", "consequential", "prohibited"]

def outcomes : List String := ["applied", "failed", "denied", "blocked", "attempted"]

def maxSafeInteger : Nat := 2 ^ 53 - 1

def aggregateMaxActions : Nat := 1024

section Patterns

def isDigit (c : Char) : Bool :=
  '0' ≤ c && c ≤ '9'

def isLowerHex (c : Char) : Bool :=
  isDigit c || ('a' ≤ c && c ≤ 'f')

def isLetter (c : Char) : Bool :=
  ('A' ≤ c && c ≤ 'Z') || ('a' ≤ c && c ≤ 'z')

def isStreamChar (c : Char) : Bool :=
  isLetter c || isDigit c || c == '.' || c == '_' || c == ':' || c == '-'

/-- Whether a text is one character of each class, in order. -/
def spells (form : List (Char → Bool)) (text : List Char) : Bool :=
  match form, text with
  | [], [] => true
  | class_ :: form, c :: text => class_ c && spells form text
  | _, _ => false

/-- `[0-9]{4}-[0-9]{2}-[0-9]{2}T[0-9]{2}:[0-9]{2}:[0-9]{2}\.[0-9]{3}Z` -/
def timestampForm : List (Char → Bool) :=
  [isDigit, isDigit, isDigit, isDigit, (· == '-'), isDigit, isDigit, (· == '-'), isDigit, isDigit, (· == 'T'),
    isDigit, isDigit, (· == ':'), isDigit, isDigit, (· == ':'), isDigit, isDigit, (· == '.'),
    isDigit, isDigit, isDigit, (· == 'Z')]

/-- `[0-9a-f]{64}` -/
def isHex64 (text : List Char) : Bool :=
  text.length == 64 && text.all isLowerHex

/-- `ed25519:[0-9a-f]{64}` -/
def isKeyId (s : String) : Bool :=
  "ed25519:".toList.isPrefixOf s.toList && isHex64 (s.toList.drop 8)

/-- `[A-Za-z0-9._:-]{1,128}` -/
def isStream (s : String) : Bool :=
  1 ≤ s.toList.length && s.toList.length ≤ 128 && s.toList.all isStreamChar

/-- `money-[a-z]{3}` -/
def isMoney (s : String) : Bool :=
  "money-".toList.isPrefixOf s.toList && s.toList.length == 9 &&
    (s.toList.drop 6).all fun c => 'a' ≤ c && c ≤ 'z'

/-- The number a run of digits writes. -/
def number (digits : List Char) : Nat :=
  digits.foldl (fun value c => value * 10 + (c.toNat - 48)) 0

/-- Whether the fields of a timestamp make a date and a time. -/
def strptime (text : List Char) : Bool :=
  let field := fun start stop : Nat => number ((text.take stop).drop start)
  let year := field 0 4
  let month := field 5 7
  let day := field 8 10
  1 ≤ year && 1 ≤ month && month ≤ 12 && 1 ≤ day && day ≤ Envelope.daysInMonth year month &&
    field 11 13 ≤ 23 && field 14 16 ≤ 59 && field 17 19 ≤ 59

/-- Whether a value is a timestamp in the fixed form that denotes an instant. -/
def isTimestamp (value : Value) : Bool :=
  match value with
  | .string s => spells timestampForm s.toList && s.utf8ByteSize == 24 && strptime s.toList
  | _ => false

end Patterns

def common : List String := ["v", "kind", "emitted-at", "stream", "seq", "prev-hash", "identity", "sig"]

def commonOptional : List String := ["memory-ref", "correlation-ref"]

/-- The members each kind requires and admits besides the common ones. -/
def kinds : String → Option (List String × List String)
  | "effect" => some (["mandate-ref", "policy-version", "classification", "execution"],
      ["evidence", "authorization", "trigger", "commitment-ref"])
  | "cognition" => some (["mandate-ref", "resource", "cost"], [])
  | "aggregate" => some
      (["mandate-ref", "policy-version", "classification", "window", "counts", "sample-hashes"], [])
  | "mandate" => some (["mandate"], [])
  | "revocation" => some (["revocation", "revokes", "revoked-at"], ["reason"])
  | "policy-change" => some
      (["mandate-ref", "policy-version", "classification", "execution", "authorization"], ["evidence"])
  | "gate-decision" => some (["decision-of"], ["decision"])
  | "signal" => some (["signal"], [])
  | "checkpoint" => some (["checkpoint"], [])
  | _ => none

def cognitionForbidden : List String :=
  ["execution", "evidence", "classification", "authorization", "commitment-ref"]

def signalForbidden : List String :=
  ["mandate-ref", "classification", "execution", "evidence", "authorization", "commitment-ref"]

/-- The members of the nested objects. -/
def nestedSpec : String → Option (List String × List String)
  | "identity" => some (["subject", "key", "component"], [])
  | "execution" => some (["action", "target", "args-hash", "outcome", "started-at", "finished-at"], [])
  | "evidence" => some (["schema", "media-type", "payload-hash", "retain-until"], [])
  | "trigger" => some (["signal-ref", "standing-mandate-ref"], ["rule"])
  | "revocation" => some (["revokes", "revoked-at", "sig"], ["v", "kind", "reason"])
  | "signal" => some (["source", "received-at", "media-type", "payload-hash", "sender-verified"],
      ["source-ref", "retain-until", "sender-verification"])
  | "commitment-ref" => some (["object-type", "object-id", "transition"], [])
  | "authorization" => some (["request", "decision"], [])
  | "sig" => some (["alg", "key", "value"], [])
  | "resource" => some (["kind", "name"], [])
  | "window" => some (["from", "to"], [])
  | "counts" => some (["total", "by-action"], [])
  | _ => none

def costMembers : List String :=
  ["tokens", "tokens-in", "tokens-out", "requests", "wall-clock-ms", "wall-clock-seconds"]

section Equality

/-- What a number or a truth value counts as: a whole number, or a binary64 that is none. -/
def quantity : Value → Option (Int ⊕ Binary64)
  | .bool b => some (.inl b.toNat)
  | .number (.posInt n _) => some (.inl n)
  | .number (.negInt i _) => some (.inl i)
  | .number (.float bits) => some (match bits.wholeMagnitude with
      | some n => .inl (if bits.isNegative then -n else n)
      | none => .inr bits)
  | _ => none

mutual

/-- `==` as Python has it. -/
def equal (first second : Value) : Bool :=
  match first with
  | .null => second.isNull
  | .string s => second.asStr == some s
  | .array items =>
      match second.asArray with
      | some others => equalItems items others
      | none => false
  | .object members =>
      match second.asObject with
      | some others => members.length == others.length && equalMembers members others
      | none => false
  | .bool b => quantity second == some (.inl b.toNat)
  | .number n => (quantity second).isSome && quantity second == quantity (.number n)

def equalItems (items others : List Value) : Bool :=
  match items with
  | [] => others.isEmpty
  | item :: rest =>
      match others with
      | other :: others => equal item other && equalItems rest others
      | [] => false

def equalMembers (members others : List (String × Value)) : Bool :=
  match members with
  | [] => true
  | (name, item) :: rest =>
      (match Members.get others name with
        | some other => equal item other
        | none => false) && equalMembers rest others

end

def equalOptions (first second : Option Value) : Bool :=
  equal (first.getD .null) (second.getD .null)

end Equality

def forbid (map : Members) (members : List String) (code : String) : Result Unit :=
  forEach (fun name => require (map.containsKey name = false) (err code name)) members

def strings (map : Members) (names : List String) : Result Unit :=
  forEach (fun name => require (((map.get name).bind Value.asStr).isSome)
    (err "schema-type-mismatch" s!"{name} must be a string")) names

/-- What a value is as an `int`. -/
def asInt : Value → Option Int
  | .number (.posInt n _) => some n
  | .number (.negInt i _) => some i
  | _ => none

def integer (value : Value) (name : String) : Result Int := do
  let i ← okOr (asInt value) (err "encoding-non-integer-number" s!"{name} must be an integer")
  require (i.natAbs ≤ maxSafeInteger) (err "encoding-integer-out-of-range" s!"{name} = {i}")
  return i

def hash (value : Value) (name : String) : Result Unit :=
  require (value.asStr.any fun s => isHex64 s.toList)
    (err "encoding-not-lowercase-hex" s!"{name} must be 64 lowercase hex")

def timestamp (value : Value) (name : String) : Result Unit :=
  require (isTimestamp value) (err "encoding-bad-timestamp" s!"{name} = {value.display ext}")

def nested (member : String × Value) : Result Unit := do
  let (name, value) := member
  match nestedSpec name with
  | none => .ok ()
  | some (required, optional) => do
      let map ← okOr value.asObject (err "schema-type-mismatch" s!"{name} must be an object")
      forEach (fun member => require (member ∈ required ∨ member ∈ optional)
        (err "schema-unknown-member" s!"{name}.{member}")) map.keys
      forEach (fun member => require (map.containsKey member)
        (err "schema-missing-member" s!"{name}.{member}")) required

def execution (value : Value) : Result Unit := do
  strings (value.asObject.getD []) ["action", "target", "outcome", "started-at", "finished-at"]
  hash (value.index "args-hash") "execution.args-hash"
  require ((value.getStr "outcome").any (· ∈ outcomes))
    (err "envelope-outcome-unknown" ((value.index "outcome").display ext))
  timestamp ext (value.index "started-at") "execution.started-at"
  timestamp ext (value.index "finished-at") "execution.finished-at"
  let started := (value.getStr "started-at").getD ""
  let finished := (value.getStr "finished-at").getD ""
  require (¬ finished < started) (err "execution-time-inverted" s!"{finished} precedes {started}")

def trigger (value : Value) : Result Unit := do
  hash (value.index "signal-ref") "trigger.signal-ref"
  hash (value.index "standing-mandate-ref") "trigger.standing-mandate-ref"
  Envelope.whenPresent (value.get "rule") fun rule =>
    require rule.isString (err "schema-type-mismatch" "trigger.rule must be a string")

/-- The projected members agree with the signed object. -/
def revocation (map : Members) : Result Unit := do
  let object := (map.get "revocation").getD .null
  hash (object.index "revokes") "revocation.revokes"
  timestamp ext (object.index "revoked-at") "revocation.revoked-at"
  forEach (fun name => require (equalOptions (map.get name) (object.get name))
    (err "revocation-object-mismatch"
      s!"the envelope's {name} does not match the signed revocation object"))
    ["revokes", "revoked-at", "reason"]

def signal (value : Value) : Result Unit := do
  hash (value.index "payload-hash") "signal.payload-hash"
  timestamp ext (value.index "received-at") "signal.received-at"
  Envelope.whenPresent (value.get "retain-until") fun until_ => timestamp ext until_ "signal.retain-until"

def evidence (value : Value) : Result Unit := do
  strings (value.asObject.getD []) ["schema", "media-type", "retain-until"]
  hash (value.index "payload-hash") "evidence.payload-hash"
  timestamp ext (value.index "retain-until") "evidence.retain-until"

/-- One count of `counts.by-action`, added to what the others came to. -/
def fold (folded : Int) (member : String × Value) : Result Int := do
  let (action, count) := member
  let value ← integer count s!"counts.by-action.{action}"
  require (0 ≤ value) (err "aggregate-count-negative" s!"counts.by-action.{action} is {value}")
  return folded + value

def sampleBounds (samples : Value) : Result (List Value) :=
  match samples with
  | .array items => do
      require (1 ≤ items.length ∧ items.length ≤ 16)
        (err "aggregate-sample-bounds" s!"{items.length} samples")
      return items
  | .string s => .error (err "aggregate-sample-bounds" s!"{s.length} samples")
  | .object members => .error (err "aggregate-sample-bounds" s!"{members.length} samples")
  | _ => .error (err "TypeError" "the value has no len()")

def aggregate (map : Members) : Result Unit := do
  let classification := (map.get "classification").getD .null
  require (classification.asStr = some "read")
    (err "aggregate-class-not-read" (classification.display ext))
  let counts := (map.get "counts").getD .null
  let byAction ← okOr ((counts.get "by-action").bind Value.asObject)
    (err "schema-type-mismatch" "counts.by-action must be an object")
  let total ← integer (counts.index "total") "counts.total"
  require (0 ≤ total) (err "aggregate-count-negative" s!"counts.total is {total}")
  require (byAction.length ≤ aggregateMaxActions)
    (err "aggregate-cardinality" s!"{byAction.length} distinct actions")
  let folded ← foldChecked fold 0 byAction
  require (total = folded) (err "aggregate-count-mismatch" s!"{total} != {folded}")
  let samples ← sampleBounds ((map.get "sample-hashes").getD .null)
  forEach (hash · "sample-hashes[]") samples
  let window := (map.get "window").getD .null
  timestamp ext (window.index "from") "window.from"
  timestamp ext (window.index "to") "window.to"

def costMember (member : String × Value) : Result Unit := do
  let (name, value) := member
  if isMoney name then
    require value.isString (err "schema-type-mismatch" s!"cost.{name} must be a string")
  else if name ∈ costMembers then do
    let _ ← integer value s!"cost.{name}"
    return ()
  else .error (err "schema-unknown-member" s!"cost.{name}")

def cost (value : Value) : Result Unit := do
  let members ← okOr value.asObject (err "schema-type-mismatch" "cost must be an object")
  forEach costMember members

/-- A truth value, or a negative integer. -/
def isNoPosition : Value → Bool
  | .bool _ => true
  | .number (.negInt _ _) => true
  | _ => false

/-- The place in a stream. -/
def position (map : Members) : Result Unit := do
  let stream := ((map.get "stream").bind Value.asStr).getD ""
  require (isStream stream) (err "stream-id-malformed" stream)
  let seqValue := (map.get "seq").getD .null
  require (isNoPosition seqValue = false) (err "schema-type-mismatch" "seq must be a non-negative integer")
  let seq ← integer seqValue "seq"
  let prev := (map.get "prev-hash").getD .null
  require (¬ (seq = 0 ∧ prev.isNull = false))
    (err "chain-genesis-prev-not-null" "seq 0 must carry a null prev-hash")
  require (¬ (0 < seq ∧ prev.isNull = true)) (err "chain-prev-hash-missing" s!"seq {seq} must carry a prev-hash")
  if prev.isNull then .ok () else hash prev "prev-hash"

def identity (map : Members) : Result Unit := do
  let identityKey := ((map.get "identity").getD .null).index "key"
  let sigKey := ((map.get "sig").getD .null).index "key"
  require (equal identityKey sigKey) (err "identity-key-sig-mismatch" "identity.key must equal sig.key")
  require (identityKey.asStr.any isKeyId) (err "key-id-malformed" (identityKey.display ext))

def classification (value : Value) : Result Unit :=
  require (value.isNull ∨ value.asStr.any (· ∈ classes) = true)
    (err "envelope-classification-unknown" (value.display ext))

def correlation (reference : Value) : Result Unit := do
  let s ← okOr reference.asStr (err "schema-type-mismatch" "correlation-ref must be a string")
  require (s.utf8ByteSize ≤ 512) (err "correlation-ref-too-long" s!"{s.length} characters")

/-- Which members an envelope of a kind may and must have. -/
def members (kind : String) (map : Members) (required optional : List String) : Result Unit := do
  if kind = "cognition" then forbid map cognitionForbidden "cognition-envelope-has-effect-fields"
  else if kind = "signal" then forbid map signalForbidden "signal-envelope-has-effect-fields"
  else .ok ()
  forEach (fun name => require
    (name ∈ common ∨ name ∈ commonOptional ∨ name ∈ required ∨ name ∈ optional)
    (err "schema-unknown-member" s!"{kind}.{name}")) map.keys
  forEach (fun name => require (map.containsKey name)
    (err "schema-missing-member" s!"{kind}.{name}")) (common ++ required)

def validate (envelope : Value) : Result Unit := do
  let map ← okOr envelope.asObject (err "schema-type-mismatch" "an envelope must be an object")
  let v ← okOr (map.get "v") (err "schema-missing-member" "v")
  let v ← okOr v.asStr (err "schema-type-mismatch" "v must be a string")
  require (v = "stozher/0.1") (err "envelope-version-unsupported" v)
  let kind ← okOr (map.get "kind") (err "schema-missing-member" "kind")
  let kind ← okOr kind.asStr (err "schema-type-mismatch" "kind must be a string")
  let (required, optional) ← okOr (kinds kind) (err "envelope-unknown-kind" kind)
  members kind map required optional
  strings map ["emitted-at", "stream", "v", "kind"]
  timestamp ext ((map.get "emitted-at").getD .null) "emitted-at"
  position map
  forEach nested map
  identity ext map
  forEach (fun name => Envelope.whenPresent (map.get name) (hash · name)) ["mandate-ref", "revokes", "decision-of"]
  Envelope.whenPresent (map.get "classification") (classification ext)
  Envelope.whenPresent (map.get "execution") (execution ext)
  Envelope.whenPresent (map.get "evidence") (evidence ext)
  Envelope.whenPresent (map.get "trigger") trigger
  Envelope.whenPresent (map.get "signal") (signal ext)
  if kind = "revocation" then revocation ext map else .ok ()
  if kind = "aggregate" then aggregate ext map else .ok ()
  if kind = "cognition" then cost ((map.get "cost").getD .null) else .ok ()
  Envelope.whenPresent (map.get "correlation-ref") correlation

end Stozher.Gateway.Structure
