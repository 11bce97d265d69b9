import Stozher.Clock
import Stozher.Display
import Stozher.Mandate.Scope

namespace Stozher

open Library Library.Text

/-- What a gate rule decides for a class of action. -/
inductive Decision where
  | allow
  | gate (approvers : List String)
  | deny
  deriving DecidableEq

def Decision.isGate : Decision → Bool
  | .gate _ => true
  | _ => false

/-- A policy document that `Policy.parse` accepted, under the key it accepts policies from. -/
structure Policy where
  document : Value
  version : String
  documentHash : String
  policyKey : KeyId

structure ClassifyInput where
  subject : String
  action : String
  resource : String
  manifestClass : Option String

namespace Policy

variable (ext : External)

def members : List String := [
  "v", "kind", "policy-version", "issued-at", "profile", "revoke-cached",
  "max-staleness-seconds", "checkpoint-interval", "aggregate-max-window", "classification",
  "gate-rules", "evidence-ttl", "budgets", "delegation", "offline", "wedge-grace", "sig"]

def optionalMembers : List String := ["wedge-grace"]

def stringMember (map : Members) (name : String) : Result String :=
  okOr ((map.get name).bind Value.asStr) (err "schema-missing-member" name)

def requireClass (class_ : String) : Result Unit :=
  require (class_ ∈ Envelope.classes) (err "envelope-classification-unknown" (debug class_))

/-- The members of an object are all known. -/
def onlyMembers (known : List String) (path : String) (map : Members) : Result Unit :=
  forEach (fun key => require (key ∈ known) (err "schema-unknown-member" (path ++ key))) map.keys

def classWeight (class_ : String) : Nat :=
  match class_ with
  | "read" => 0
  | "benign" => 1
  | "consequential" => 2
  | "prohibited" => 3
  | _ => 255

def validateReclassifyEntry (entry : Value) : Result Unit := do
  let map ← okOr entry.asObject
    (err "schema-type-mismatch" "a reclassify entry must be an object")
  onlyMembers ["subject", "action", "resource", "class", "reason"]
    "classification.reclassify[]." map
  forEach (fun required => require (map.containsKey required)
    (err "schema-missing-member" s!"classification.reclassify[].{required}"))
    ["subject", "action", "class"]
  requireClass (((map.get "class").bind Value.asStr).getD "")

def validateClassification (document : Value) : Result Unit := do
  let classification ← okOr (document.index "classification").asObject
    (err "schema-type-mismatch" "classification must be an object")
  onlyMembers ["default-unknown", "by-action", "reclassify"] "classification." classification
  let default_ ← okOr ((classification.get "default-unknown").bind Value.asStr)
    (err "schema-missing-member" "classification.default-unknown")
  requireClass default_
  let byAction ← okOr ((classification.get "by-action").bind Value.asObject)
    (err "schema-type-mismatch" "classification.by-action must be an object")
  forEach (fun member : String × Value => requireClass (member.2.asStr.getD "")) byAction
  let reclassify ← okOr ((classification.get "reclassify").bind Value.asArray)
    (err "schema-type-mismatch" "classification.reclassify must be an array")
  forEach validateReclassifyEntry reclassify

def validateApprover (approver : Value) : Result Unit := do
  let subject ← okOr approver.asStr (err "schema-type-mismatch" "an approver must be a string")
  require (startsWith subject "human:" = true ∧ 6 < subject.utf8ByteSize)
    (err "gate-approver-not-human" s!"approver {debug subject} is not a named human")

def validateRuleActions (actions : Value) : Result Unit := do
  let patterns ← okOr actions.asArray
    (err "schema-type-mismatch" "gate-rules[].actions must be an array")
  forEach (fun pattern : Value => require pattern.isString
    (err "schema-type-mismatch" "gate-rules[].actions must be an array of strings")) patterns

def validateRuleDecision (map : Members) : Result Unit := do
  let decision := (map.get "decision").bind Value.asStr
  if decision = some "allow" ∨ decision = some "deny" then
    require (map.containsKey "approvers" = false) (err "schema-unknown-member"
      "gate-rules[].approvers is meaningful only for decision gate")
  else if decision = some "gate" then
    let approvers ← okOr ((map.get "approvers").bind Value.asArray)
      (err "schema-missing-member" "gate-rules[].approvers")
    require (approvers.isEmpty = false)
      (err "gate-approver-not-permitted" "a gate rule names no approver")
    forEach validateApprover approvers
  else throw (err "schema-type-mismatch" s!"gate-rules[].decision is {debugOption decision}")

def validateGateRule (rule : Value) : Result Unit := do
  let map ← okOr rule.asObject (err "schema-type-mismatch" "a gate rule must be an object")
  onlyMembers ["classes", "decision", "approvers", "actions"] "gate-rules[]." map
  Envelope.whenPresent (map.get "actions") validateRuleActions
  let classes ← okOr ((map.get "classes").bind Value.asArray)
    (err "schema-missing-member" "gate-rules[].classes")
  forEach (fun class_ : Value => requireClass (class_.asStr.getD "")) classes
  validateRuleDecision map

def validateGateRules (document : Value) : Result Unit := do
  let rules ← okOr (document.index "gate-rules").asArray
    (err "schema-type-mismatch" "gate-rules must be an array")
  forEach validateGateRule rules

def validateRetention (document : Value) : Result Unit := do
  let ttl ← okOr (document.index "evidence-ttl").asObject
    (err "schema-type-mismatch" "evidence-ttl must be an object")
  forEach requireClass ttl.keys
  forEach (fun class_ => do
    let duration ← okOr ((ttl.get class_).bind Value.asStr)
      (err "schema-missing-member" s!"evidence-ttl.{class_}")
    let _ ← Clock.parseDurationSeconds duration) Envelope.classes

def validateDelegation (document : Value) : Result Unit := do
  let delegation ← okOr (document.index "delegation").asObject
    (err "schema-type-mismatch" "delegation must be an object")
  onlyMembers ["max-depth", "max-standing-lifetime"] "delegation." delegation
  require ((delegation.get "max-depth").bind Value.asU64).isSome
    (err "schema-missing-member" "delegation.max-depth")
  let lifetime ← okOr ((delegation.get "max-standing-lifetime").bind Value.asStr)
    (err "schema-missing-member" "delegation.max-standing-lifetime")
  let _ ← Clock.parseDurationSeconds lifetime

/-- Whether a gate rule speaks of this class and this action. -/
def ruleMatches (rule : Value) (class_ action : String) : Bool :=
  let classes := (rule.index "classes").asArray.getD []
  let named := classes.any fun c => c.asStr == some class_
  let covered := if action = "*" then true
    else
      match (rule.get "actions").bind Value.asArray with
      | some actions => (actions.filterMap Value.asStr).any (Mandate.matchesPattern · action)
      | none => true
  named && covered

def ruleDecision (rule : Value) : Decision :=
  match rule.getStr "decision" with
  | some "allow" => .allow
  | some "gate" => .gate (((rule.index "approvers").asArray.getD []).filterMap Value.asStr)
  | _ => .deny

def decisionIn (document : Value) (class_ action : String) : Decision :=
  match (document.index "gate-rules").asArray with
  | none => .deny
  | some rules =>
      match rules.find? (ruleMatches · class_ action) with
      | some rule => ruleDecision rule
      | none => .deny

def validateOffline (document : Value) : Result Unit := do
  let offline ← okOr (document.index "offline").asObject
    (err "schema-type-mismatch" "offline must be an object")
  forEach (fun (class_, behaviour) => do
    requireClass class_
    require (behaviour.asStr = some "allow" ∨ behaviour.asStr = some "block" ∨
        behaviour.asStr = some "degrade")
      (err "schema-type-mismatch" s!"offline.{class_} is {behaviour.display ext}")) offline
  require (¬ ((offline.get "consequential").bind Value.asStr = some "allow" ∧
      (decisionIn document "consequential" "*").isGate = true))
    (err "policy-offline-allows-gated"
      "offline.consequential is allow while a gate rule applies to consequential")

/-- The members of a policy and their types, before the rules inside them. -/
def validateHeader (map : Members) : Result String := do
  let version ← stringMember map "policy-version"
  require (version ≠ "")
    (err "schema-type-mismatch" "policy-version must be a non-empty string")
  let _ ← stringMember map "profile"
  let _ ← Clock.parseTimestamp (← stringMember map "issued-at")
  require ((map.get "revoke-cached").bind Value.asBool).isSome
    (err "schema-type-mismatch" "revoke-cached must be a boolean")
  require ((map.get "max-staleness-seconds").bind Value.asU64).isSome
    (err "schema-type-mismatch" "max-staleness-seconds must be a non-negative integer")
  forEach (fun duration => do
    let _ ← Clock.parseDurationSeconds (← stringMember map duration))
    ["checkpoint-interval", "aggregate-max-window"]
  if map.containsKey "wedge-grace" then
    let _ ← Clock.parseDurationSeconds (← stringMember map "wedge-grace")
  return version

def parse (document : Value) (policyKey : KeyId) : Result Policy := do
  let map ← okOr document.asObject
    (err "schema-type-mismatch" "a policy must be a JSON object")
  onlyMembers members "" map
  forEach (fun required => require (map.containsKey required ∨ required ∈ optionalMembers)
    (err "schema-missing-member" required)) members
  require ((map.get "v").bind Value.asStr = some Envelope.version)
    (err "envelope-version-unsupported" ("policy v is " ++ (document.index "v").debug ext))
  require ((map.get "kind").bind Value.asStr = some "policy")
    (err "envelope-unknown-kind" ("policy kind is " ++ (document.index "kind").debug ext))
  let signer ← (Signed.verifySignedObject ext document).mapError fun e =>
    err "policy-sig-invalid" e.detail
  require (signer = policyKey) (err "policy-sig-invalid"
    s!"signed by {signer.text}, expected the enrolled policy key {policyKey.text}")
  let version ← validateHeader map
  let documentHash ← Jcs.objectHash ext document
  validateClassification document
  validateGateRules document
  validateRetention document
  validateDelegation document
  validateOffline ext document
  return { document, version, documentHash, policyKey }

def maxDelegationDepth (policy : Policy) : Nat :=
  let depth := ((policy.document.index "delegation").getU64 "max-depth").getD 3
  if depth < 2 ^ 32 then depth else 3

def standingLifetimeCeiling (policy : Policy) (issuedAt : String) : Result String :=
  let lifetime := ((policy.document.index "delegation").getStr "max-standing-lifetime").getD "P90D"
  Clock.addDuration issuedAt lifetime

def dimensionWeight : Nat := 2

/-- What one dimension of a reclassify entry scores, where it matches. -/
def dimensionScore (pattern : Option String) (value : String) (weight : Nat) : Option Nat :=
  match pattern with
  | none => some 0
  | some p =>
      if p = "*" then some 0
      else if p = value then some weight
      else
        match stripSuffix p ".*" with
        | some stem =>
            if stem.utf8ByteSize < value.utf8ByteSize ∧ startsWith value stem = true ∧
                (octets value)[stem.utf8ByteSize]? = some 0x2e then some (weight / 2)
            else none
        | none => none

def reclassifyMatch (entry : Value) (input : ClassifyInput) : Option (Nat × String) := do
  let subject ← dimensionScore (entry.getStr "subject") input.subject dimensionWeight
  let action ← dimensionScore (entry.getStr "action") input.action dimensionWeight
  let resource ← dimensionScore (entry.getStr "resource") input.resource dimensionWeight
  let class_ ← entry.getStr "class"
  return (subject + action + resource, class_)

/-- Keeps the first of the most specific matches. -/
def betterMatch (input : ClassifyInput) (best : Option (Nat × String)) (entry : Value) :
    Option (Nat × String) :=
  match reclassifyMatch entry input, best with
  | none, best => best
  | some found, none => some found
  | some found, some (current, class_) => if current < found.1 then some found else some (current, class_)

def classify (policy : Policy) (input : ClassifyInput) : String :=
  let classification := policy.document.index "classification"
  let entries := (classification.index "reclassify").asArray.getD []
  match entries.foldl (betterMatch input) none with
  | some (_, class_) => class_
  | none =>
      match (classification.index "by-action").getStr input.action with
      | some class_ => class_
      | none =>
          match input.manifestClass with
          | some class_ => class_
          | none => (classification.getStr "default-unknown").getD "consequential"

def decisionFor (policy : Policy) (class_ action : String) : Decision :=
  decisionIn policy.document class_ action

def retentionCeiling (policy : Policy) (class_ emittedAt : String) : Result String := do
  let ttl ← okOr ((policy.document.index "evidence-ttl").getStr class_)
    (err "schema-missing-member" s!"evidence-ttl.{class_}")
  Clock.addDuration emittedAt ttl

/-- The seconds a duration member names, or the default where it names none. -/
def secondsOr (duration : Option String) (default_ : Int) : Int :=
  match duration.map Clock.parseDurationSeconds with
  | some (.ok seconds) => seconds
  | _ => default_

def storesPayloads (policy : Policy) (class_ : String) : Bool :=
  0 < secondsOr ((policy.document.index "evidence-ttl").getStr class_) 0

def aggregateMaxWindowSeconds (policy : Policy) : Int :=
  secondsOr (policy.document.getStr "aggregate-max-window") 300

end Policy

end Stozher
