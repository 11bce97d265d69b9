import Stozher.GateAgreement
import Stozher.Gateway.Approval
import Stozher.Ingest.Submit

namespace Stozher

open Library Ingest

/-- The refusals of an envelope whose place another one took. -/
def lostRefusals : List String :=
  ["chain-seq-duplicate", "chain-prev-hash-mismatch"]

/-- The codes that are the kernel's own, and say nothing of an object. -/
def register : List String := [
  "x-store-unavailable", "x-caller-unauthenticated", "x-schema-version-ahead", "x-schema-migration-failed",
  "x-conformance-driver-failed", "x-conformance-harness-failed"]

/-- Whether a code is neither of a place nor of the kernel's own. -/
def judges (code : String) : Bool :=
  !(lostRefusals ++ register).contains code

theorem judges_eq_true {code : String} : judges code = true ↔ code ∉ lostRefusals ∧ code ∉ register := by
  unfold judges
  rw [Bool.not_eq_true', List.contains_eq_mem, decide_eq_false_iff_not, List.mem_append, not_or]

/-- A refusal of the object itself. -/
def Verdict (e : Error) : Prop :=
  judges e.code = true

namespace Verdict

variable {code detail : String}

theorem of (said : judges code = true) : Verdict (err code detail) :=
  said

theorem refuses {α : Type} (said : judges code = true) :
    Refuses Verdict (.error (err code detail) : Result α) :=
  refuses_error said

theorem requires {condition : Prop} [Decidable condition] (said : judges code = true) :
    Refuses Verdict (require condition (err code detail)) :=
  refuses_require said

theorem needs {α : Type} {found : Option α} (said : judges code = true) :
    Refuses Verdict (okOr found (err code detail)) :=
  refuses_okOr said

end Verdict

open Verdict

variable {ext : External}

theorem Jcs.canonicalize_verdict (value : Value) : Refuses Verdict (Jcs.canonicalize value) := by
  unfold Jcs.canonicalize
  exact refuses_bind (Jcs.writeValue_refuses (of rfl) value) fun _ => refuses_pure _

theorem KeyId.parse_verdict (text : String) : Refuses Verdict (KeyId.parse text) := by
  unfold KeyId.parse
  refine refuses_ite (refuses rfl) ?_
  split
  · exact refuses_ok _
  · exact refuses rfl

namespace Signed

theorem declaredSigner_verdict (object : Value) : Refuses Verdict (declaredSigner object) := by
  have alg : ∀ name, Refuses Verdict (checkAlg name) := by
    intro name
    unfold checkAlg
    split
    · exact refuses_ok _
    · exact refuses rfl
    · exact refuses rfl
  unfold declaredSigner
  refine refuses_bind (needs rfl) fun _ => refuses_bind (needs rfl) fun _ => refuses_bind (alg _) fun _ => ?_
  exact refuses_bind (needs rfl) fun _ => KeyId.parse_verdict _

theorem verifySignedObject_verdict (object : Value) : Refuses Verdict (verifySignedObject ext object) := by
  have input : Refuses Verdict (signingInput object) := by
    unfold signingInput
    exact refuses_bind (needs rfl) fun _ => Jcs.canonicalize_verdict _
  unfold verifySignedObject
  refine refuses_bind (declaredSigner_verdict object) fun _ => refuses_bind (needs rfl) fun _ => ?_
  refine refuses_bind (refuses_mapError fun _ => of rfl) fun _ => refuses_bind input fun _ => ?_
  exact refuses_bind (requires rfl) fun _ => refuses_pure _

theorem objectId_verdict (object : Value) : Refuses Verdict (objectId ext object) :=
  Jcs.objectHash_refuses ext (of rfl) object

end Signed

namespace Clock

theorem parseTimestamp_verdict (text : String) : Refuses Verdict (parseTimestamp text) := by
  have bad : Verdict (err "encoding-bad-timestamp" (debug text)) := (of rfl)
  have field : ∀ start stop : Nat, Refuses Verdict (do
      let digits := ((Text.octets text).take stop).drop start
      require (digits.all Text.isAsciiDigit) (err "encoding-bad-timestamp" (debug text))
      return (Text.decimalValue digits : Int)) :=
    fun _ _ => refuses_bind (refuses_require bad) fun _ => refuses_pure _
  unfold parseTimestamp
  refine refuses_bind (requires rfl) fun _ => refuses_bind (requires rfl) fun _ => ?_
  refine refuses_bind (field _ _) fun _ => refuses_bind (field _ _) fun _ => refuses_bind (field _ _) fun _ =>
    refuses_bind (field _ _) fun _ => refuses_bind (field _ _) fun _ => refuses_bind (field _ _) fun _ =>
      refuses_bind (field _ _) fun _ => ?_
  exact refuses_bind (requires rfl) fun _ => refuses_bind (requires rfl) fun _ => refuses_pure _

theorem shift_verdict (text : String) (seconds : Int) : Refuses Verdict (shift text seconds) := by
  unfold shift
  exact refuses_bind (parseTimestamp_verdict text) fun _ => refuses_bind (requires rfl) fun _ => refuses_pure _

theorem parseDurationSeconds_verdict (text : String) : Refuses Verdict (parseDurationSeconds text) := by
  have scanned : ∀ units scan ch, Refuses Verdict (scanDuration text units scan ch) := by
    intro units scan ch
    unfold scanDuration
    refine refuses_ite (refuses_bind (requires rfl) fun _ => refuses_pure _) (refuses_ite ?_ (refuses rfl))
    exact refuses_bind (requires rfl) fun _ => refuses_bind (requires rfl) fun _ => refuses_pure _
  unfold parseDurationSeconds
  dsimp only
  split
  · refine refuses_bind (refuses_pure _) ?_
    exact fun rest => refuses_bind (requires rfl) fun _ => refuses_bind (requires rfl) fun _ =>
      refuses_bind (refuses_foldChecked (scanned _) _ _) fun _ => refuses_bind (requires rfl) fun _ =>
        refuses_bind (refuses_foldChecked (scanned _) _ _) fun _ => refuses_bind (requires rfl) fun _ =>
          refuses_bind (requires rfl) fun _ => refuses_pure _
  · exact refuses_error (of rfl)

theorem addDuration_verdict (text duration : String) : Refuses Verdict (addDuration text duration) := by
  unfold addDuration
  exact refuses_bind (parseDurationSeconds_verdict _) fun _ => shift_verdict _ _

end Clock

namespace Envelope

theorem requireDigest_verdict (value : Value) (what : String) : Refuses Verdict (requireDigest value what) := by
  unfold requireDigest
  exact refuses_bind (needs rfl) fun _ => requires rfl

theorem requireTimestamp_verdict (value : Value) (what : String) : Refuses Verdict (requireTimestamp value what) := by
  unfold requireTimestamp
  exact refuses_bind (needs rfl) fun _ => requires rfl

theorem whenPresent_verdict {value : Option Value} {check : Value → Result Unit}
    (each : ∀ value, Refuses Verdict (check value)) : Refuses Verdict (whenPresent value check) := by
  cases value with
  | none => exact refuses_ok _
  | some value => exact each value

theorem validateCost_verdict (cost : Value) : Refuses Verdict (validateCost cost) := by
  unfold validateCost
  refine refuses_bind (needs rfl) fun members => refuses_forEach ?_ members
  rintro ⟨key, value⟩
  unfold validateCostMember
  dsimp only
  split
  · exact refuses_bind (requires rfl) fun _ => requires rfl
  · exact requires rfl

mutual

theorem checkNumbers_verdict : ∀ (value : Value) (path : String), Refuses Verdict (checkNumbers ext value path)
  | .null, _ => refuses_ok _
  | .bool _, _ => refuses_ok _
  | .string _, _ => refuses_ok _
  | .number n, path => by
      unfold checkNumbers
      split
      · exact requires rfl
      · exact refuses rfl
  | .array items, path => by
      unfold checkNumbers
      exact checkItems_verdict items path 0
  | .object members, path => by
      unfold checkNumbers
      exact checkMembers_verdict members path

theorem checkItems_verdict : ∀ (items : List Value) (path : String) (i : Nat),
    Refuses Verdict (checkItems ext items path i)
  | [], _, _ => refuses_ok _
  | item :: rest, path, i => by
      unfold checkItems
      exact refuses_bind (checkNumbers_verdict item _) fun _ => checkItems_verdict rest path (i + 1)

theorem checkMembers_verdict : ∀ (members : List (String × Value)) (path : String),
    Refuses Verdict (checkMembers ext members path)
  | [], _ => refuses_ok _
  | (key, item) :: rest, path => by
      unfold checkMembers
      exact refuses_bind (checkNumbers_verdict item _) fun _ => checkMembers_verdict rest path

end

theorem validateAggregate_verdict (classification : Option Value) (counts samples : Value) :
    Refuses Verdict (validateAggregate classification counts samples) := by
  have added : ∀ sum member, Refuses Verdict (addCount sum member) := by
    intro sum member
    unfold addCount
    exact refuses_bind (needs rfl) fun _ => refuses_bind (requires rfl) fun _ => refuses_pure _
  unfold validateAggregate
  refine refuses_bind (requires rfl) fun _ => refuses_bind (needs rfl) fun _ => ?_
  refine refuses_bind (requires rfl) fun _ => ?_
  refine refuses_bind (needs rfl) fun _ => refuses_bind (requires rfl) fun _ => ?_
  refine refuses_bind (refuses_foldChecked added _ _) fun _ => refuses_bind (requires rfl) fun _ => ?_
  exact refuses_bind (needs rfl) fun _ => requires rfl

theorem kindSpec_verdict {kind detail : String} {spec : KindSpec} (known : kindSpec kind = some spec) :
    Verdict (err spec.forbiddenCode detail) := by
  unfold kindSpec at known
  split at known <;> cases known <;> exact of rfl

theorem validateMembers_verdict {kind : String} {spec : KindSpec} (known : kindSpec kind = some spec)
    (map : Members) : Refuses Verdict (validateMembers kind map spec) := by
  unfold validateMembers
  refine refuses_bind (refuses_forEach (fun _ => refuses_require (kindSpec_verdict known)) _) fun _ => ?_
  exact refuses_bind (refuses_forEach (fun _ => requires rfl) _) fun _ => refuses_forEach (fun _ => requires rfl) _

theorem validateSubObject_verdict (member : String × Value) : Refuses Verdict (validateSubObject member) := by
  unfold validateSubObject
  refine refuses_ite (validateCost_verdict _) ?_
  split
  · exact refuses_ok _
  · refine refuses_bind (needs rfl) fun _ => ?_
    refine refuses_bind (refuses_forEach (fun _ => requires rfl) _) fun _ => ?_
    exact refuses_forEach (fun _ => requires rfl) _

theorem validateDigests_verdict (map : Members) : Refuses Verdict (validateDigests map) := by
  have digest : ∀ what value, Refuses Verdict (requireDigest value what) := fun what value =>
    requireDigest_verdict value what
  unfold validateDigests
  refine refuses_bind (refuses_forEach (fun _ => whenPresent_verdict (digest _)) _) fun _ => ?_
  refine refuses_bind (refuses_forEach (fun _ => whenPresent_verdict (digest _)) _) fun _ => ?_
  refine refuses_bind (whenPresent_verdict fun _ =>
    refuses_forEach (fun _ => whenPresent_verdict (digest _)) _) fun _ => ?_
  exact whenPresent_verdict fun _ => refuses_bind (needs rfl) fun _ => refuses_forEach (digest _) _

theorem validatePosition_verdict (map : Members) : Refuses Verdict (validatePosition map) := by
  unfold validatePosition validateStreamId
  refine refuses_bind (needs rfl) fun _ => refuses_bind (requires rfl) fun _ => ?_
  refine refuses_bind (needs rfl) fun _ => ?_
  exact refuses_bind (requires rfl) fun _ => requires rfl

theorem validateIdentity_verdict (map : Members) : Refuses Verdict (validateIdentity map) := by
  unfold validateIdentity
  refine refuses_bind (needs rfl) fun _ => refuses_bind (KeyId.parse_verdict _) fun _ => ?_
  exact refuses_bind (needs rfl) fun _ => requires rfl

theorem validateClassification_verdict (value : Value) : Refuses Verdict (validateClassification value) := by
  unfold validateClassification
  exact refuses_bind (needs rfl) fun _ => requires rfl

theorem validateExecution_verdict (value : Value) : Refuses Verdict (validateExecution value) := by
  unfold validateExecution
  exact refuses_bind (needs rfl) fun _ => refuses_bind (requires rfl) fun _ => requires rfl

theorem validateCorrelation_verdict (value : Value) : Refuses Verdict (validateCorrelation value) := by
  unfold validateCorrelation
  exact refuses_bind (needs rfl) fun _ => requires rfl

theorem validate_verdict (envelope : Value) : Refuses Verdict (validate ext envelope) := by
  have dated : ∀ what value, Refuses Verdict (requireTimestamp value what) := fun what value =>
    requireTimestamp_verdict value what
  unfold validate validateTimestamps validateCounts
  refine refuses_bind (needs rfl) fun map => refuses_bind (needs rfl) fun _ => ?_
  refine refuses_bind (needs rfl) fun _ => ?_
  refine refuses_bind (requires rfl) fun _ => refuses_bind (needs rfl) fun _ => ?_
  refine refuses_bind (needs rfl) fun kind => ?_
  refine refuses_bind_of (needs rfl) fun spec known => ?_
  refine refuses_bind (validateMembers_verdict (okOr_eq_ok.mp known) map) fun _ => ?_
  refine refuses_bind (refuses_forEach validateSubObject_verdict map) fun _ => ?_
  refine refuses_bind (checkNumbers_verdict _ _) fun _ => refuses_bind (validateDigests_verdict map) fun _ => ?_
  refine refuses_bind (refuses_bind (dated _ _) fun _ =>
    refuses_forEach (fun _ => whenPresent_verdict (dated _)) _) fun _ => ?_
  refine refuses_bind (validatePosition_verdict map) fun _ => refuses_bind (validateIdentity_verdict map) fun _ => ?_
  refine refuses_bind (whenPresent_verdict validateClassification_verdict) fun _ => ?_
  refine refuses_bind (whenPresent_verdict validateExecution_verdict) fun _ => ?_
  refine refuses_bind (refuses_ite (validateAggregate_verdict _ _ _) (refuses_ok _)) fun _ => ?_
  exact whenPresent_verdict validateCorrelation_verdict

end Envelope

theorem Payload.computedHash_verdict (mediaType : String) (body : Value) :
    Refuses Verdict (Payload.computedHash ext mediaType body) := by
  unfold Payload.computedHash Payload.hexDecode
  refine refuses_ite (Jcs.objectHash_refuses ext (of rfl) body) ?_
  refine refuses_bind (needs rfl) fun _ => refuses_bind (needs rfl) fun _ => ?_
  exact refuses_bind (requires rfl) fun _ => refuses_pure _

theorem Payload.verifyPayload_verdict (referenced : List String) (payload : Value) :
    Refuses Verdict (Payload.verifyPayload ext referenced payload) := by
  unfold Payload.verifyPayload
  refine refuses_bind (needs rfl) fun _ => refuses_bind (needs rfl) fun _ => ?_
  refine refuses_bind (requires rfl) fun _ => ?_
  refine refuses_bind (needs rfl) fun _ => refuses_bind (Payload.computedHash_verdict _ _) fun _ => ?_
  exact refuses_bind (requires rfl) fun _ => requires rfl

theorem Payload.verifyIngest_verdict (envelope : Value) (payloads : List Value) :
    Refuses Verdict (Payload.verifyIngest ext envelope payloads) := by
  unfold Payload.verifyIngest
  refine refuses_bind (Envelope.validate_verdict envelope) fun _ => ?_
  refine refuses_bind (refuses_forEach (Payload.verifyPayload_verdict _) payloads) fun _ => ?_
  exact refuses_bind (Signed.objectId_verdict envelope) fun _ => refuses_pure _

namespace Policy

theorem requireClass_verdict (class_ : String) : Refuses Verdict (requireClass class_) := by
  unfold requireClass
  exact requires rfl

theorem onlyMembers_verdict (known : List String) (path : String) (map : Members) :
    Refuses Verdict (onlyMembers known path map) := by
  unfold onlyMembers
  exact refuses_forEach (fun _ => requires rfl) _

theorem stringMember_verdict (map : Members) (name : String) : Refuses Verdict (stringMember map name) := by
  unfold stringMember
  exact needs rfl

theorem validateHeader_verdict (map : Members) : Refuses Verdict (validateHeader map) := by
  have string_ := stringMember_verdict map
  have duration : ∀ name, Refuses Verdict (do
      let _ ← Clock.parseDurationSeconds (← stringMember map name) : Result Unit) :=
    fun name => refuses_bind (string_ name) fun _ =>
      refuses_bind (Clock.parseDurationSeconds_verdict _) fun _ => refuses_pure _
  unfold validateHeader
  refine refuses_bind (string_ _) fun _ => refuses_bind (requires rfl) fun _ => ?_
  refine refuses_bind (string_ _) fun _ => ?_
  refine refuses_bind (string_ _) fun _ => refuses_bind (Clock.parseTimestamp_verdict _) fun _ => ?_
  refine refuses_bind (requires rfl) fun _ => refuses_bind (requires rfl) fun _ => ?_
  refine refuses_bind (refuses_forEach duration _) fun _ => ?_
  dsimp only
  split
  · refine refuses_bind (string_ _) fun _ => refuses_bind (Clock.parseDurationSeconds_verdict _) fun _ => ?_
    exact refuses_pure _
  · exact refuses_pure _

theorem validateClassification_verdict (document : Value) : Refuses Verdict (validateClassification document) := by
  have entry : ∀ value, Refuses Verdict (validateReclassifyEntry value) := by
    intro value
    unfold validateReclassifyEntry
    refine refuses_bind (needs rfl) fun _ => refuses_bind (onlyMembers_verdict _ _ _) fun _ => ?_
    exact refuses_bind (refuses_forEach (fun _ => requires rfl) _) fun _ => requireClass_verdict _
  unfold validateClassification
  refine refuses_bind (needs rfl) fun _ => refuses_bind (onlyMembers_verdict _ _ _) fun _ => ?_
  refine refuses_bind (needs rfl) fun _ => ?_
  refine refuses_bind (requireClass_verdict _) fun _ => refuses_bind (needs rfl) fun _ => ?_
  refine refuses_bind (refuses_forEach (fun _ => requireClass_verdict _) _) fun _ => ?_
  exact refuses_bind (needs rfl) fun _ => refuses_forEach entry _

theorem validateGateRules_verdict (document : Value) : Refuses Verdict (validateGateRules document) := by
  have approver : ∀ value, Refuses Verdict (validateApprover value) := by
    intro value
    unfold validateApprover
    exact refuses_bind (needs rfl) fun _ => requires rfl
  have actions : ∀ value, Refuses Verdict (validateRuleActions value) := by
    intro value
    unfold validateRuleActions
    exact refuses_bind (needs rfl) fun _ => refuses_forEach (fun _ => requires rfl) _
  have decision : ∀ map, Refuses Verdict (validateRuleDecision map) := by
    intro map
    unfold validateRuleDecision
    refine refuses_ite (requires rfl) (refuses_ite ?_ (refuses rfl))
    exact refuses_bind (needs rfl) fun _ => refuses_bind (requires rfl) fun _ => refuses_forEach approver _
  have rule : ∀ value, Refuses Verdict (validateGateRule value) := by
    intro value
    unfold validateGateRule
    refine refuses_bind (needs rfl) fun _ => refuses_bind (onlyMembers_verdict _ _ _) fun _ => ?_
    refine refuses_bind (Envelope.whenPresent_verdict actions) fun _ => refuses_bind (needs rfl) fun _ => ?_
    exact refuses_bind (refuses_forEach (fun _ => requireClass_verdict _) _) fun _ => decision _
  unfold validateGateRules
  exact refuses_bind (needs rfl) fun _ => refuses_forEach rule _

theorem validateRetention_verdict (document : Value) : Refuses Verdict (validateRetention document) := by
  unfold validateRetention
  refine refuses_bind (needs rfl) fun _ => refuses_bind (refuses_forEach requireClass_verdict _) fun _ => ?_
  exact refuses_forEach (fun _ => refuses_bind (needs rfl) fun _ =>
    refuses_bind (Clock.parseDurationSeconds_verdict _) fun _ => refuses_pure _) _

theorem validateDelegation_verdict (document : Value) : Refuses Verdict (validateDelegation document) := by
  unfold validateDelegation
  refine refuses_bind (needs rfl) fun _ => refuses_bind (onlyMembers_verdict _ _ _) fun _ => ?_
  refine refuses_bind (requires rfl) fun _ => ?_
  refine refuses_bind (needs rfl) fun _ => ?_
  exact refuses_bind (Clock.parseDurationSeconds_verdict _) fun _ => refuses_pure _

theorem validateOffline_verdict (document : Value) : Refuses Verdict (validateOffline ext document) := by
  unfold validateOffline
  refine refuses_bind (needs rfl) fun _ => ?_
  refine refuses_bind (refuses_forEach (fun _ => ?_) _) fun _ => requires rfl
  exact refuses_bind (requireClass_verdict _) fun _ => requires rfl

theorem parse_verdict (document : Value) (policyKey : KeyId) : Refuses Verdict (parse ext document policyKey) := by
  unfold parse
  refine refuses_bind (needs rfl) fun _ => refuses_bind (onlyMembers_verdict _ _ _) fun _ => ?_
  refine refuses_bind (refuses_forEach (fun _ => requires rfl) _) fun _ => ?_
  refine refuses_bind (requires rfl) fun _ => ?_
  refine refuses_bind (requires rfl) fun _ => refuses_bind (refuses_mapError fun _ => of rfl) fun _ => ?_
  refine refuses_bind (requires rfl) fun _ => refuses_bind (validateHeader_verdict _) fun _ => ?_
  refine refuses_bind (Jcs.objectHash_refuses ext (of rfl) _) fun _ => ?_
  refine refuses_bind (validateClassification_verdict document) fun _ => ?_
  refine refuses_bind (validateGateRules_verdict document) fun _ => ?_
  refine refuses_bind (validateRetention_verdict document) fun _ => ?_
  refine refuses_bind (validateDelegation_verdict document) fun _ => ?_
  exact refuses_bind (validateOffline_verdict document) fun _ => refuses_pure _

theorem retentionCeiling_verdict (policy : Policy) (class_ emittedAt : String) :
    Refuses Verdict (policy.retentionCeiling class_ emittedAt) := by
  unfold retentionCeiling
  exact refuses_bind (needs rfl) fun _ => Clock.addDuration_verdict _ _

end Policy

namespace GateQueue

theorem text_verdict (map : Members) (name : String) : Refuses Verdict (text map name) := by
  unfold text
  exact refuses_bind (needs rfl) fun _ => needs rfl

theorem checkNonce_verdict (value : String) : Refuses Verdict (checkNonce value) := by
  unfold checkNonce
  exact refuses_bind (requires rfl) fun _ => requires rfl

theorem validate_verdict (request : Value) (at_ : String) : Refuses Verdict (validate ext request at_) := by
  have read := text_verdict
  have dated := Clock.parseTimestamp_verdict
  unfold validate
  refine refuses_bind (needs rfl) fun map => ?_
  refine refuses_bind (refuses_forEach (fun _ => requires rfl) _) fun _ => ?_
  refine refuses_bind (read _ _) fun _ => refuses_bind (requires rfl) fun _ => ?_
  refine refuses_bind (read _ _) fun _ => refuses_bind (requires rfl) fun _ => ?_
  refine refuses_bind (read _ _) fun _ => refuses_bind (requires rfl) fun _ => ?_
  refine refuses_bind (read _ _) fun _ => refuses_bind (KeyId.parse_verdict _) fun _ => ?_
  refine refuses_bind (read _ _) fun _ => refuses_bind (requires rfl) fun _ => ?_
  refine refuses_bind (read _ _) fun _ => refuses_bind (read _ _) fun _ => ?_
  refine refuses_bind (refuses_forEach (fun _ => requires rfl) _) fun _ => ?_
  refine refuses_bind (read _ _) fun _ => refuses_bind (checkNonce_verdict _) fun _ => ?_
  refine refuses_bind (read _ _) fun _ => refuses_bind (read _ _) fun _ => ?_
  refine refuses_bind (read _ _) fun _ => refuses_bind (read _ _) fun _ => ?_
  refine refuses_bind (refuses_forEach (fun _ => requires rfl) _) fun _ => ?_
  refine refuses_bind (read _ _) fun _ => refuses_bind (read _ _) fun _ => ?_
  refine refuses_bind (dated _) fun _ => refuses_bind (dated _) fun _ => ?_
  refine refuses_bind (requires rfl) fun _ => refuses_bind (requires rfl) fun _ => ?_
  exact refuses_bind (Jcs.objectHash_refuses ext (of rfl) _) fun _ => refuses_pure _

theorem validateEmbeddedDecision_verdict (value : Value) : Refuses Verdict (validateEmbeddedDecision value) := by
  unfold validateEmbeddedDecision
  refine refuses_bind (needs rfl) fun map => ?_
  refine refuses_bind (refuses_forEach (fun _ => requires rfl) _) fun _ => ?_
  refine refuses_bind (requires rfl) fun _ => refuses_bind (requires rfl) fun _ => ?_
  refine refuses_bind (refuses_forEach (fun _ => refuses_bind (needs rfl) fun _ => requires rfl) _) fun _ => ?_
  refine refuses_bind (requires rfl) fun _ => refuses_bind (Clock.parseTimestamp_verdict _) fun _ => ?_
  exact refuses_bind (Clock.parseTimestamp_verdict _) fun _ => refuses_pure _

theorem validateEmbedded_verdict (authorization : Value) :
    Refuses Verdict (validateEmbedded ext authorization) := by
  unfold validateEmbedded
  refine refuses_bind (needs rfl) fun request => refuses_bind (needs rfl) fun _ => ?_
  refine refuses_bind (refuses_forEach (fun _ => requires rfl) _) fun _ => ?_
  refine refuses_bind (needs rfl) fun requestedAt => ?_
  exact refuses_bind (validate_verdict request requestedAt) fun _ => validateEmbeddedDecision_verdict _

theorem checkVerdict_verdict (verdict : String) (reason : Option String) :
    Refuses Verdict (checkVerdict verdict reason) := by
  unfold checkVerdict
  exact refuses_ite (refuses_ok _) (refuses_ite (requires rfl) (refuses rfl))

theorem checkDecision_verdict (decision : Value) (request : GateRequest) :
    Refuses Verdict (checkDecision ext decision request) := by
  have dated := Clock.parseTimestamp_verdict
  unfold checkDecision
  refine refuses_bind (requires rfl) fun _ => refuses_bind (requires rfl) fun _ => ?_
  refine refuses_bind (refuses_mapError fun _ => of rfl) fun _ => refuses_bind (requires rfl) fun _ => ?_
  refine refuses_bind (needs rfl) fun _ => refuses_bind (needs rfl) fun _ => refuses_bind (dated _) fun _ => ?_
  refine refuses_bind (dated _) fun _ => refuses_bind (needs rfl) fun _ => ?_
  refine refuses_bind (checkVerdict_verdict _ _) fun _ => ?_
  exact refuses_bind (requires rfl) fun _ => refuses_bind (requires rfl) fun _ => refuses_pure _

end GateQueue

theorem Gate.verifyDecision_verdict (request decision : Value) :
    Refuses Verdict (Gate.verifyDecision ext request decision) := by
  unfold Gate.verifyDecision
  refine refuses_bind (Jcs.objectHash_refuses ext (of rfl) _) fun _ => refuses_bind (needs rfl) fun _ => ?_
  refine refuses_bind (requires rfl) fun _ => refuses_bind (refuses_mapError fun _ => of rfl) fun _ => ?_
  exact refuses_pure _

theorem Gate.verifyApprover_verdict (request : Value) (key : KeyId) (approvers : List Gate.Approver) :
    Refuses Verdict (Gate.verifyApprover request key approvers) := by
  unfold Gate.verifyApprover Gate.checkActingAs
  refine refuses_bind (needs rfl) fun _ => refuses_bind (requires rfl) fun _ => ?_
  refine refuses_bind ?_ fun _ => requires rfl
  split
  · exact requires rfl
  · exact refuses_ok _

theorem Gate.verifyVerdict_verdict (decision : Value) (key : KeyId) :
    Refuses Verdict (Gate.verifyVerdict decision key) := by
  unfold Gate.verifyVerdict
  refine refuses_bind (needs rfl) fun verdict => ?_
  split
  · exact refuses_pure _
  · exact refuses_bind (requires rfl) fun _ => refuses rfl
  · exact refuses rfl

theorem Gate.verifyWindow_verdict (env request decision : Value) :
    Refuses Verdict (Gate.verifyWindow env request decision) := by
  unfold Gate.verifyWindow
  refine refuses_bind (needs rfl) fun _ => refuses_bind (needs rfl) fun _ => ?_
  refine refuses_bind (needs rfl) fun _ => ?_
  refine refuses_bind (needs rfl) fun _ => ?_
  refine refuses_bind (refuses_forEach (fun _ => requires rfl) _) fun _ => ?_
  exact refuses_bind (requires rfl) fun _ => requires rfl

theorem Gate.checkBound_verdict (request env : Value) (entry : String × List String) :
    Refuses Verdict (Gate.checkBound request env entry) := by
  unfold Gate.checkBound
  exact requires rfl

theorem Gate.verifyAuthorization_verdict (env : Value) (gated : Bool) (approvers : List Gate.Approver)
    (seen : List String) : Refuses Verdict (Gate.verifyAuthorization ext env gated approvers seen) := by
  unfold Gate.verifyAuthorization
  split
  · exact refuses_bind (requires rfl) fun _ => refuses_pure _
  · refine refuses_bind (needs rfl) fun request => refuses_bind (needs rfl) fun decision => ?_
    refine refuses_bind (Gate.verifyDecision_verdict _ _) fun _ => ?_
    refine refuses_bind (Gate.verifyApprover_verdict _ _ _) fun _ => ?_
    refine refuses_bind (Gate.verifyVerdict_verdict _ _) fun _ => ?_
    refine refuses_bind (Gate.verifyWindow_verdict _ _ _) fun _ => ?_
    refine refuses_bind (refuses_forEach (Gate.checkBound_verdict _ _) _) fun _ => ?_
    refine refuses_bind (requires rfl) fun _ => ?_
    exact refuses_pure _

namespace Decimal

theorem parts_verdict (text : String) : Refuses Verdict (parts text) := by
  unfold parts
  exact refuses_bind (requires rfl) fun _ => refuses_bind (requires rfl) fun _ => refuses_pure _

theorem atMost_verdict (left right : String) : Refuses Verdict (atMost left right) := by
  unfold atMost compare
  refine refuses_bind ?_ fun _ => refuses_pure _
  refine refuses_bind (parts_verdict _) fun _ => refuses_bind (parts_verdict _) fun _ => ?_
  dsimp only
  split
  · exact refuses_pure _
  · exact refuses_pure _

theorem add_verdict (left right : String) : Refuses Verdict (add left right) := by
  unfold add
  refine refuses_bind (parts_verdict _) fun _ => refuses_bind (parts_verdict _) fun _ => ?_
  exact refuses_bind (requires rfl) fun _ => refuses_pure _

end Decimal

namespace Mandate

theorem keyAt_verdict (mandate : Value) (party : String) : Refuses Verdict (keyAt mandate party) := by
  unfold keyAt
  exact refuses_bind (needs rfl) fun _ => KeyId.parse_verdict _

theorem verifyRevocation_verdict (mandates : Members) (revocation : Value) (roots : List KeyId) :
    Refuses Verdict (verifyRevocation ext mandates revocation roots) := by
  unfold verifyRevocation
  refine refuses_bind (Signed.verifySignedObject_verdict _) fun _ => refuses_bind (needs rfl) fun _ => ?_
  exact refuses_bind (needs rfl) fun _ => refuses_bind (requires rfl) fun _ => requires rfl

theorem patterns_verdict (scope : Value) (dimension : String) : Refuses Verdict (patterns scope dimension) := by
  unfold patterns
  exact refuses_bind (needs rfl) fun _ => refuses_mapChecked (fun _ => needs rfl) _

theorem dimensionPermits_verdict (scope : Value) (dimension value : String) :
    Refuses Verdict (dimensionPermits scope dimension value) := by
  unfold dimensionPermits
  exact refuses_bind (patterns_verdict _ _) fun _ => refuses_pure _

theorem budgetWithin_verdict (child parent : Option Value) : Refuses Verdict (budgetWithin child parent) := by
  have within_ : ∀ held entry, Refuses Verdict (capWithin held entry) := by
    intro held entry
    unfold capWithin
    dsimp only
    split
    · exact refuses_ok _
    · split
      · split
        · exact refuses_ok _
        · exact refuses rfl
      · exact Decimal.atMost_verdict _ _
      · exact refuses rfl
  unfold budgetWithin
  split
  · exact refuses_everyChecked (within_ _) _
  · exact refuses_ok _

theorem maxDepthOf_verdict (mandate : Value) : Refuses Verdict (maxDepthOf mandate) := by
  unfold maxDepthOf
  exact refuses_bind (needs rfl) fun _ => refuses_bind (requires rfl) fun _ => refuses_pure _

theorem checkNarrowing_verdict (current parent : Value) {ownMaxDepth : Result Nat} {exhausted : String}
    (own : Refuses Verdict ownMaxDepth) : Refuses Verdict (checkNarrowing current parent ownMaxDepth exhausted) := by
  have subset : ∀ child parent, Refuses Verdict (scopeSubset child parent) := by
    intro child parent
    unfold scopeSubset
    exact refuses_everyChecked (fun _ => refuses_bind (patterns_verdict _ _) fun _ =>
      refuses_bind (patterns_verdict _ _) fun _ => refuses_pure _) _
  have window : ∀ mandate, Refuses Verdict (windowOf mandate) := by
    intro mandate
    unfold windowOf
    exact refuses_bind (needs rfl) fun _ => refuses_bind (needs rfl) fun _ => refuses_pure _
  unfold checkNarrowing
  refine refuses_bind (maxDepthOf_verdict _) fun _ => refuses_bind (requires rfl) fun _ => ?_
  refine refuses_bind own fun _ => ?_
  refine refuses_bind (requires rfl) fun _ => refuses_bind (needs rfl) fun _ => ?_
  refine refuses_bind (needs rfl) fun _ => ?_
  refine refuses_bind (subset _ _) fun _ => refuses_bind (requires rfl) fun _ => ?_
  refine refuses_bind (window _) fun _ => ?_
  refine refuses_bind (window _) fun _ => refuses_bind (requires rfl) fun _ => ?_
  exact refuses_bind (budgetWithin_verdict _ _) fun _ => requires rfl

theorem checkSigner_verdict (current : Value) : Refuses Verdict (checkSigner ext current) := by
  unfold checkSigner
  refine refuses_bind (Signed.verifySignedObject_verdict _) fun _ => ?_
  refine refuses_bind (keyAt_verdict _ _) fun _ => ?_
  refine refuses_bind (requires rfl) fun _ => refuses_bind (keyAt_verdict _ _) fun _ => ?_
  exact refuses_bind (requires rfl) fun _ => refuses_pure _

theorem checkRootGrant_verdict (current : Value) (grantorKey : KeyId) (role : String) (roots : List KeyId) :
    Refuses Verdict (checkRootGrant current grantorKey role roots) := by
  unfold checkRootGrant
  exact refuses_bind (requires rfl) fun _ => refuses_bind (requires rfl) fun _ => requires rfl

theorem checkHeld_verdict (grantorKey : KeyId) (parent : Value) : Refuses Verdict (checkHeld grantorKey parent) := by
  unfold checkHeld
  exact refuses_bind (keyAt_verdict _ _) fun _ => requires rfl

theorem checkScope_verdict (scope : Value) (request : Scoped) : Refuses Verdict (checkScope scope request) := by
  unfold checkScope scopePermits
  split
  · exact refuses_bind (dimensionPermits_verdict _ _ _) fun _ => requires rfl
  · exact refuses_ok _
  · exact refuses_bind (refuses_everyChecked (fun _ => dimensionPermits_verdict _ _ _) _) fun _ => requires rfl

theorem checkLink_verdict (revoked : RevocationIndex) (request : Scoped) (params : VerifyParams)
    (currentRef : String) (current : Value) :
    Refuses Verdict (checkLink ext revoked request params currentRef current) := by
  unfold checkLink checkWindow checkNotRevoked
  refine refuses_bind (checkSigner_verdict _) fun _ => refuses_bind ?_ fun _ => refuses_bind ?_ fun _ => ?_
  · refine refuses_bind (needs rfl) fun _ => refuses_bind (needs rfl) fun _ => ?_
    exact refuses_bind (requires rfl) fun _ => requires rfl
  · split
    · exact requires rfl
    · exact refuses_ok _
  · exact refuses_bind (needs rfl) fun _ => refuses_bind (checkScope_verdict _ _) fun _ => refuses_pure _

theorem checkDelegation_verdict (mandates : Members) (current : Value) (grantorKey : KeyId) (role : String) :
    Refuses Verdict (checkDelegation mandates current grantorKey role) := by
  unfold checkDelegation resolve
  refine refuses_bind (needs rfl) fun _ => refuses_bind (requires rfl) fun _ => ?_
  refine refuses_bind (needs rfl) fun _ => ?_
  refine refuses_bind (checkHeld_verdict _ _) fun _ => ?_
  exact refuses_bind (checkNarrowing_verdict _ _ (maxDepthOf_verdict _)) fun _ => refuses_pure _

theorem walkFrom_verdict (mandates : Members) (revoked : RevocationIndex) (request : Scoped) (params : VerifyParams)
    (depth : Nat) (currentRef : String) (current : Value) :
    Refuses Verdict (walkFrom ext mandates revoked request params depth currentRef current) := by
  induction depth, currentRef, current using walkFrom.induct params with
  | case1 depth currentRef current ih =>
      unfold walkFrom grantorRoleOf
      refine refuses_bind (checkLink_verdict _ _ _ _ _) fun _ => refuses_bind (needs rfl) fun _ => ?_
      refine refuses_bind (needs rfl) fun _ => refuses_ite ?_ (refuses_ite ?_ (refuses rfl))
      · refine refuses_bind (checkRootGrant_verdict _ _ _ _) fun _ => ?_
        exact refuses_bind (needs rfl) fun _ => refuses_pure _
      · refine refuses_bind (checkDelegation_verdict _ _ _ _) fun held => ?_
        dsimp only
        split
        · rename_i more
          exact ih _ _ more
        · exact refuses rfl

theorem walk_verdict (mandates : Members) (leafRef : String) (request : Scoped) (params : VerifyParams) :
    Refuses Verdict (walk ext mandates leafRef request params) := by
  unfold walk resolve
  refine refuses_bind (needs rfl) fun _ => refuses_bind (keyAt_verdict _ _) fun _ => ?_
  refine refuses_bind (requires rfl) fun _ => ?_
  exact walkFrom_verdict _ _ _ _ _ _ _

theorem checkNonce_verdict (text : String) : Refuses Verdict (checkNonce text) := by
  unfold checkNonce
  exact refuses_bind (requires rfl) fun _ => requires rfl

theorem validateScope_verdict (value : Value) : Refuses Verdict (validateScope value) := by
  unfold validateScope
  exact refuses_forEach (fun _ => refuses_bind (patterns_verdict _ _) fun _ =>
    refuses_forEach (fun _ => refuses_bind (requires rfl) fun _ => requires rfl) _) _

theorem checkGrantShape_verdict (mandate : Value) : Refuses Verdict (checkGrantShape ext mandate) := by
  unfold checkGrantShape
  refine refuses_bind (checkSigner_verdict _) fun _ => refuses_bind (keyAt_verdict _ _) fun _ => ?_
  refine refuses_bind (needs rfl) fun _ => refuses_bind (needs rfl) fun _ => ?_
  refine refuses_bind (needs rfl) fun _ => ?_
  refine refuses_bind (requires rfl) fun _ => refuses_bind (requires rfl) fun _ => ?_
  refine refuses_bind (needs rfl) fun _ => ?_
  refine refuses_bind (checkNonce_verdict _) fun _ => refuses_bind (needs rfl) fun _ => ?_
  refine refuses_bind (validateScope_verdict _) fun _ => ?_
  exact refuses_bind (maxDepthOf_verdict _) fun _ => refuses_pure _

theorem verifyGrant_verdict (mandate : Value) (parent : Option Value) (params : GrantParams) :
    Refuses Verdict (verifyGrant ext mandate parent params) := by
  unfold verifyGrant grantorRoleOf
  refine refuses_bind (checkGrantShape_verdict _) fun held => ?_
  refine refuses_bind (needs rfl) fun _ => refuses_bind (needs rfl) fun _ => ?_
  refine refuses_ite ?_ (refuses_ite ?_ (refuses rfl))
  · unfold verifyRootGrant granteeSubject
    refine refuses_bind (checkRootGrant_verdict _ _ _ _) fun _ => refuses_bind (needs rfl) fun _ => ?_
    refine refuses_bind (requires rfl) fun _ => ?_
    split
    · exact requires rfl
    · exact refuses_pure _
  · unfold verifyDelegatedGrant
    refine refuses_bind (requires rfl) fun _ => refuses_bind (requires rfl) fun _ => ?_
    refine refuses_bind (needs rfl) fun _ => ?_
    refine refuses_bind (checkHeld_verdict _ _) fun _ => ?_
    exact checkNarrowing_verdict _ _ (refuses_ok _)

end Mandate

namespace Manifest

theorem validateEvidenceSchema_verdict (entry : String × Value) : Refuses Verdict (validateEvidenceSchema entry) := by
  unfold validateEvidenceSchema
  exact refuses_bind (needs rfl) fun _ => requires rfl

theorem validateAggregateRule_verdict (identifier class_ : String) (rule : Option Value) :
    Refuses Verdict (validateAggregateRule identifier class_ rule) := by
  unfold validateAggregateRule
  split
  · exact requires rfl
  · refine refuses_bind (requires rfl) fun _ => refuses_bind (needs rfl) fun _ => ?_
    exact refuses_bind (requires rfl) fun _ => requires rfl

theorem validateAction_verdict (name : String) (schemas : Members) (value : Value) :
    Refuses Verdict (validateAction name schemas value) := by
  unfold validateAction
  refine refuses_bind (needs rfl) fun _ => ?_
  refine refuses_bind (refuses_forEach (fun _ => requires rfl) _) fun _ => ?_
  refine refuses_bind (refuses_forEach (fun _ => requires rfl) _) fun _ => ?_
  refine refuses_bind (requires rfl) fun _ => ?_
  refine refuses_bind (requires rfl) fun _ => refuses_bind (requires rfl) fun _ => ?_
  refine refuses_bind (requires rfl) fun _ => ?_
  exact refuses_bind (requires rfl) fun _ => validateAggregateRule_verdict _ _ _

theorem validateBudgetDimension_verdict (value : Value) : Refuses Verdict (validateBudgetDimension value) := by
  unfold validateBudgetDimension
  exact requires rfl

theorem validateTransition_verdict (value : Value) : Refuses Verdict (validateTransition ext value) := by
  unfold validateTransition
  refine refuses_bind (needs rfl) fun _ => ?_
  refine refuses_bind (refuses_forEach (fun _ => requires rfl) _) fun _ => ?_
  refine refuses_bind (refuses_forEach (fun _ => requires rfl) _) fun _ => ?_
  refine refuses_bind (requires rfl) fun _ => ?_
  refine refuses_bind (needs rfl) fun _ => refuses_bind (requires rfl) fun _ => ?_
  exact refuses_forEach (fun _ => requires rfl) _

theorem validateDurableObject_verdict (value : Value) : Refuses Verdict (validateDurableObject ext value) := by
  unfold validateDurableObject
  refine refuses_bind (needs rfl) fun _ => ?_
  refine refuses_bind (refuses_forEach (fun _ => requires rfl) _) fun _ => ?_
  refine refuses_bind (refuses_forEach (fun _ => requires rfl) _) fun _ => ?_
  refine refuses_bind (needs rfl) fun _ => ?_
  exact refuses_bind (requires rfl) fun _ => refuses_forEach validateTransition_verdict _

theorem parse_verdict (document : Value) : Refuses Verdict (parse ext document) := by
  unfold parse validateDocument validateDurableObjects
  refine refuses_bind ?_ fun _ => refuses_bind (Jcs.objectHash_refuses ext (of rfl) _) fun _ => refuses_pure _
  refine refuses_bind (needs rfl) fun _ => refuses_bind (refuses_forEach (fun _ => requires rfl) _) fun _ => ?_
  refine refuses_bind (refuses_forEach (fun _ => requires rfl) _) fun _ => ?_
  refine refuses_bind (requires rfl) fun _ => ?_
  refine refuses_bind (requires rfl) fun _ => refuses_bind (Signed.verifySignedObject_verdict _) fun _ => ?_
  refine refuses_bind (needs rfl) fun _ => refuses_bind (requires rfl) fun _ => ?_
  refine refuses_bind (needs rfl) fun _ => ?_
  refine refuses_bind (requires rfl) fun _ => refuses_bind (needs rfl) fun _ => ?_
  refine refuses_bind (refuses_forEach validateEvidenceSchema_verdict _) fun _ => refuses_bind (needs rfl) fun _ => ?_
  refine refuses_bind (requires rfl) fun _ => refuses_bind (refuses_forEach (validateAction_verdict _ _) _) fun _ => ?_
  refine refuses_bind (needs rfl) fun _ => refuses_bind (refuses_forEach validateBudgetDimension_verdict _) fun _ => ?_
  refine refuses_bind (refuses_bind (needs rfl) fun _ => refuses_forEach validateDurableObject_verdict _) fun _ => ?_
  refine refuses_bind (needs rfl) fun _ => ?_
  exact refuses_bind (refuses_forEach (fun _ => requires rfl) _) fun _ => refuses_pure _

theorem checkTransition_verdict (manifest : Manifest) (objectType transition role : String)
    (folded : Option String) : Refuses Verdict (manifest.checkTransition objectType transition role folded) := by
  unfold checkTransition
  refine refuses_bind (needs rfl) fun _ => refuses_bind (needs rfl) fun _ => ?_
  refine refuses_bind (needs rfl) fun _ => ?_
  refine refuses_bind (requires rfl) fun _ => refuses_bind (needs rfl) fun _ => ?_
  refine refuses_bind (requires rfl) fun _ => ?_
  exact needs rfl

end Manifest

theorem Trigger.check_verdict (env : Value) (mandate signal : Option Value) :
    Refuses Verdict (Trigger.check env mandate signal) := by
  unfold Trigger.check
  split
  · exact refuses_ok _
  · refine refuses_bind (needs rfl) fun _ => refuses_bind (requires rfl) fun _ => ?_
    refine refuses_bind (needs rfl) fun _ => ?_
    refine refuses_bind (needs rfl) fun _ => refuses_bind (requires rfl) fun _ => ?_
    refine refuses_bind (needs rfl) fun _ => ?_
    exact requires rfl

namespace Ingest

variable {config : Config}

theorem argsHashOf_verdict (env : Value) : Refuses Verdict (argsHashOf env) := by
  unfold argsHashOf
  exact needs rfl

theorem rootChange_verdict (env : Value) (payloads : List Value) : Refuses Verdict (rootChange env payloads) := by
  have subject : ∀ key, Refuses Verdict (enrolledSubject env payloads key) := by
    intro key
    unfold enrolledSubject
    refine refuses_bind (argsHashOf_verdict env) fun _ => refuses_bind (needs rfl) fun _ => ?_
    refine refuses_bind (requires rfl) fun _ => refuses_bind (needs rfl) fun _ => ?_
    refine refuses_bind (requires rfl) fun _ => ?_
    exact refuses_pure _
  unfold rootChange
  refine refuses_bind (needs rfl) fun _ => refuses_bind (refuses_mapError fun _ => of rfl) fun _ => ?_
  exact refuses_ite (refuses_bind (subject _) fun _ => refuses_pure _) (refuses_pure _)

theorem streamResume_verdict (env : Value) (payloads : List Value) : Refuses Verdict (streamResume env payloads) := by
  unfold streamResume
  refine refuses_bind (needs rfl) fun _ => refuses_bind (argsHashOf_verdict env) fun _ => ?_
  refine refuses_bind (needs rfl) fun _ => ?_
  refine refuses_bind (needs rfl) fun _ => refuses_bind (refuses_forEach (fun _ => requires rfl) _) fun _ => ?_
  refine refuses_bind (needs rfl) fun _ => refuses_bind (requires rfl) fun _ => ?_
  refine refuses_bind (needs rfl) fun _ => ?_
  exact refuses_bind (needs rfl) fun _ => refuses_bind (needs rfl) fun _ => refuses_pure _

theorem validateAggregateWindow_verdict (env : Value) (policy : Policy) :
    Refuses Verdict (validateAggregateWindow env policy) := by
  unfold validateAggregateWindow
  refine refuses_bind (needs rfl) fun _ => refuses_bind (needs rfl) fun _ => ?_
  refine refuses_bind (requires rfl) fun _ => ?_
  exact refuses_bind (Clock.shift_verdict _ _) fun _ => requires rfl

theorem collectPayloads_verdict (env : Value) (payloads : List Value) (policy : Policy) (class_ : Option String)
    (plan : AppendPlan) : Refuses Verdict (collectPayloads env payloads policy class_ plan) := by
  have octets : ∀ mediaType body, Refuses Verdict (payloadOctets mediaType body) := by
    intro mediaType body
    unfold payloadOctets Payload.hexDecode
    refine refuses_ite (refuses_bind (Jcs.canonicalize_verdict _) fun _ => refuses_pure _) ?_
    exact refuses_bind (needs rfl) fun _ => refuses_pure _
  have each : ∀ emittedAt plan payload, Refuses Verdict (collectPayload env emittedAt plan payload) := by
    intro emittedAt plan payload
    unfold collectPayload
    refine refuses_bind (needs rfl) fun _ => refuses_bind (needs rfl) fun _ => ?_
    refine refuses_bind (octets _ _) fun _ => ?_
    exact refuses_pure _
  unfold collectPayloads
  dsimp only
  split
  · split
    · refine refuses_bind (needs rfl) fun _ => refuses_bind (policy.retentionCeiling_verdict _ _) fun _ => ?_
      exact refuses_bind (requires rfl) fun _ => refuses_foldChecked (each _) _ _
    · exact refuses_pure _
  · exact refuses_foldChecked (each _) _ _

theorem effectRequests_verdict (env : Value) : Refuses Verdict (effectRequests env) := by
  unfold effectRequests
  refine refuses_ite ?_ ?_
  · exact refuses_bind (needs rfl) fun _ => refuses_bind (requires rfl) fun _ => refuses_pure _
  · exact refuses_bind (needs rfl) fun _ => refuses_bind (needs rfl) fun _ => refuses_pure _

theorem classifyEnvelope_verdict (store : Store) (env : Value) (policy : Policy) (requests : List (String × String)) :
    Refuses Verdict (classifyEnvelope ext store env policy requests) := by
  have manifest : ∀ component, Refuses Verdict (latestManifest ext store component) := by
    intro component
    unfold latestManifest
    split
    · exact refuses_ok _
    · exact refuses_bind (Manifest.parse_verdict _) fun _ => refuses_pure _
  unfold classifyEnvelope
  exact refuses_bind (manifest _) fun _ => refuses_bind (requires rfl) fun _ => refuses_pure _

theorem mandateRefOf_verdict (env : Value) : Refuses Verdict (mandateRefOf env) := by
  unfold mandateRefOf
  exact needs rfl

theorem walkEffect_verdict (store : Store) (env : Value) (policy : Policy) (roots : List KeyId) (subjectKey : KeyId)
    (requests : List (String × String)) :
    Refuses Verdict (walkEffect ext store env policy roots subjectKey requests) := by
  unfold walkEffect
  refine refuses_bind (mandateRefOf_verdict env) fun _ => ?_
  unfold walkRequests Mandate.verifyMandateChain
  exact refuses_foldChecked (fun _ _ => refuses_bind (Mandate.walk_verdict _ _ _ _) fun _ => refuses_pure _) _ _

theorem walkMandateWithDepth_verdict (store : Store) (env : Value) (roots : List KeyId) (subjectKey : KeyId)
    (at_ : String) (maxDepth : Nat) (request : Mandate.MandateRequest) :
    Refuses Verdict (walkMandateWithDepth ext store env roots subjectKey at_ maxDepth request) := by
  unfold walkMandateWithDepth Mandate.verifyMandateChain
  refine refuses_bind (mandateRefOf_verdict env) fun _ => ?_
  exact refuses_bind (Mandate.walk_verdict _ _ _ _) fun _ => refuses_pure _

theorem walkMandateForResource_verdict (store : Store) (env : Value) (roots : List KeyId) (subjectKey : KeyId)
    (at_ : String) (policy : Policy) (resource : String) :
    Refuses Verdict (walkMandateForResource ext store env roots subjectKey at_ policy resource) := by
  unfold walkMandateForResource Mandate.verifyMandateChainForResource
  refine refuses_bind (mandateRefOf_verdict env) fun _ => ?_
  exact refuses_bind (Mandate.walk_verdict _ _ _ _) fun _ => refuses_pure _

theorem validateTrigger_verdict (store : Store) (env : Value) : Refuses Verdict (validateTrigger store env) := by
  unfold validateTrigger
  split
  · exact refuses_ok _
  · exact Trigger.check_verdict _ _ _

theorem validatePolicyChange_verdict (store : Store) (env : Value) (payloads : List Value) (plan : AppendPlan) :
    Refuses Verdict (validatePolicyChange ext config store env payloads plan) := by
  unfold validatePolicyChange
  refine refuses_bind (argsHashOf_verdict env) fun _ => refuses_bind (needs rfl) fun _ => ?_
  refine refuses_bind (Jcs.objectHash_refuses ext (of rfl) _) fun _ => refuses_bind (requires rfl) fun _ => ?_
  refine refuses_bind (Policy.parse_verdict _ _) fun _ => refuses_bind (requires rfl) fun _ => ?_
  exact refuses_bind (requires rfl) fun _ => refuses_pure _

theorem validateRegistration_verdict (store : Store) (env : Value) (payloads : List Value) (plan : AppendPlan) :
    Refuses Verdict (validateRegistration ext store env payloads plan) := by
  unfold validateRegistration
  refine refuses_bind (argsHashOf_verdict env) fun _ => refuses_bind (needs rfl) fun _ => ?_
  refine refuses_bind (Manifest.parse_verdict _) fun _ => refuses_bind (requires rfl) fun _ => ?_
  refine refuses_bind (requires rfl) fun _ => refuses_bind (requires rfl) fun _ => ?_
  refine refuses_bind (requires rfl) fun _ => ?_
  exact refuses_pure _

theorem validateAction_verdict (store : Store) (env : Value) (payloads : List Value) (roots : List KeyId)
    (subjectKey : KeyId) (plan : AppendPlan) :
    Refuses Verdict (validateAction ext store env payloads roots subjectKey plan) := by
  have changed : Refuses Verdict (validateRootChange env payloads roots subjectKey plan) := by
    unfold validateRootChange
    refine refuses_bind (requires rfl) fun _ => refuses_bind (rootChange_verdict env payloads) fun change => ?_
    cases change with
    | enrol key subject => exact refuses_pure _
    | retire key => exact refuses_pure _
  unfold validateAction
  split
  · exact validateRegistration_verdict _ _ _ _
  · exact changed
  · exact changed
  · exact refuses_bind (streamResume_verdict env payloads) fun _ => refuses_pure _
  · exact refuses_ok _

theorem validateCommitment_verdict (store : Store) (env : Value) (manifest : Option Manifest) (subject : String) :
    Refuses Verdict (validateCommitment store env manifest subject) := by
  unfold validateCommitment foldedState
  split
  · exact refuses_ok _
  · refine refuses_bind (needs rfl) fun _ => refuses_bind (needs rfl) fun _ => ?_
    refine refuses_bind (needs rfl) fun _ => ?_
    refine refuses_bind (needs rfl) fun manifest => ?_
    refine refuses_bind (refuses_foldChecked (fun _ _ => ?_) _ _) fun _ => ?_
    · exact refuses_bind (manifest.checkTransition_verdict _ _ _ _) fun _ => refuses_pure _
    · exact refuses_bind (manifest.checkTransition_verdict _ _ _ _) fun _ => refuses_pure _

theorem gateEffect_verdict (store : Store) (env : Value) (policy : Policy) (effective : String) (plan : AppendPlan) :
    Refuses Verdict (gateEffect ext store env policy effective plan) := by
  have verified : ∀ decision spent, Refuses Verdict ((authorize ext store env decision spent).mapError
      (nameSpender spent)) := by
    intro decision spent e failed
    cases given : authorize ext store env decision spent with
    | error refusal =>
        rw [given] at failed
        cases failed
        unfold Verdict
        rw [nameSpender_code]
        exact Gate.verifyAuthorization_verdict env _ _ _ refusal given
    | ok answer =>
        rw [given] at failed
        cases failed
  have applied : ∀ plan (verified : Result (Option Gate.AuthorizationOk)), Refuses Verdict verified →
      Refuses Verdict (applyGate env (isApplied env) plan verified) := by
    intro plan verified judged
    unfold applyGate
    split
    · exact refuses_ok _
    · exact refuses_ok _
    · rename_i e
      exact refuses_ite (refuses_ok _) (refuses_error (judged e rfl))
  unfold gateEffect
  refine refuses_bind (Envelope.whenPresent_verdict GateQueue.validateEmbedded_verdict) fun _ => ?_
  exact applied _ _ (verified _ _)

theorem validateEffectKind_verdict (store : Store) (env : Value) (policy : Policy) (roots : List KeyId)
    (subjectKey : KeyId) (plan : AppendPlan) (payloads : List Value) :
    Refuses Verdict (validateEffectKind ext config store env policy roots subjectKey plan payloads) := by
  have window : Refuses Verdict (checkAggregate env policy) := by
    unfold checkAggregate
    exact refuses_ite (validateAggregateWindow_verdict env policy) (refuses_ok _)
  have changed : ∀ plan, Refuses Verdict (projectPolicy ext config store env payloads plan) := by
    intro plan
    unfold projectPolicy
    exact refuses_ite (validatePolicyChange_verdict _ _ _ _) (refuses_ok _)
  have projected : ∀ plan, Refuses Verdict (projectEffect ext config store env payloads roots subjectKey plan) := by
    intro plan
    unfold projectEffect
    refine refuses_bind (changed plan) fun _ => refuses_bind (validateAction_verdict _ _ _ _ _ _) fun _ => ?_
    exact refuses_pure _
  unfold validateEffectKind
  refine refuses_bind (effectRequests_verdict env) fun _ => ?_
  refine refuses_bind (classifyEnvelope_verdict _ _ _ _) fun _ => ?_
  refine refuses_bind (walkEffect_verdict _ _ _ _ _ _) fun _ => ?_
  refine refuses_bind (validateTrigger_verdict _ _) fun _ => ?_
  refine refuses_bind window fun _ => refuses_bind (projected _) fun _ => ?_
  refine refuses_bind (validateCommitment_verdict _ _ _ _) fun _ => ?_
  refine refuses_bind (gateEffect_verdict _ _ _ _ _) fun _ => ?_
  exact collectPayloads_verdict _ _ _ _ _

theorem projectMandate_verdict (mandate : Value) (plan : AppendPlan) :
    Refuses Verdict (projectMandate ext mandate plan) := by
  unfold projectMandate
  exact refuses_bind (Signed.objectId_verdict _) fun _ => refuses_pure _

theorem validateMandateGrant_verdict (store : Store) (env : Value) (policy : Policy) (roots : List KeyId)
    (plan : AppendPlan) : Refuses Verdict (validateMandateGrant ext store env policy roots plan) := by
  have parent : ∀ mandate, Refuses Verdict (grantParent store mandate) := by
    intro mandate
    unfold grantParent
    split
    · exact refuses_bind (needs rfl) fun _ => refuses_pure _
    · exact refuses_ok _
  unfold validateMandateGrant Policy.standingLifetimeCeiling
  refine refuses_bind (needs rfl) fun _ => refuses_bind (needs rfl) fun _ => refuses_bind (parent _) fun _ => ?_
  refine refuses_bind ?_ fun _ => refuses_bind (Mandate.verifyGrant_verdict _ _ _) fun _ => ?_
  · exact Clock.addDuration_verdict _ _
  · exact projectMandate_verdict _ _

theorem validateRevocation_verdict (store : Store) (env : Value) (roots : List KeyId) (plan : AppendPlan) :
    Refuses Verdict (validateRevocation ext store env roots plan) := by
  unfold validateRevocation
  refine refuses_bind (needs rfl) fun _ => refuses_bind (refuses_forEach (fun _ => requires rfl) _) fun _ => ?_
  refine refuses_bind (needs rfl) fun _ => refuses_bind (requires rfl) fun _ => ?_
  refine refuses_bind (needs rfl) fun _ => ?_
  refine refuses_bind (Clock.parseTimestamp_verdict _) fun _ => ?_
  refine refuses_bind (Mandate.verifyRevocation_verdict _ _ _) fun _ => ?_
  exact refuses_bind (Signed.objectId_verdict _) fun _ => refuses_pure _

theorem validateGateDecision_verdict (store : Store) (env : Value) (roots : List KeyId) (policy : Policy)
    (at_ : String) (plan : AppendPlan) :
    Refuses Verdict (validateGateDecision ext store env roots policy at_ plan) := by
  have given : ∀ decision, Refuses Verdict (checkDecisionVerdict decision) := by
    intro decision
    unfold checkDecisionVerdict
    split
    · exact refuses_ok _
    · exact requires rfl
    · exact refuses rfl
  have queued : ∀ decision request, Refuses Verdict (decideQueued ext store decision request at_ plan) := by
    intro decision request
    unfold decideQueued
    refine refuses_bind (GateQueue.validate_verdict _ _) fun _ => ?_
    refine refuses_bind (GateQueue.checkDecision_verdict _ _) fun _ => refuses_bind (requires rfl) fun _ => ?_
    exact refuses_pure _
  unfold validateGateDecision
  refine refuses_bind (needs rfl) fun _ => refuses_bind (requires rfl) fun _ => ?_
  split
  · exact refuses_pure _
  · refine refuses_bind (refuses_mapError fun _ => of rfl) fun _ => refuses_bind (requires rfl) fun _ => ?_
    refine refuses_bind (given _) fun _ => refuses_bind (requires rfl) fun _ => ?_
    split
    · exact queued _ _
    · exact refuses_pure _

theorem validateCheckpoint_verdict (store : Store) (env : Value) (plan : AppendPlan) :
    Refuses Verdict (validateCheckpoint ext config store env plan) := by
  have claim : ∀ body, Refuses Verdict (checkpointClaim body) := by
    intro body
    unfold checkpointClaim
    refine refuses_bind (needs rfl) fun _ => refuses_bind (needs rfl) fun _ => ?_
    refine refuses_bind (needs rfl) fun _ => ?_
    refine refuses_bind (needs rfl) fun _ => refuses_bind (needs rfl) fun _ => ?_
    refine refuses_bind (needs rfl) fun _ => ?_
    exact refuses_pure _
  unfold validateCheckpoint
  refine refuses_bind (needs rfl) fun _ => refuses_bind (refuses_forEach (fun _ => requires rfl) _) fun _ => ?_
  refine refuses_bind (requires rfl) fun _ => refuses_bind (claim _) fun _ => ?_
  refine refuses_bind (Clock.parseTimestamp_verdict _) fun _ => refuses_bind (requires rfl) fun _ => ?_
  refine refuses_bind (requires rfl) fun _ => refuses_bind (needs rfl) fun _ => ?_
  refine refuses_bind (Signed.objectId_verdict _) fun _ => refuses_bind (requires rfl) fun _ => ?_
  exact refuses_pure _

theorem validateCognition_verdict (store : Store) (env : Value) (policy : Policy) (roots : List KeyId)
    (subjectKey : KeyId) (plan : AppendPlan) :
    Refuses Verdict (validateCognition ext store env policy roots subjectKey plan) := by
  unfold validateCognition resourceOf
  refine refuses_bind ?_ fun _ => ?_
  · split
    · exact refuses_ok _
    · exact refuses rfl
  · exact refuses_bind (walkMandateForResource_verdict _ _ _ _ _ _ _) fun _ => refuses_pure _

theorem validateGenesis_verdict (store : Store) (env : Value) (roots : List KeyId) (subjectKey : KeyId)
    (plan : AppendPlan) (payloads : List Value) :
    Refuses Verdict (validateGenesis ext config store env roots subjectKey plan payloads) := by
  have refused : Verdict (genesisRefusal config) := by
    unfold genesisRefusal
    exact of rfl
  unfold validateGenesis
  refine refuses_bind (refuses_require refused) fun _ => refuses_ite ?_ (refuses_ite ?_ (refuses_error refused))
  · unfold validateGenesisMandate
    refine refuses_bind (needs rfl) fun _ => refuses_bind (refuses_require refused) fun _ => ?_
    exact refuses_bind (Mandate.verifyGrant_verdict _ _ _) fun _ => projectMandate_verdict _ _
  · unfold validateGenesisPolicy
    refine refuses_bind (requires rfl) fun _ => refuses_bind (validatePolicyChange_verdict _ _ _ _) fun _ => ?_
    refine refuses_bind (walkMandateWithDepth_verdict _ _ _ _ _ _ _) fun _ => ?_
    refine refuses_bind (Gate.verifyAuthorization_verdict _ _ _ _) fun _ => refuses_bind (needs rfl) fun _ => ?_
    exact refuses_pure _

theorem validateKind_verdict (store : Store) (env : Value) (policy : Policy) (roots : List KeyId)
    (subjectKey : KeyId) (plan : AppendPlan) (payloads : List Value) :
    Refuses Verdict (validateKind ext config store env policy roots subjectKey plan payloads) := by
  unfold validateKind
  dsimp only
  refine refuses_ite (validateEffectKind_verdict _ _ _ _ _ _ _) (refuses_ite ?_ (refuses_ite ?_ ?_))
  · exact validateCognition_verdict _ _ _ _ _ _
  · exact collectPayloads_verdict _ _ _ _ _
  · refine refuses_ite (validateMandateGrant_verdict _ _ _ _ _) (refuses_ite ?_ (refuses_ite ?_ ?_))
    · exact validateRevocation_verdict _ _ _ _
    · exact validateGateDecision_verdict _ _ _ _ _ _
    · exact refuses_ite (validateCheckpoint_verdict _ _ _) (refuses rfl)

/-- Validation refuses an object for what it is, never for its place and never for the kernel's own trouble. -/
theorem assess_verdict (store : Store) (received : Received) (receivedAt : String) :
    Refuses Verdict (assess ext config store received receivedAt) := by
  have inForce : Refuses Verdict (policyInForce ext config store) := by
    unfold policyInForce
    split
    · exact refuses_ok _
    · exact refuses_bind (Policy.parse_verdict _ _) fun _ => refuses_pure _
  have planned : Refuses Verdict (planEnvelope ext config store received.env received.payloads received.id
      received.canonicalJson receivedAt) := by
    unfold planEnvelope checkNoAuthorization
    refine refuses_bind (Signed.verifySignedObject_verdict _) fun _ => ?_
    refine refuses_bind (Envelope.validate_verdict _) fun _ => ?_
    refine refuses_bind (Clock.shift_verdict _ _) fun _ => ?_
    refine refuses_bind (requires rfl) fun _ => refuses_bind (Payload.verifyIngest_verdict _ _) fun _ => ?_
    refine refuses_bind inForce fun policy => ?_
    cases policy with
    | none => exact validateGenesis_verdict _ _ _ _ _ _
    | some policy =>
        refine refuses_bind (validateKind_verdict _ _ _ _ _ _ _) fun _ => ?_
        refine refuses_bind (requires rfl) fun _ => ?_
        exact refuses_pure _
  unfold assess
  exact refuses_bind planned fun _ => refuses_pure _

end Ingest

end Stozher
