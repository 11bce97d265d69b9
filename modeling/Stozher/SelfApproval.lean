import Stozher.SingleUse
import Stozher.Deployment

namespace Stozher

open Library Ingest

variable {ext : External} {config : Config}

namespace Store

/-- A subject a key is known under at an instant: the one it is enrolled under as a root, or one it
holds a live mandate under. -/
def NamedAs (store : Store) (key : KeyId) (at_ subject : String) : Prop :=
  (key, subject) ∈ store.rootsAt at_ ∨
    ∃ row ∈ store.mandates, row.granteeKey = key.text ∧ row.granteeSubject = subject ∧
      liveAt at_ row = true

/-- The requesting subject is no name of the key besides the one it was looked up under. -/
def OnlyLookedUp (store : Store) (key : KeyId) (at_ : String) (lookedUp : Option String)
    (requester : String) : Prop :=
  ∀ subject, store.NamedAs key at_ subject → lookedUp ≠ some subject → subject ≠ requester

/-- A check of one name rules out every name, where the requester goes by no other. -/
theorem not_namedAs_iff {store : Store} {key : KeyId} {at_ requester : String}
    {lookedUp : Option String} (checked : lookedUp ≠ some requester) :
    ¬ store.NamedAs key at_ requester ↔ store.OnlyLookedUp key at_ lookedUp requester := by
  constructor
  · intro unnamed subject named _ same
    subst same
    exact unnamed named
  · intro only named
    exact only requester named checked rfl

end Store

namespace GateQueue

theorem text_eq_ok {map : Members} {name value : String} (read : text map name = .ok value) :
    (map.get name).bind Value.asStr = some value := by
  unfold text at read
  simp only [bind_eq_ok, okOr_eq_ok] at read
  obtain ⟨member, found, isText⟩ := read
  rw [found]
  exact isText

/-- What a request says, once it is validated. -/
structure Validated (ext : External) (request : Value) (queued : GateRequest) : Prop where
  subject : request.getStr "subject" = some queued.subject
  subjectKey : request.getStr "key" = some queued.subjectKey
  component : request.getStr "component" = some queued.component
  mandateRef : request.getStr "mandate-ref" = some queued.mandateRef
  policyVersion : request.getStr "policy-version" = some queued.policyVersion
  classification : request.getStr "classification" = some queued.classification
  action : request.getStr "action" = some queued.action
  target : request.getStr "target" = some queued.target
  argsHash : request.getStr "args-hash" = some queued.argsHash
  requestedAt : request.getStr "requested-at" = some queued.requestedAt
  notAfter : request.getStr "not-after" = some queued.notAfter
  dated : ∃ millis, Clock.parseTimestamp queued.notAfter = .ok millis
  kept : queued.request = request
  hashed : Jcs.objectHash ext request = .ok queued.requestHash

theorem validate_eq_ok {request : Value} {at_ : String} {queued : GateRequest}
    (valid : validate ext request at_ = .ok queued) : Validated ext request queued := by
  unfold validate at valid
  simp only [bind_eq_ok, okOr_eq_ok, require_eq_ok, pure_eq_ok, exists_and_left, exists_const] at valid
  obtain ⟨map, object, _, _, _, _, _, _, _, _, subject, isSubject, _, raw, isRaw, key, isKey, classification,
    isClassification, _, mandateRef, isMandateRef, argsHash, isArgsHash, _, _, _, _, _, _, component, isComponent,
    policyVersion, isPolicyVersion, action, isAction, target, isTarget, _, _, requestedAt, isRequestedAt, notAfter,
    isNotAfter, _, _, millis, parsed, _, _, hash, hashed, rfl⟩ := valid
  have isObject := Envelope.asObject_eq_some object
  subst isObject
  have read : ∀ {name value : String}, text map name = .ok value → (Value.object map).getStr name = some value :=
    text_eq_ok
  constructor
  case subject => exact read isSubject
  case subjectKey => exact KeyId.parse_text isKey ▸ read isRaw
  case component => exact read isComponent
  case mandateRef => exact read isMandateRef
  case policyVersion => exact read isPolicyVersion
  case classification => exact read isClassification
  case action => exact read isAction
  case target => exact read isTarget
  case argsHash => exact read isArgsHash
  case requestedAt => exact read isRequestedAt
  case notAfter => exact read isNotAfter
  case dated => exact ⟨millis, parsed⟩
  case kept => rfl
  case hashed => exact hashed

/-- What a decision is found to say, once it is checked against a request. -/
structure Decided (ext : External) (decision : Value) (queued : GateRequest) (checked : GateDecision) : Prop where
  kind : decision.getStr "kind" = some "gate-decision"
  covers : decision.getStr "request-hash" = some queued.requestHash
  requestHash : checked.requestHash = queued.requestHash
  signed : Signed.verifySignedObject ext decision = .ok checked.decidedBy
  otherKey : checked.decidedBy.text ≠ queued.subjectKey
  window : ∃ decidedAt notAfter first last, decision.getStr "decided-at" = some decidedAt ∧
    decision.getStr "not-after" = some notAfter ∧ Clock.parseTimestamp decidedAt = .ok first ∧
    Clock.parseTimestamp notAfter = .ok last ∧ decidedAt ≤ queued.notAfter
  kept : checked.decision = decision
  verdict : decision.getStr "decision" = some checked.verdict

theorem checkDecision_eq_ok {decision : Value} {queued : GateRequest} {checked : GateDecision}
    (valid : checkDecision ext decision queued = .ok checked) : Decided ext decision queued checked := by
  unfold checkDecision at valid
  simp only [bind_eq_ok, okOr_eq_ok, require_eq_ok, mapError_eq_ok, pure_eq_ok] at valid
  obtain ⟨_, kind, _, covers, decidedBy, signed, _, otherKey, decidedAt, isDecidedAt, notAfter, isNotAfter, first,
    parsed, last, ends, verdict, answer, _, _, _, early, _, _, rfl⟩ := valid
  exact ⟨kind, covers, rfl, signed, otherKey,
    ⟨decidedAt, notAfter, first, last, isDecidedAt, isNotAfter, parsed, ends, early⟩, rfl, answer⟩

end GateQueue

namespace Ingest

variable {store : Store} {env : Value} {policy : Policy} {roots : List KeyId} {plan next : AppendPlan}

/-- An answer to a parked request, checked against the request and against who gave it. -/
structure Answered (ext : External) (store : Store) (at_ : String) (row : GateDecisionRow)
    (request : Value) (key : KeyId) : Prop where
  parked : ∃ submitter, store.gateRequest row.requestHash = some (request, submitter)
  hashed : Jcs.objectHash ext request = .ok row.requestHash
  signed : Signed.verifySignedObject ext row.decision = .ok key
  decidedBy : row.decidedBy = key.text
  answer : row.decision.getStr "decision" = some row.verdict
  otherSubject : subjectOf store key at_ ≠ request.getStr "subject"

theorem decideQueued_answered {decision request : Value} {at_ decisionOf submitter : String}
    (parked : store.gateRequest decisionOf = some (request, submitter))
    (covers : decision.getStr "request-hash" = some decisionOf)
    (valid : decideQueued ext store decision request at_ plan = .ok next) :
    ∃ row key, next.projections.gateDecision = some row ∧ Answered ext store at_ row request key := by
  unfold decideQueued at valid
  simp only [bind_eq_ok, require_eq_ok, pure_eq_ok] at valid
  obtain ⟨queued, known, checked, decided, _, different, rfl⟩ := valid
  have validated := GateQueue.validate_eq_ok known
  have answers := GateQueue.checkDecision_eq_ok decided
  have named : checked.requestHash = decisionOf := by
    have hash := answers.covers
    rw [covers, Option.some.injEq] at hash
    rw [answers.requestHash, hash]
  refine ⟨_, checked.decidedBy, rfl, ⟨⟨submitter, ?_⟩, ?_, ?_, rfl, ?_, ?_⟩⟩
  · rw [named]
    exact parked
  · rw [answers.requestHash]
    exact validated.hashed
  · rw [answers.kept]
    exact answers.signed
  · rw [answers.kept]
    exact answers.verdict
  · rw [validated.subject]
    exact different

theorem validateGateDecision_answered {at_ : String} {row : GateDecisionRow}
    (valid : validateGateDecision ext store env roots policy at_ plan = .ok next)
    (begins : plan.projections.gateDecision = none)
    (recorded : next.projections.gateDecision = some row) :
    ∃ request key, Answered ext store at_ row request key := by
  unfold validateGateDecision at valid
  simp only [bind_eq_ok] at valid
  obtain ⟨decisionOf, _, _, _, valid⟩ := valid
  split at valid
  · cases valid
    rw [begins] at recorded
    cases recorded
  · rename_i decision carried
    simp only [bind_eq_ok, require_eq_ok] at valid
    obtain ⟨signer, _, _, covers, _, _, _, _, valid⟩ := valid
    split at valid
    · rename_i request submitter parked
      obtain ⟨other, key, isRow, answered⟩ := decideQueued_answered parked covers valid
      rw [isRow] at recorded
      cases recorded
      exact ⟨request, key, answered⟩
    · cases valid
      rw [begins] at recorded
      cases recorded

/-- A decision is recorded only by an answer to a parked request. -/
theorem Admitted.answered {raw : Octets} {receivedAt : String} {subjectKey : KeyId}
    {payloads : List Value} {row : GateDecisionRow}
    (admitted : Admitted ext config store raw receivedAt plan subjectKey payloads)
    (recorded : plan.projections.gateDecision = some row) :
    ∃ request key, Answered ext store (emittedAt plan.envelope) row request key := by
  have unanswered : (planOf plan).projections.gateDecision = none := rfl
  have absent : plan.projections.gateDecision ≠ none := by
    rw [recorded]
    exact Option.some_ne_none row
  cases admitted.rule with
  | genesis unpublished valid =>
      rcases validateGenesis_cases valid with ⟨_, ⟨_, _, valid⟩ | ⟨_, _, valid⟩⟩
      · obtain ⟨_, _, _, _, _, _, same⟩ := validateGenesisMandate_eq_ok valid
        exact absurd (congrArg (·.projections.gateDecision) same) absent
      · obtain ⟨changed, _, _, change, _, same⟩ := validateGenesisPolicy_eq_ok valid
        obtain ⟨_, _, _, _, _, _, _, _, rfl⟩ := validatePolicyChange_eq_ok change
        exact absurd (congrArg (·.projections.gateDecision) same) absent
  | inForce policy published admits unauthorized =>
      cases admits with
      | effect kind valid => exact absurd (validateEffectKind_other valid).gateDecision absent
      | cognition kind valid =>
          obtain ⟨_, _, _, _, _, same, _⟩ := validateCognition_eq_ok valid
          exact absurd (congrArg Projections.gateDecision same) absent
      | signal kind valid =>
          have same := (collectPayloads_same valid).2.1
          exact absurd (congrArg Projections.gateDecision same) absent
      | mandate kind valid =>
          obtain ⟨_, _, _, _, _, _, _, _, same⟩ := validateMandateGrant_eq_ok valid
          exact absurd (congrArg (·.projections.gateDecision) same) absent
      | revocation kind valid =>
          obtain ⟨_, _, _, _, _, _, _, _, _, _, same⟩ := validateRevocation_eq_ok valid
          exact absurd (congrArg (·.projections.gateDecision) same) absent
      | gateDecision kind valid => exact validateGateDecision_answered valid unanswered recorded
      | checkpoint kind valid =>
          obtain ⟨_, _, _, _, _, _, _, _, same⟩ := validateCheckpoint_eq_ok valid
          exact absurd (congrArg (·.projections.gateDecision) same) absent

/-- The subject an approval is checked under: the first the deciding key is listed under. -/
def listedSubject (approvers : List Gate.Approver) (key : KeyId) : Option String :=
  (approvers.find? fun candidate => candidate.key == key).bind Gate.Approver.subject

theorem Authorized.checked {approvers : List Gate.Approver} {ok : Gate.AuthorizationOk}
    (authorized : Authorized ext config store env approvers ok) {request decision : Value} {key : KeyId}
    {requester : String} (carries : Gate.Carries env request decision)
    (signed : Signed.verifySignedObject ext decision = .ok key)
    (requested : request.getStr "subject" = some requester) :
    listedSubject approvers key ≠ some requester := by
  obtain ⟨required, seen, verified⟩ := authorized.verified
  obtain ⟨other, otherDecision, approver, approved, found, notSubject, _⟩ :=
    Gate.verifyAuthorization_some verified
  obtain ⟨rfl, rfl⟩ := carries.unique approved.carried
  have same : key = ok.decidedBy := Except.ok.inj (signed.symm.trans approved.signed)
  subst same
  intro listed
  unfold listedSubject at listed
  rw [found, Option.bind_some] at listed
  exact notSubject requester listed requested

end Ingest

namespace World

variable {world : World}

/-- Nobody's request is approved or answered under one of the names of the deciding key exactly when the
requester is no name of the key besides the one the check looks up. -/
theorem self_approval_iff (reached : (kernel ext config).Reachable world) {taken : Accepted}
    (member : taken ∈ world.accepted) :
    (∀ request decision key requester, isApplied taken.plan.envelope = true →
        Gate.Carries taken.plan.envelope request decision →
        Signed.verifySignedObject ext decision = .ok key → request.getStr "subject" = some requester →
        ∃ approvers, Consulted ext config taken.snapshot taken.plan.envelope approvers ∧
          (¬ taken.snapshot.NamedAs key (emittedAt taken.plan.envelope) requester ↔
            taken.snapshot.OnlyLookedUp key (emittedAt taken.plan.envelope) (listedSubject approvers key)
              requester)) ∧
      ∀ row, taken.plan.projections.gateDecision = some row →
        ∃ request submitter key, taken.snapshot.gateRequest row.requestHash = some (request, submitter) ∧
          Signed.verifySignedObject ext row.decision = .ok key ∧ row.decidedBy = key.text ∧
          ∀ requester, request.getStr "subject" = some requester →
            (¬ taken.snapshot.NamedAs key (emittedAt taken.plan.envelope) requester ↔
              taken.snapshot.OnlyLookedUp key (emittedAt taken.plan.envelope)
                (subjectOf taken.snapshot key (emittedAt taken.plan.envelope)) requester) := by
  obtain ⟨before, after, at_⟩ := (traced reached).accepted taken member
  obtain ⟨subjectKey, payloads, admitted⟩ := at_.origin.admitted
  constructor
  · intro request decision key requester applied carries signed requested
    have carried : taken.plan.envelope.get "authorization" ≠ none := by
      obtain ⟨authorization, has, _⟩ := carries
      rw [has]
      exact Option.some_ne_none authorization
    obtain ⟨approvers, ok, authorized, _⟩ := admitted.authorized applied carried
    exact ⟨approvers, authorized.consulted,
      Store.not_namedAs_iff (authorized.checked carries signed requested)⟩
  · intro row recorded
    obtain ⟨request, key, answered⟩ := admitted.answered recorded
    obtain ⟨submitter, parked⟩ := answered.parked
    refine ⟨request, submitter, key, parked, answered.signed, answered.decidedBy, ?_⟩
    intro requester requested
    apply Store.not_namedAs_iff
    rw [← requested]
    exact answered.otherSubject

end World

end Stozher

namespace Stozher.Deployment

open Library Ingest World

theorem policy_change_approved_by_another :
    ∃ taken ∈ (after founding).accepted, taken.plan.id = policyChange.digest ∧
      ∀ request decision key requester, isApplied taken.plan.envelope = true →
        Gate.Carries taken.plan.envelope request decision →
        Signed.verifySignedObject ext decision = .ok key → request.getStr "subject" = some requester →
        ∃ approvers, Consulted ext config taken.snapshot taken.plan.envelope approvers ∧
          (¬ taken.snapshot.NamedAs key (emittedAt taken.plan.envelope) requester ↔
            taken.snapshot.OnlyLookedUp key (emittedAt taken.plan.envelope) (listedSubject approvers key)
              requester) := by
  have seen := congrArg Observed.taken observed_eq
  dsimp only [observed] at seen
  have inside : policyChange.digest ∈ (after founding).accepted.map fun taken => taken.plan.id := by
    rw [seen]
    exact List.mem_cons_of_mem _ List.mem_cons_self
  obtain ⟨taken, member, isId⟩ := List.mem_map.mp inside
  exact ⟨taken, member, isId, (self_approval_iff (reachable founding) member).1⟩

/-- A root approves its own request under the name it is mandated by. -/
theorem request_approved_by_its_subject :
    (kernel ext config).Reachable (after retiring) ∧
      ∃ taken ∈ (after retiring).accepted, isApplied taken.plan.envelope = true ∧
        Gate.Carries taken.plan.envelope retireRequest.document retireApproval.document ∧
        Signed.verifySignedObject ext retireApproval.document = .ok miraId ∧
        retireRequest.document.getStr "subject" = some "human:ana" ∧
        taken.snapshot.NamedAs miraId (emittedAt taken.plan.envelope) "human:ana" := by
  have seen := congrArg Observed.retired observed_eq
  dsimp only [observed] at seen
  obtain ⟨taken, last, same⟩ := Option.map_eq_some_iff.mp seen
  rw [Prod.mk.injEq, List.any_eq_true] at same
  obtain ⟨envelope, row, held, named⟩ := same
  rw [Bool.and_eq_true, Bool.and_eq_true, beq_iff_eq, beq_iff_eq] at named
  have instant : emittedAt retireEffect.document = twelvePast := by decide +kernel
  refine ⟨reachable _, taken, List.mem_of_getLast? last, ?_, ?_, by decide +kernel, by decide +kernel, ?_⟩
  · rw [envelope]
    decide +kernel
  · rw [envelope]
    exact ⟨.object [("decision", retireApproval.document), ("request", retireRequest.document)],
      by decide +kernel, by decide +kernel, by decide +kernel⟩
  · rw [envelope, instant]
    exact Or.inr ⟨row, held, named.1.1, named.1.2, named.2⟩

end Stozher.Deployment
