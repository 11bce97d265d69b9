import Stozher.ApproverSet
import Stozher.GateAgreement
import Stozher.Deployment
import Stozher.InstantOrder
import Stozher.SelfApproval

namespace Stozher

open Library Ingest

variable {ext : External} {config : Config}

namespace Envelope

variable {text : String}

theorem Timestamp.accepted (timestamp : Timestamp text) : isTimestamp text = true := by
  have digits := fun start stop (listed : (start, stop) ∈ timestampFields) => timestamp.digits _ listed
  have marks := fun position mark (listed : (position, mark) ∈ timestampMarks) => timestamp.marks _ listed
  obtain ⟨month, twelve⟩ := timestamp.month
  obtain ⟨day, days⟩ := timestamp.day
  obtain ⟨hour, minute, second⟩ := timestamp.time
  unfold isTimestamp
  simp only [Bool.and_eq_true, decide_eq_true_eq, beq_iff_eq]
  exact ⟨⟨⟨⟨⟨⟨⟨⟨⟨⟨⟨⟨⟨⟨⟨⟨⟨⟨⟨⟨⟨⟨timestamp.length, digits 0 4 (by decide)⟩, digits 5 7 (by decide)⟩,
    digits 8 10 (by decide)⟩, digits 11 13 (by decide)⟩, digits 14 16 (by decide)⟩, digits 17 19 (by decide)⟩,
    digits 20 23 (by decide)⟩, marks 4 _ (by decide)⟩, marks 7 _ (by decide)⟩, marks 10 _ (by decide)⟩,
    marks 13 _ (by decide)⟩, marks 16 _ (by decide)⟩, marks 19 _ (by decide)⟩, marks 23 _ (by decide)⟩,
    timestamp.year⟩, month⟩, twelve⟩, day⟩, days⟩, hour⟩, minute⟩, second⟩

theorem isTimestamp_of_parse {millis : Int} (parsed : Clock.parseTimestamp text = .ok millis) :
    isTimestamp text = true :=
  (Clock.timestamp_of_parse parsed).accepted

end Envelope

namespace GateQueue

variable {request decision : Value} {at_ : String} {queued : GateRequest} {checked : GateDecision}

/-- What a request reads as, once it is validated. -/
structure Reads (request : Value) (queued : GateRequest) : Prop where
  key : request.getStr "key" = some queued.subjectKey
  requestedAt : request.getStr "requested-at" = some queued.requestedAt
  notAfter : request.getStr "not-after" = some queued.notAfter
  instant : Envelope.isTimestamp queued.notAfter = true

theorem validate_reads (valid : validate ext request at_ = .ok queued) : Reads request queued := by
  have validated := validate_eq_ok valid
  obtain ⟨millis, parsed⟩ := validated.dated
  exact ⟨validated.subjectKey, validated.requestedAt, validated.notAfter, Envelope.isTimestamp_of_parse parsed⟩

/-- What a decision is found to be when it is checked against a request. -/
structure Checked (decision : Value) (queued : GateRequest) (decidedBy : KeyId) : Prop where
  kind : decision.getStr "kind" = some "gate-decision"
  otherKey : decidedBy.text ≠ queued.subjectKey
  window : ∃ decidedAt notAfter first last, decision.getStr "decided-at" = some decidedAt ∧
    decision.getStr "not-after" = some notAfter ∧ Clock.parseTimestamp decidedAt = .ok first ∧
    Clock.parseTimestamp notAfter = .ok last ∧ decidedAt ≤ queued.notAfter

theorem checkDecision_checked (valid : checkDecision ext decision queued = .ok checked) :
    Checked decision queued checked.decidedBy := by
  have decided := checkDecision_eq_ok valid
  exact ⟨decided.kind, decided.otherKey, decided.window⟩

/-- A checked decision has the shape an embedded one must have, but for its version and its further members. -/
theorem validateEmbeddedDecision_iff {map : Members} {decidedBy : KeyId} {hash verdict : String}
    (isObject : decision.asObject = some map) (is : Checked decision queued decidedBy)
    (covers : decision.getStr "request-hash" = some hash) (digest : Crypto.isDigestHex hash = true)
    (answers : decision.getStr "decision" = some verdict) :
    validateEmbeddedDecision decision = .ok () ↔
      decision.getStr "v" = some Envelope.version ∧ ∀ name ∈ map.keys, name ∈ decisionMembers := by
  obtain ⟨decidedAt, notAfter, first, last, isDecidedAt, isNotAfter, parsed, ends, _⟩ := is.window
  have object := Envelope.asObject_eq_some isObject
  subst object
  have text : ∀ {name held : String}, (Value.object map).getStr name = some held →
      ∃ value, map.get name = some value ∧ value.isString = true := by
    intro name held found
    have read : (map.get name).bind Value.asStr = some held := found
    obtain ⟨value, inside, isText⟩ := Option.bind_eq_some_iff.mp read
    refine ⟨value, inside, ?_⟩
    cases value with
    | string other => rfl
    | _ => cases isText
  unfold validateEmbeddedDecision
  simp only [bind_eq_ok, okOr_eq_ok, require_eq_ok, forEach_eq_ok, pure_eq_ok]
  constructor
  · intro ⟨other, same, _, members, _, version, _⟩
    cases same
    exact ⟨version, members⟩
  · intro ⟨version, members⟩
    refine ⟨map, rfl, (), members, (), version, (), is.kind, (), ?_, (), ?_, first, ?_, last, ?_, trivial⟩
    · intro name listed
      simp only [List.mem_cons, List.not_mem_nil, or_false] at listed
      rcases listed with rfl | rfl | rfl | rfl
      · exact text covers
      · exact text answers
      · exact text isDecidedAt
      · exact text isNotAfter
    · rw [covers, Option.getD_some]
      exact digest
    · rw [isDecidedAt, Option.getD_some]
      exact parsed
    · rw [isNotAfter, Option.getD_some]
      exact ends

/-- An approval of a parked request has the shape it must have in an effect, but for its version and its further
members. -/
theorem validateEmbedded_iff {members map : Members} {decidedBy : KeyId} {hash verdict : String}
    (hasRequest : Members.get members "request" = some request)
    (hasDecision : Members.get members "decision" = some decision)
    (others : ∀ key ∈ Members.keys members, key ∈ ["request", "decision"])
    (requestedAt : request.getStr "requested-at" = some at_) (valid : validate ext request at_ = .ok queued)
    (isObject : decision.asObject = some map) (is : Checked decision queued decidedBy)
    (covers : decision.getStr "request-hash" = some hash) (digest : Crypto.isDigestHex hash = true)
    (answers : decision.getStr "decision" = some verdict) :
    validateEmbedded ext (.object members) = .ok () ↔
      decision.getStr "v" = some Envelope.version ∧ ∀ name ∈ map.keys, name ∈ decisionMembers := by
  rw [← validateEmbeddedDecision_iff isObject is covers digest answers]
  unfold validateEmbedded
  simp only [bind_eq_ok, okOr_eq_ok, forEach_eq_ok, require_eq_ok]
  constructor
  · intro ⟨_, _, other, found, _, _, _, _, _, _, shaped⟩
    have held : Members.get members "decision" = some other := found
    rw [hasDecision] at held
    cases held
    exact shaped
  · intro shaped
    exact ⟨request, hasRequest, decision, hasDecision, (), others, at_, requestedAt, queued, valid, shaped⟩

end GateQueue

namespace Gate

variable {env request decision authorization : Value} {approvers : List Approver} {seen : List String}
  {required : Bool} {key : KeyId} {hash requesterKey requester : String}

theorem verifyWindow_of {at_ decidedAt notAfter requestNotAfter : String}
    (isDecidedAt : decision.getStr "decided-at" = some decidedAt)
    (isNotAfter : decision.getStr "not-after" = some notAfter)
    (isRequestNotAfter : request.getStr "not-after" = some requestNotAfter)
    (isAt : env.getStr "emitted-at" = some at_)
    (instants : ∀ text ∈ [decidedAt, notAfter, requestNotAfter, at_], Envelope.isTimestamp text = true)
    (early : decidedAt ≤ requestNotAfter) (within_ : decidedAt ≤ at_ ∧ at_ ≤ notAfter) :
    verifyWindow env request decision = .ok () := by
  unfold verifyWindow
  simp only [bind_eq_ok, okOr_eq_ok, require_eq_ok, forEach_eq_ok]
  refine ⟨decidedAt, isDecidedAt, notAfter, isNotAfter, requestNotAfter, isRequestNotAfter, at_, isAt, (), ?_, (),
    early, within_⟩
  intro entry listed
  apply instants
  simp only [List.mem_cons, List.not_mem_nil, or_false] at listed
  rcases listed with rfl | rfl | rfl | rfl
  · exact List.mem_cons_self
  · exact List.mem_cons_of_mem _ List.mem_cons_self
  · exact List.mem_cons_of_mem _ (List.mem_cons_of_mem _ List.mem_cons_self)
  · exact List.mem_cons_of_mem _ (List.mem_cons_of_mem _ (List.mem_cons_of_mem _ List.mem_cons_self))

/-- Of an approval that is otherwise in order, only who gave it is left to decide. -/
theorem verifyAuthorization_iff_listed (carried : env.get "authorization" = some authorization)
    (hasRequest : authorization.get "request" = some request)
    (hasDecision : authorization.get "decision" = some decision) (hashed : Jcs.objectHash ext request = .ok hash)
    (covers : decision.getStr "request-hash" = some hash)
    (signed : Signed.verifySignedObject ext decision = .ok key)
    (hasKey : request.getStr "key" = some requesterKey) (otherKey : key.text ≠ requesterKey)
    (hasSubject : request.getStr "subject" = some requester)
    (approves : decision.getStr "decision" = some "approve")
    (window : verifyWindow env request decision = .ok ())
    (same : ∀ entry ∈ bound, request.getStr entry.1 = performedAt env entry.2)
    (unused : singleUse decision = true → hash ∉ seen) :
    (∃ ok, verifyAuthorization ext env required approvers seen = .ok (some ok)) ↔
      Listed approvers key requester := by
  rw [← verifyApprover_iff hasKey otherKey hasSubject]
  unfold verifyAuthorization
  rw [carried]
  simp only [bind_eq_ok, okOr_eq_ok, require_eq_ok, forEach_eq_ok, pure_eq_ok]
  constructor
  · intro ⟨_, other, isOther, third, isThird, ⟨_, decidedBy⟩, decided, _, permitted, _⟩
    rw [hasRequest] at isOther
    rw [hasDecision] at isThird
    cases isOther
    cases isThird
    obtain ⟨_, _, signer⟩ := verifyDecision_eq_ok decided
    cases signed.symm.trans signer
    exact permitted
  · intro permitted
    refine ⟨_, request, hasRequest, decision, hasDecision, (hash, key), ?_, (), permitted, (), ?_, (), window, (), ?_,
      (), unused, rfl⟩
    · unfold verifyDecision
      simp only [bind_eq_ok, okOr_eq_ok, require_eq_ok, mapError_eq_ok, pure_eq_ok]
      exact ⟨hash, hashed, hash, covers, (), rfl, key, signed, rfl⟩
    · unfold verifyVerdict
      rw [approves]
      rfl
    · intro entry listed
      unfold checkBound
      exact require_eq_ok.mpr (same entry listed)

end Gate

namespace Ingest

/-- An answer to a parked request, and an effect of what the request asks for that carries the answer. -/
structure Exchange where
  store : Store
  policy : Policy
  roots : List KeyId
  answer : Value
  plan : AppendPlan
  answeredAt : String
  request : Value
  decision : Value
  effect : Value
  emittedAt : String
  required : Bool
  seen : List String

/-- The keys that may approve an action of a class. -/
def approversFor (ext : External) (config : Config) (store : Store) (classification action at_ : String) :
    Result (List Gate.Approver) := do
  let roots := rootApprovers store at_
  if rootApprovedActions.contains action then return roots
  match store.currentPolicy with
  | none => return roots
  | some document => do
      let policy ← Policy.parse ext document config.policyKey
      match policy.decisionFor classification action with
      | .gate approvers => return approverKeys store approvers at_ action
      | _ => return roots

namespace Exchange

variable (x : Exchange)

def classification : String := (x.request.getStr "classification").getD ""

def action : String := (x.request.getStr "action").getD ""

/-- The approvers of the effect, for the class and the action of the request. -/
def approvers : List Gate.Approver :=
  approversOf x.store x.effect (x.policy.decisionFor x.classification x.action) x.emittedAt x.action

def validated (ext : External) : Result AppendPlan :=
  validateGateDecision ext x.store x.answer x.roots x.policy x.answeredAt x.plan

/-- The answer carries the decision on the request, which is parked. -/
structure Answers : Prop where
  parked : ∃ hash submitter, x.answer.getStr "decision-of" = some hash ∧
    x.store.gateRequest hash = some (x.request, submitter)
  carried : x.answer.get "decision" = some x.decision

/-- The decision is recorded as an approval. -/
structure Approves (ext : External) : Prop where
  answers : x.Answers
  approve : x.decision.getStr "decision" = some "approve"
  taken : ∃ next, x.validated ext = .ok next

/-- The effect is of what the request asks for, carries the approval and nothing else in its place, and happens
inside the approval's window; the approval is not used up. -/
structure Bears (ext : External) : Prop where
  authorization : ∃ members, x.effect.get "authorization" = some (.object members) ∧
    Members.get members "request" = some x.request ∧ Members.get members "decision" = some x.decision ∧
    ∀ key ∈ Members.keys members, key ∈ ["request", "decision"]
  bound : ∀ entry ∈ Gate.bound, x.request.getStr entry.1 = Gate.performedAt x.effect entry.2
  emitted : x.effect.getStr "emitted-at" = some x.emittedAt
  instant : Envelope.isTimestamp x.emittedAt = true
  window : ∀ decidedAt notAfter, x.decision.getStr "decided-at" = some decidedAt →
    x.decision.getStr "not-after" = some notAfter → decidedAt ≤ x.emittedAt ∧ x.emittedAt ≤ notAfter
  unused : Gate.singleUse x.decision = true → ∀ hash, Jcs.objectHash ext x.request = .ok hash → hash ∉ x.seen

/-- The effect passes with the approval. -/
structure Passes (ext : External) : Prop where
  embedded : ∃ authorization, x.effect.get "authorization" = some authorization ∧
    GateQueue.validateEmbedded ext authorization = .ok ()
  verified : ∃ ok, Gate.verifyAuthorization ext x.effect x.required x.approvers x.seen = .ok (some ok)

/-- A key that may approve the effect: a root's, where only a root may, and else one of those the policy's gate names
for the class and the action. -/
def MayApprove (key : KeyId) : Prop :=
  (needsRoot x.effect = true ∧ ∃ subject, (key, subject) ∈ x.store.rootsAt x.emittedAt) ∨
    (needsRoot x.effect = false ∧ ∃ subjects, x.policy.decisionFor x.classification x.action = .gate subjects ∧
      ((∃ subject ∈ subjects, (key, subject) ∈ x.store.rootsAt x.emittedAt) ∨
        ∃ subject mandate, Holds x.store subjects x.emittedAt x.action subject mandate key))

/-- What a recorded approval has to be for the effect to pass with it. -/
structure Serves (key : KeyId) : Prop where
  version : x.decision.getStr "v" = some Envelope.version
  members : ∀ name ∈ Members.keys (x.decision.asObject.getD []), name ∈ GateQueue.decisionMembers
  permitted : x.MayApprove key
  otherSubject : listedSubject x.approvers key ≠ x.request.getStr "subject"

theorem mayApprove_iff {key : KeyId} : x.MayApprove key ↔ ∃ approver ∈ x.approvers, approver.key = key := by
  unfold MayApprove approvers approversOf
  cases rooted : needsRoot x.effect with
  | true =>
      rw [if_pos rfl]
      unfold rootApprovers
      simp only [true_and, Bool.true_eq_false, false_and, or_false, List.mem_map]
      constructor
      · intro ⟨subject, enrolled⟩
        exact ⟨_, ⟨(key, subject), enrolled, rfl⟩, rfl⟩
      · intro ⟨_, ⟨⟨_, subject⟩, enrolled, rfl⟩, rfl⟩
        exact ⟨subject, enrolled⟩
  | false =>
      rw [if_neg Bool.false_ne_true]
      simp only [Bool.false_eq_true, false_and, false_or, true_and]
      cases decided : x.policy.decisionFor x.classification x.action with
      | gate subjects =>
          dsimp only
          rw [approverKeys_iff]
          constructor
          · intro ⟨_, same, found⟩
            cases same
            exact found
          · intro found
            exact ⟨subjects, rfl, found⟩
      | allow => simp
      | deny => simp

theorem listed_iff {key : KeyId} {requester : String} : Gate.Listed x.approvers key requester ↔
    x.MayApprove key ∧ listedSubject x.approvers key ≠ some requester := by
  rw [mayApprove_iff]
  unfold Gate.Listed listedSubject
  cases found : x.approvers.find? (fun candidate => candidate.key == key) with
  | none =>
      have absent : ¬∃ approver ∈ x.approvers, approver.key = key := by
        intro ⟨approver, inside, same⟩
        have differs := List.find?_eq_none.mp found approver inside
        exact differs (beq_iff_eq.mpr same)
      exact iff_of_false (by simp) fun both => absent both.1
  | some approver =>
      have isKey := List.find?_some found
      rw [beq_iff_eq] at isKey
      have held : ∃ approver ∈ x.approvers, approver.key = key :=
        ⟨approver, List.mem_of_find?_eq_some found, isKey⟩
      rw [Option.bind_some]
      constructor
      · intro ⟨_, same, other⟩
        cases same
        exact ⟨held, other⟩
      · intro ⟨_, other⟩
        exact ⟨approver, rfl, other⟩

/-- The answer is refused for who gave it. -/
def Unpermitted (ext : External) : Prop :=
  ∃ e, x.validated ext = .error e ∧ e.code = "gate-approver-not-permitted"

/-- What is known of a decision that is recorded as an approval. -/
structure Known (ext : External) (key : KeyId) (hash requestedAt : String) (queued : GateQueue.GateRequest) :
    Prop where
  signed : Signed.verifySignedObject ext x.decision = .ok key
  digest : Crypto.isDigestHex hash = true
  covers : x.decision.getStr "request-hash" = some hash
  hashed : Jcs.objectHash ext x.request = .ok hash
  dated : x.request.getStr "requested-at" = some requestedAt
  valid : GateQueue.validate ext x.request requestedAt = .ok queued
  checked : GateQueue.Checked x.decision queued key

variable {x}

theorem Approves.known (approves : x.Approves ext) :
    ∃ key hash requestedAt queued, x.Known ext key hash requestedAt queued := by
  obtain ⟨next, taken⟩ := approves.taken
  obtain ⟨parkedHash, submitter, isHash, parked⟩ := approves.answers.parked
  unfold validated validateGateDecision at taken
  simp only [bind_eq_ok, okOr_eq_ok, require_eq_ok] at taken
  obtain ⟨hash, named, _, digest, taken⟩ := taken
  rw [isHash] at named
  cases named
  rw [approves.answers.carried] at taken
  simp only [bind_eq_ok, require_eq_ok, mapError_eq_ok] at taken
  obtain ⟨key, signed, _, covers, _, _, _, _, taken⟩ := taken
  rw [parked] at taken
  unfold decideQueued at taken
  simp only [bind_eq_ok, require_eq_ok, pure_eq_ok] at taken
  obtain ⟨queued, valid, checked, decided, _, _, _⟩ := taken
  have reads := GateQueue.validate_reads valid
  rw [reads.requestedAt, Option.getD_some] at valid
  have hashed := (GateQueue.validate_eq_ok valid).hashed
  have answers := GateQueue.checkDecision_eq_ok decided
  have isSigner : checked.decidedBy = key := Except.ok.inj (answers.signed.symm.trans signed)
  have same := answers.covers
  rw [covers, Option.some.injEq] at same
  rw [← same] at hashed
  exact ⟨key, parkedHash, queued.requestedAt, queued, signed, digest, covers, hashed, reads.requestedAt, valid,
    isSigner ▸ GateQueue.checkDecision_checked decided⟩

theorem asObject_of_signed {object : Value} {key : KeyId} (signed : Signed.verifySignedObject ext object = .ok key) :
    ∃ members, object.asObject = some members := by
  unfold Signed.verifySignedObject Signed.signingInput at signed
  simp only [bind_eq_ok, okOr_eq_ok] at signed
  obtain ⟨_, _, _, _, _, _, _, ⟨members, isObject, _⟩, _⟩ := signed
  exact ⟨members, isObject⟩

/-- An effect that bears a recorded approval passes exactly where the approval serves. -/
theorem Known.passes_iff {key : KeyId} {hash requestedAt : String} {queued : GateQueue.GateRequest}
    (known : x.Known ext key hash requestedAt queued) (approve : x.decision.getStr "decision" = some "approve")
    (bears : x.Bears ext) : x.Passes ext ↔ x.Serves key := by
  obtain ⟨members, carried, hasRequest, hasDecision, others⟩ := bears.authorization
  obtain ⟨map, isObject⟩ := asObject_of_signed known.signed
  have hasSubject := (GateQueue.validate_eq_ok known.valid).subject
  have reads := GateQueue.validate_reads known.valid
  obtain ⟨decidedAt, notAfter, first, last, isDecidedAt, isNotAfter, parsed, ends, early⟩ := known.checked.window
  have embedded := GateQueue.validateEmbedded_iff hasRequest hasDecision others known.dated known.valid isObject
    known.checked known.covers known.digest approve
  have window : Gate.verifyWindow x.effect x.request x.decision = .ok () := by
    apply Gate.verifyWindow_of isDecidedAt isNotAfter reads.notAfter bears.emitted _ early
    · exact bears.window decidedAt notAfter isDecidedAt isNotAfter
    · intro text listed
      simp only [List.mem_cons, List.not_mem_nil, or_false] at listed
      rcases listed with rfl | rfl | rfl | rfl
      · exact Envelope.isTimestamp_of_parse parsed
      · exact Envelope.isTimestamp_of_parse ends
      · exact reads.instant
      · exact bears.instant
  have verified := @Gate.verifyAuthorization_iff_listed ext x.effect x.request x.decision (.object members)
    x.approvers x.seen x.required key hash queued.subjectKey queued.subject carried hasRequest hasDecision
    known.hashed known.covers known.signed reads.key known.checked.otherKey hasSubject approve window bears.bound
    fun single => bears.unused single hash known.hashed
  rw [x.listed_iff, ← hasSubject] at verified
  constructor
  · intro passes
    obtain ⟨authorization, isCarried, shaped⟩ := passes.embedded
    rw [carried] at isCarried
    cases isCarried
    obtain ⟨version, listed⟩ := embedded.mp shaped
    obtain ⟨permitted, otherSubject⟩ := verified.mp passes.verified
    refine ⟨version, ?_, permitted, otherSubject⟩
    rw [isObject, Option.getD_some]
    exact listed
  · intro serves
    have listed := serves.members
    rw [isObject, Option.getD_some] at listed
    exact ⟨⟨_, carried, embedded.mpr ⟨serves.version, listed⟩⟩,
      verified.mpr ⟨serves.permitted, serves.otherSubject⟩⟩

variable (x)

/-- A key that may answer for the request: a root's, or one of those the policy's gate names for consequential work,
whatever the action. -/
def MayAnswer (key : KeyId) : Prop :=
  key ∈ x.roots ∨
    (∃ subjects, x.policy.decisionFor "consequential" "*" = .gate subjects ∧
      ((∃ subject ∈ subjects, (key, subject) ∈ x.store.rootsAt x.answeredAt) ∨
        ∃ subject mandate, Holds x.store subjects x.answeredAt "" subject mandate key)) ∨
    ((∀ subjects, x.policy.decisionFor "consequential" "*" ≠ .gate subjects) ∧
      ∃ subject, (key, subject) ∈ x.store.rootsAt x.answeredAt)

/-- Nothing besides who gave the answer keeps it from being looked at. -/
structure Reaches : Prop where
  named : ∃ hash, x.answer.getStr "decision-of" = some hash ∧ Crypto.isDigestHex hash = true ∧
    x.decision.getStr "request-hash" = some hash
  verdict : checkDecisionVerdict x.decision = .ok ()

/-- The answer is signed by a key that may approve the request's action. -/
structure Entitled (ext : External) (config : Config) (key : KeyId) : Prop where
  answers : x.Answers
  signed : Signed.verifySignedObject ext x.decision = .ok key
  listed : ∃ approvers, approversFor ext config x.store x.classification x.action x.answeredAt = .ok approvers ∧
    ∃ approver ∈ approvers, approver.key = key

theorem mayAnswer_iff {key : KeyId} : x.MayAnswer key ↔
    ((permittedDeciders x.store x.policy x.answeredAt).any fun a => a.key == key) = true ∨ key ∈ x.roots := by
  unfold MayAnswer permittedDeciders
  rw [or_comm]
  refine or_congr_left ?_
  simp only [List.any_eq_true, beq_iff_eq]
  have rooted : (∃ approver ∈ rootApprovers x.store x.answeredAt, approver.key = key) ↔
      ∃ subject, (key, subject) ∈ x.store.rootsAt x.answeredAt := by
    unfold rootApprovers
    simp only [List.mem_map]
    constructor
    · intro ⟨_, ⟨⟨_, subject⟩, enrolled, rfl⟩, rfl⟩
      exact ⟨subject, enrolled⟩
    · intro ⟨subject, enrolled⟩
      exact ⟨_, ⟨(key, subject), enrolled, rfl⟩, rfl⟩
  cases decided : x.policy.decisionFor "consequential" "*" with
  | gate subjects =>
      dsimp only
      rw [approverKeys_iff]
      constructor
      · intro may
        rcases may with ⟨_, same, found⟩ | ⟨ungated, _⟩
        · cases same
          exact found
        · exact absurd rfl (ungated subjects)
      · intro found
        exact .inl ⟨subjects, rfl, found⟩
  | allow =>
      dsimp only
      rw [rooted]
      simp
  | deny =>
      dsimp only
      rw [rooted]
      simp

/-- What a refusal for who gave the answer says. -/
def Blames (key : KeyId) (e : Error) : Prop :=
  e.code = "gate-approver-not-permitted" → x.Reaches ∧ ¬x.MayAnswer key

variable {x} {key : KeyId}

theorem blames_other {code detail : String} (other : code ≠ "gate-approver-not-permitted") :
    x.Blames key (err code detail) :=
  fun same => absurd same other

theorem blames_elsewhere (e : Error) (other : Elsewhere e) : x.Blames key e := by
  intro same
  unfold Elsewhere at other
  rw [same] at other
  exact absurd (show "gate-approver-not-permitted" ∈ approvalRefusals by decide) other

theorem checkDecision_blames (decision : Value) (queued : GateQueue.GateRequest) :
    Refuses (x.Blames key) (GateQueue.checkDecision ext decision queued) := by
  have dated : ∀ text, Refuses (x.Blames key) (Clock.parseTimestamp text) := fun text =>
    refuses_mono (Clock.parseTimestamp_elsewhere text) blames_elsewhere
  unfold GateQueue.checkDecision
  refine refuses_bind (refuses_require (blames_other (by decide))) fun _ => ?_
  refine refuses_bind (refuses_require (blames_other (by decide))) fun _ => ?_
  refine refuses_bind (refuses_mapError fun _ => blames_other (by decide)) fun _ => ?_
  refine refuses_bind (refuses_require (blames_other (by decide))) fun _ => ?_
  refine refuses_bind (refuses_okOr (blames_other (by decide))) fun decidedAt => ?_
  refine refuses_bind (refuses_okOr (blames_other (by decide))) fun notAfter => ?_
  refine refuses_bind (dated _) fun _ => refuses_bind (dated _) fun _ => ?_
  refine refuses_bind (refuses_okOr (blames_other (by decide))) fun verdict => ?_
  refine refuses_bind ?_ fun _ => ?_
  · unfold GateQueue.checkVerdict
    refine refuses_ite (refuses_ok ()) (refuses_ite ?_ (refuses_error (blames_other (by decide))))
    exact refuses_require (blames_other (by decide))
  · refine refuses_bind (refuses_require (blames_other (by decide))) fun _ => ?_
    exact refuses_bind (refuses_require (blames_other (by decide))) fun _ => refuses_pure _

theorem decideQueued_blames (store : Store) (decision request : Value) (at_ : String) (plan : AppendPlan) :
    Refuses (x.Blames key) (decideQueued ext store decision request at_ plan) := by
  unfold decideQueued
  refine refuses_bind (refuses_mono (GateQueue.validate_elsewhere _ _) blames_elsewhere) fun queued => ?_
  refine refuses_bind (checkDecision_blames decision queued) fun checked => ?_
  exact refuses_bind (refuses_require (blames_other (by decide))) fun _ => refuses_pure _

theorem checkDecisionVerdict_blames (decision : Value) : Refuses (x.Blames key) (checkDecisionVerdict decision) := by
  unfold checkDecisionVerdict
  split
  · exact refuses_ok ()
  · exact refuses_require (blames_other (by decide))
  · exact refuses_error (blames_other (by decide))

/-- An answer is refused for who gave it exactly where that is all that keeps it from being recorded. -/
theorem unpermitted_iff (carried : x.answer.get "decision" = some x.decision)
    (signed : Signed.verifySignedObject ext x.decision = .ok key) :
    x.Unpermitted ext ↔ x.Reaches ∧ ¬x.MayAnswer key := by
  unfold Unpermitted validated
  constructor
  · intro ⟨e, refused, code⟩
    have blames : Refuses (x.Blames key) (x.validated ext) := by
      unfold validated validateGateDecision
      refine refuses_bind_of (refuses_okOr (blames_other (by decide))) fun hash isHash => ?_
      refine refuses_bind_of (refuses_require (blames_other (by decide))) fun _ digest => ?_
      rw [carried]
      dsimp only
      refine refuses_bind_of (refuses_mapError fun _ => blames_other (by decide)) fun signer isSigner => ?_
      refine refuses_bind_of (refuses_require (blames_other (by decide))) fun _ covers => ?_
      refine refuses_bind_of (checkDecisionVerdict_blames _) fun _ verdict => ?_
      rw [okOr_eq_ok] at isHash
      rw [require_eq_ok] at digest covers
      rw [mapError_eq_ok, signed] at isSigner
      cases isSigner
      refine refuses_bind ?_ fun _ => ?_
      · unfold require
        split
        · exact refuses_ok ()
        · rename_i neither
          refine refuses_error fun _ => ⟨⟨⟨hash, isHash, digest, covers⟩, verdict⟩, ?_⟩
          rw [mayAnswer_iff]
          exact neither
      · cases x.store.gateRequest hash with
        | none => exact refuses_pure _
        | some parked => exact decideQueued_blames _ _ _ _ _
    exact blames e refused code
  · intro ⟨reaches, may⟩
    obtain ⟨hash, isHash, digest, covers⟩ := reaches.named
    rw [mayAnswer_iff] at may
    refine ⟨err "gate-approver-not-permitted" s!"{key.text} is not an approver in this deployment", ?_, rfl⟩
    unfold validateGateDecision
    rw [okOr_eq_ok.mpr isHash, ok_bind, (require_eq_ok (u := ())).mpr digest, ok_bind, carried]
    dsimp only
    rw [mapError_eq_ok.mpr signed, ok_bind, (require_eq_ok (u := ())).mpr covers, ok_bind, reaches.verdict, ok_bind]
    unfold require
    rw [if_neg may, error_bind]

/-- The kernel takes the same view of an answer when it is recorded and when it is used. -/
structure Agrees (ext : External) (config : Config) (x : Exchange) : Prop where
  used : x.Approves ext → x.Bears ext → x.Passes ext
  recorded : ∀ key, x.Entitled ext config key → ¬x.Unpermitted ext

/-- A recorded approval serves for the effects that bear it, and whoever may approve the request's action may answer. -/
structure Consistent (ext : External) (config : Config) (x : Exchange) : Prop where
  used : x.Approves ext → x.Bears ext → ∀ key, Signed.verifySignedObject ext x.decision = .ok key → x.Serves key
  recorded : ∀ key, x.Entitled ext config key → x.Reaches → x.MayAnswer key

/-- Recording an answer agrees with using it exactly where a recorded approval serves and whoever may approve the
action may answer. -/
theorem agrees_iff_consistent (x : Exchange) : x.Agrees ext config ↔ x.Consistent ext config := by
  constructor
  · intro agrees
    refine ⟨?_, ?_⟩
    · intro approves bears key signed
      obtain ⟨other, hash, requestedAt, queued, known⟩ := approves.known
      have same : other = key := Except.ok.inj (known.signed.symm.trans signed)
      subst same
      exact (known.passes_iff approves.approve bears).mp (agrees.used approves bears)
    · intro key entitled reaches
      have permitted := agrees.recorded key entitled
      rw [unpermitted_iff entitled.answers.carried entitled.signed] at permitted
      by_contra may
      exact permitted ⟨reaches, may⟩
  · intro consistent
    refine ⟨?_, ?_⟩
    · intro approves bears
      obtain ⟨key, hash, requestedAt, queued, known⟩ := approves.known
      exact (known.passes_iff approves.approve bears).mpr (consistent.used approves bears key known.signed)
    · intro key entitled unpermitted
      rw [unpermitted_iff entitled.answers.carried entitled.signed] at unpermitted
      exact unpermitted.2 (consistent.recorded key entitled unpermitted.1)

end Exchange

end Ingest

end Stozher

namespace Stozher.Deployment

open Library Library.Text Ingest Recorded

def benignly (value : Value) : Value :=
  match value with
  | .object members => .object (members.map fun member =>
      if member.1 = "classification" then (member.1, .string "benign") else member)
  | other => other

/-- The request for a star, which only one of the two roots may approve. -/
def starRequest : Recorded where
  form sig := benignly
    (request "agent:ops" opsKey opsMandate.digest "github.star" "mcp:github" noArguments.digest '7' sig)
  sealed := none
  digest := hex 64 0xcdc702a035d00f9939cce33527e1142f951cf79fe8d5fc9707e4ddd7000ace32

def starByMira : Recorded where
  form := decision starRequest.digest "approve" none evening
  sealed := some (miraKey, signatureText
    0xfd87d697f79029ad46e98fa33729b9562b184d30ea32fc363b55355cd1f1e962
    0xe378559bbc3dedbf3473c19995ee16551e81a1ba691a0fd737b38669a370b103)
  digest := hex 64 0x05a59c46fae0dc73f7ddf157d0a61ff3c652cb813b35d632a0fcb86b3fc909a7

def starByAna : Recorded where
  form := decision starRequest.digest "approve" none evening
  sealed := some (anaKey, signatureText
    0x1cc7ac898007554755ec2a57e20c9575d6157e067d12205dfce5fd6e9dcaa515
    0x6c74260fe8b6c17e2ca94f4a7132b64021d6bd36ff5f6f50fbc3aaa895725705)
  digest := hex 64 0x5f1d48771255607bae10c7e1fc865ce02bca1bb36f39c8f85f482c1ec2886e00

def miraAnswer : Recorded where
  form := answerEnvelope starRequest.digest starByMira.document
  sealed := some (miraKey, signatureText
    0x35fdaf9d373a9ef454fe488f4dc0827e61275e42d1d004af7f96f9d4df5a6210
    0xcdfcad30b15230585e7e7091bc0ce1a0e4c5677d4bf05cc6175997b34554d509)
  digest := hex 64 0x95f4d4ed066144b244f173253225161693a3d719dc39c77e4b0173ec64049e0b

def anaAnswer : Recorded where
  form := answerEnvelope starRequest.digest starByAna.document
  sealed := some (miraKey, signatureText
    0x9c9b83042ad959250d5f672d35b60477241a9f762ed48a33cf1f0f08c6fddb90
    0xc876fed45cd62bf8afa8a4e6284b4ebb1ca222f37926cca6dce5e5368f631e07)
  digest := hex 64 0x939007fe6d4cd87c7a9f0a053e642e849de64b46c947f063b12790b738c237f3

def starEffect (decision : Value) (sig : Members) : Value :=
  benignly (effect "effect" opsIdentity "ops:work" 0 none opsMandate.digest starRequest.document decision nine sig)

def miraEffect : Recorded where
  form := starEffect starByMira.document
  sealed := some (opsKey, signatureText
    0x7a31a178f0892ba5b2b992d8d26b4cfdbb644c17439483552cef4b58b307b346
    0x47a75af4e4421cb22c59929fb1165af84835fc88a48f4fdaed02f7bf32bba701)
  digest := hex 64 0xb09498ab962cb0e8533efaff6268bc2174f75a7085e3fe0cb3b71adc490681ca

def anaEffect : Recorded where
  form := starEffect starByAna.document
  sealed := some (opsKey, signatureText
    0x693a21971547e4e35c3d1959a66188b96a693ad1677eeb074c9570dcb96689c4
    0x2a0c8786f8e6a7c1373650764d76f468919d8a7c6c865ebe8b255e55a2402c0c)
  digest := hex 64 0x246f9b08c20ac3585794dec5a14c390470d9d468147de5ff1da2b12cbbdbd6c6

def verdictExt : External :=
  external (records ++ [starRequest, starByMira, starByAna, miraAnswer, anaAnswer, miraEffect, anaEffect])

/-- The kernel under the first policy, with the request for a star parked. -/
@[irreducible] def starWorld : World :=
  (kernel verdictExt config).run .initial (founding ++ [.park starRequest.document "agent:ops" nine none])

def firstPolicy : Policy where
  document := policy.document
  version := "1"
  documentHash := policy.digest
  policyKey := orgId

/-- A decision over the star, its record, and the star that carries it. -/
def starExchange (decision answer effect : Recorded) : Exchange where
  store := starWorld.store
  policy := firstPolicy
  roots := [anaId, miraId]
  answer := answer.document
  plan := initialPlan answer.document answer.digest { tree := answer.document } nine
  answeredAt := nine
  request := starRequest.document
  decision := decision.document
  effect := effect.document
  emittedAt := nine
  required := true
  seen := []

def byMira : Exchange := starExchange starByMira miraAnswer miraEffect
def byAna : Exchange := starExchange starByAna anaAnswer anaEffect

/-- The members of the two answers and effects, and who signed. -/
structure StarsSeen : Prop where
  answered : ∀ x ∈ [byMira, byAna], x.answer.getStr "decision-of" = some starRequest.digest ∧
    x.answer.get "decision" = some x.decision ∧ x.decision.getStr "decision" = some "approve"
  signed : (Signed.verifySignedObject verdictExt starByMira.document).toOption = some miraId ∧
    (Signed.verifySignedObject verdictExt starByAna.document).toOption = some anaId
  carried : ∀ x ∈ [byMira, byAna], x.effect.get "authorization" =
    some (.object [("decision", x.decision), ("request", x.request)])
  bound : ∀ x ∈ [byMira, byAna], ∀ entry ∈ Gate.bound, x.request.getStr entry.1 = Gate.performedAt x.effect entry.2
  dated : ∀ x ∈ [byMira, byAna], x.effect.getStr "emitted-at" = some nine ∧
    x.decision.getStr "decided-at" = some nine ∧ x.decision.getStr "not-after" = some evening
  instant : Envelope.isTimestamp nine = true ∧ nine ≤ nine ∧ nine ≤ evening
  served : byAna.decision.getStr "v" = some Envelope.version ∧
    ∀ name ∈ Members.keys (byAna.decision.asObject.getD []), name ∈ GateQueue.decisionMembers
  gated : firstPolicy.decisionFor "benign" "github.star" = .gate ["human:ana"] ∧ byAna.classification = "benign" ∧
    byAna.action = "github.star" ∧ needsRoot byAna.effect = false ∧
    byAna.request.getStr "subject" = some "agent:ops"
  policy : (Policy.parse verdictExt Deployment.policy.document orgId).toOption.map (fun policy =>
    (policy.document, policy.version, policy.documentHash, policy.policyKey)) =
      some (firstPolicy.document, firstPolicy.version, firstPolicy.documentHash, firstPolicy.policyKey)

theorem stars_seen : StarsSeen := by
  constructor <;> decide +kernel

/-- The request is parked, both answers are recorded, and only one of them is by an approver. -/
theorem star_store_seen :
    (starWorld.store.gateRequest starRequest.digest).map Prod.fst = some starRequest.document ∧
      isOk (byMira.validated verdictExt) = true ∧ isOk (byAna.validated verdictExt) = true ∧
      starWorld.store.rootsAt nine = [(anaId, "human:ana"), (miraId, "human:mira")] ∧
      isOk (Gate.verifyAuthorization verdictExt byMira.effect true byMira.approvers []) = false ∧
      listedSubject byAna.approvers anaId = some "human:ana" := by
  decide +kernel

theorem starExchange_store (decision answer effect : Recorded) :
    (starExchange decision answer effect).store = starWorld.store := rfl

theorem starExchange_request (decision answer effect : Recorded) :
    (starExchange decision answer effect).request = starRequest.document := rfl

theorem starExchange_emittedAt (decision answer effect : Recorded) :
    (starExchange decision answer effect).emittedAt = nine := rfl

theorem star_exchange {x : Exchange} (which : x ∈ [byMira, byAna]) : ∃ decision answer effect,
    x = starExchange decision answer effect ∧ isOk (x.validated verdictExt) = true := by
  obtain ⟨_, mira, ana, _⟩ := star_store_seen
  simp only [List.mem_cons, List.not_mem_nil, or_false] at which
  rcases which with rfl | rfl
  · exact ⟨_, _, _, rfl, mira⟩
  · exact ⟨_, _, _, rfl, ana⟩

theorem star_approves {x : Exchange} (which : x ∈ [byMira, byAna]) : x.Approves verdictExt := by
  obtain ⟨named, carried, approve⟩ := stars_seen.answered x which
  obtain ⟨decision, answer, effect, same, taken⟩ := star_exchange which
  obtain ⟨⟨request, submitter⟩, parked, isRequest⟩ := Option.map_eq_some_iff.mp star_store_seen.1
  have isParked : x.store.gateRequest starRequest.digest = some (x.request, submitter) := by
    rw [same, starExchange_store, starExchange_request, parked]
    exact congrArg (fun request => some (request, submitter)) isRequest
  exact ⟨⟨⟨starRequest.digest, submitter, named, isParked⟩, carried⟩, approve, isOk_iff.mp taken⟩

theorem star_bears {x : Exchange} (which : x ∈ [byMira, byAna]) : x.Bears verdictExt := by
  obtain ⟨decision, answer, effect, same, _⟩ := star_exchange which
  obtain ⟨emitted, isDecidedAt, isNotAfter⟩ := stars_seen.dated x which
  obtain ⟨instant, first, last⟩ := stars_seen.instant
  have isNine : x.emittedAt = nine := by rw [same, starExchange_emittedAt]
  refine ⟨⟨_, stars_seen.carried x which, rfl, rfl, ?_⟩, stars_seen.bound x which, ?_, ?_, ?_, ?_⟩
  · intro key inside
    have names : key ∈ ["decision", "request"] := inside
    simp only [List.mem_cons, List.not_mem_nil, or_false] at names ⊢
    exact names.symm
  · rw [isNine]
    exact emitted
  · rw [isNine]
    exact instant
  · intro decidedAt notAfter decided until_
    rw [isDecidedAt] at decided
    rw [isNotAfter] at until_
    cases decided
    cases until_
    rw [isNine]
    exact ⟨first, last⟩
  · intro _ hash _ used
    rw [same] at used
    cases used

theorem signer_unique {object : Value} {known key : KeyId}
    (signed : (Signed.verifySignedObject verdictExt object).toOption = some known)
    (verified : Signed.verifySignedObject verdictExt object = .ok key) : key = known := by
  rw [verified] at signed
  exact Option.some.inj signed

/-- The star approved by the root the policy names for it: recorded, borne by its effect, and accepted there. -/
theorem ana_agrees : byAna.Approves verdictExt ∧ byAna.Bears verdictExt ∧ byAna.Agrees verdictExt config := by
  have which : byAna ∈ [byMira, byAna] := List.mem_cons_of_mem _ List.mem_cons_self
  obtain ⟨gated, isClass, isAction, unrooted, requester⟩ := stars_seen.gated
  obtain ⟨_, _, _, roots, _, listed⟩ := star_store_seen
  obtain ⟨version, members⟩ := stars_seen.served
  refine ⟨star_approves which, star_bears which, (Exchange.agrees_iff_consistent byAna).mpr ⟨?_, ?_⟩⟩
  · intro _ _ key signed
    have isAna := signer_unique stars_seen.signed.2 signed
    subst isAna
    refine ⟨version, members, .inr ⟨unrooted, ["human:ana"], ?_, .inl ⟨"human:ana", List.mem_cons_self, ?_⟩⟩, ?_⟩
    · rw [isClass, isAction]
      exact gated
    · rw [byAna, starExchange_store, starExchange_emittedAt, roots]
      exact List.mem_cons_self
    · rw [listed, requester]
      decide
  · intro key entitled _
    have isAna := signer_unique stars_seen.signed.2 entitled.signed
    subst isAna
    exact .inl List.mem_cons_self

/-- A root the policy does not name for the star approves it: the answer is recorded, and refused where it is used. -/
theorem mira_recorded_unusable : ¬∀ x : Exchange, x.Agrees verdictExt config := by
  intro agree
  have which : byMira ∈ [byMira, byAna] := List.mem_cons_self
  obtain ⟨ok, verified⟩ := ((agree byMira).used (star_approves which) (star_bears which)).verified
  obtain ⟨_, _, _, _, refused, _⟩ := star_store_seen
  have passes : Gate.verifyAuthorization verdictExt byMira.effect true byMira.approvers [] = .ok (some ok) := verified
  rw [passes] at refused
  cases refused

end Stozher.Deployment
