import Stozher.Admission
import Stozher.Deployment

namespace Stozher

open Library

namespace Gate

variable {ext : External} {env : Value} {approvers : List Approver} {seen : List String}

/-- The authorization an envelope carries. -/
def Carries (env request decision : Value) : Prop :=
  ∃ authorization, env.get "authorization" = some authorization ∧
    authorization.get "request" = some request ∧ authorization.get "decision" = some decision

theorem Carries.unique {env request decision other otherDecision : Value}
    (first : Carries env request decision) (second : Carries env other otherDecision) :
    other = request ∧ otherDecision = decision := by
  obtain ⟨authorization, has, hasRequest, hasDecision⟩ := first
  obtain ⟨same, hasSame, otherRequest, otherHas⟩ := second
  rw [has] at hasSame
  cases hasSame
  rw [hasRequest] at otherRequest
  rw [hasDecision] at otherHas
  cases otherRequest
  cases otherHas
  exact ⟨rfl, rfl⟩

/-- A decision that approves exactly the request an envelope carries. -/
structure Approved (ext : External) (env request decision : Value) (approver : KeyId)
    (requestHash : String) : Prop where
  carried : Carries env request decision
  hashed : Jcs.objectHash ext request = .ok requestHash
  covers : decision.getStr "request-hash" = some requestHash
  signed : Signed.verifySignedObject ext decision = .ok approver
  approves : decision.getStr "decision" = some "approve"
  notRequester : ∃ requester, request.getStr "key" = some requester ∧ approver.text ≠ requester
  bound : ∀ entry ∈ bound, request.getStr entry.1 = performedAt env entry.2

theorem verifyDecision_eq_ok {request decision : Value} {requestHash : String} {decidedBy : KeyId}
    (verified : verifyDecision ext request decision = .ok (requestHash, decidedBy)) :
    Jcs.objectHash ext request = .ok requestHash ∧
      decision.getStr "request-hash" = some requestHash ∧
      Signed.verifySignedObject ext decision = .ok decidedBy := by
  unfold verifyDecision at verified
  simp only [bind_eq_ok, okOr_eq_ok, require_eq_ok, mapError_eq_ok, pure_eq_ok] at verified
  obtain ⟨hash, hashed, claimed, covers, _, same, key, signed, result⟩ := verified
  cases result
  subst same
  exact ⟨hashed, covers, signed⟩

theorem checkActingAs_eq_ok {decidedBy : KeyId} {actingAs requestedBy : Option String}
    (passed : checkActingAs decidedBy actingAs requestedBy = .ok ()) (name : String)
    (acts : actingAs = some name) : requestedBy ≠ some name := by
  intro requested
  subst acts requested
  simp [checkActingAs, require_eq_ok] at passed

theorem verifyApprover_eq_ok {request : Value} {decidedBy : KeyId}
    (permitted : verifyApprover request decidedBy approvers = .ok ()) :
    (∃ requester, request.getStr "key" = some requester ∧ decidedBy.text ≠ requester) ∧
      ∃ approver, approvers.find? (fun candidate => candidate.key == decidedBy) = some approver ∧
        ∀ actingAs, approver.subject = some actingAs → request.getStr "subject" ≠ some actingAs := by
  unfold verifyApprover at permitted
  simp only [bind_eq_ok, okOr_eq_ok, require_eq_ok] at permitted
  obtain ⟨requester, key, _, different, _, actingAs, listed⟩ := permitted
  refine ⟨⟨requester, key, different⟩, ?_⟩
  obtain ⟨approver, found⟩ := Option.isSome_iff_exists.mp listed
  refine ⟨approver, found, fun name acts => checkActingAs_eq_ok actingAs name ?_⟩
  rw [found]
  exact acts

theorem verifyVerdict_eq_ok {decision : Value} {decidedBy : KeyId}
    (verdict : verifyVerdict decision decidedBy = .ok ()) :
    decision.getStr "decision" = some "approve" := by
  unfold verifyVerdict at verdict
  simp only [bind_eq_ok, okOr_eq_ok] at verdict
  obtain ⟨text, answer, verdict⟩ := verdict
  split at verdict
  · exact answer
  · rw [require_bind_eq_ok] at verdict
    cases verdict.2
  · cases verdict

theorem verifyAuthorization_some {requiresGate : Bool} {ok : AuthorizationOk}
    (verified : verifyAuthorization ext env requiresGate approvers seen = .ok (some ok)) :
    ∃ request decision approver,
      Approved ext env request decision ok.decidedBy ok.requestHash ∧
      approvers.find? (fun candidate => candidate.key == ok.decidedBy) = some approver ∧
      (∀ actingAs, approver.subject = some actingAs → request.getStr "subject" ≠ some actingAs) ∧
      ok.singleUse = singleUse decision ∧ (ok.singleUse = true → ok.requestHash ∉ seen) := by
  unfold verifyAuthorization at verified
  split at verified
  · simp only [bind_eq_ok, pure_eq_ok] at verified
    obtain ⟨_, _, absurd⟩ := verified
    cases absurd
  · rename_i authorization carried
    simp only [bind_eq_ok, okOr_eq_ok, require_eq_ok, forEach_eq_ok, pure_eq_ok] at verified
    obtain ⟨request, hasRequest, decision, hasDecision, ⟨requestHash, decidedBy⟩, decided, _, permitted, _,
      verdict, _, window, _, bound, _, unused, result⟩ := verified
    cases result
    obtain ⟨hashed, covers, signed⟩ := verifyDecision_eq_ok decided
    obtain ⟨notRequester, approver, found, notSubject⟩ := verifyApprover_eq_ok permitted
    refine ⟨request, decision, approver, ⟨⟨authorization, carried, hasRequest, hasDecision⟩, hashed, covers,
      signed, verifyVerdict_eq_ok verdict, notRequester, ?_⟩, found, notSubject, rfl, unused⟩
    intro entry member
    have same := bound entry member
    unfold checkBound at same
    exact require_eq_ok.mp same

theorem verifyAuthorization_required
    (verified : verifyAuthorization ext env true approvers seen = .ok none) : False := by
  unfold verifyAuthorization at verified
  split at verified
  · simp only [bind_eq_ok, require_eq_ok] at verified
    obtain ⟨_, absurd, _⟩ := verified
    cases absurd
  · simp only [bind_eq_ok, pure_eq_ok] at verified
    obtain ⟨_, _, _, _, _, _, _, _, _, _, _, _, _, _, _, _, absurd⟩ := verified
    cases absurd

end Gate

namespace Payload

variable {ext : External} {env : Value} {payloads : List Value}

theorem verifyIngest_eq_ok {ok : IngestOk} (verified : verifyIngest ext env payloads = .ok ok) :
    ∀ payload ∈ payloads, verifyPayload ext (referencedHashes env) payload = .ok () := by
  unfold verifyIngest at verified
  simp only [bind_eq_ok, forEach_eq_ok] at verified
  obtain ⟨_, _, _, each, _⟩ := verified
  exact each

/-- A JSON body hashes to what its payload declares. -/
theorem verifyPayload_eq_ok {referenced : List String} {payload : Value}
    (verified : verifyPayload ext referenced payload = .ok ()) :
    ∃ declared, payload.getStr "payload-hash" = some declared ∧
      ((payload.index "payload").asStr = none →
        Jcs.objectHash ext (payload.index "payload") = .ok declared) := by
  unfold verifyPayload at verified
  simp only [bind_eq_ok, okOr_eq_ok, require_eq_ok] at verified
  obtain ⟨declared, hasHash, mediaType, _, _, _, body, hasBody, computed, hash, _, same, _⟩ := verified
  subst same
  have indexed : payload.index "payload" = body := by simp [Value.index, hasBody]
  refine ⟨computed, hasHash, fun notText => ?_⟩
  rw [indexed] at notText ⊢
  unfold computedHash at hash
  split at hash
  · exact hash
  · simp only [bind_eq_ok, okOr_eq_ok] at hash
    obtain ⟨text, isText, _⟩ := hash
    rw [notText] at isText
    cases isText

end Payload

theorem Manifest.parse_eq_ok {ext : External} {document : Value} {manifest : Manifest}
    (parsed : Manifest.parse ext document = .ok manifest) :
    Jcs.objectHash ext document = .ok manifest.hash ∧ manifest.document = document := by
  unfold Manifest.parse at parsed
  simp only [bind_eq_ok, pure_eq_ok] at parsed
  obtain ⟨_, _, hash, hashed, rfl⟩ := parsed
  exact ⟨hashed, rfl⟩

namespace Ingest

variable {ext : External} {config : Config} {store : Store} {env : Value} {payloads : List Value}

/-- The document an envelope's `args-hash` names hashes to it, unless it is a bare text. -/
theorem boundDocument_hash {ok : Payload.IngestOk} {argsHash : String} {document : Value}
    (verified : Payload.verifyIngest ext env payloads = .ok ok)
    (bound : boundDocument payloads argsHash = some document) (notText : document.asStr = none) :
    Jcs.objectHash ext document = .ok argsHash := by
  unfold boundDocument at bound
  rw [Option.map_eq_some_iff] at bound
  obtain ⟨payload, found, rfl⟩ := bound
  have named := List.find?_some found
  simp only [beq_iff_eq] at named
  have each := Payload.verifyIngest_eq_ok verified payload (List.mem_of_find?_eq_some found)
  obtain ⟨declared, hasHash, hashed⟩ := Payload.verifyPayload_eq_ok each
  rw [named] at hasHash
  cases hasHash
  exact hashed notText

theorem asStr_of_member {value member : Value} {name : String} (found : value.get name = some member) :
    value.asStr = none := by
  cases value <;> first | rfl | cases found

theorem enrolledSubject_eq_ok {enrolled : KeyId} {subject : String}
    (valid : enrolledSubject env payloads enrolled = .ok subject) :
    ∃ argsHash evidence, argsHashOf env = .ok argsHash ∧
      boundDocument payloads argsHash = some evidence ∧
      evidence.getStr "subject" = some subject ∧ evidence.getStr "key" = some enrolled.text := by
  unfold enrolledSubject at valid
  simp only [bind_eq_ok, okOr_eq_ok, require_eq_ok, pure_eq_ok] at valid
  obtain ⟨argsHash, named, evidence, bound, _, ⟨human, long⟩, key, hasKey, _, same, rfl⟩ := valid
  subst same
  refine ⟨argsHash, evidence, named, bound, ?_, hasKey⟩
  apply getStr_of_getD ?_ rfl
  intro empty
  rw [empty] at long
  exact absurd long (by decide)

theorem rootChange_eq_ok {change : RootChange} (valid : rootChange env payloads = .ok change) :
    ∃ key : KeyId, (execution env).getStr "target" = some ("root:" ++ key.text) ∧
      ((∃ subject, change = .enrol key subject ∧ enrolledSubject env payloads key = .ok subject) ∨
        change = .retire key) := by
  unfold rootChange at valid
  simp only [bind_eq_ok, okOr_eq_ok, mapError_eq_ok] at valid
  obtain ⟨text, stripped, key, parsed, valid⟩ := valid
  rw [Text.stripPrefix_eq_some] at stripped
  refine ⟨key, ?_, ?_⟩
  · rw [KeyId.parse_text parsed]
    refine getStr_of_getD ?_ stripped
    intro empty
    have := congrArg String.length empty
    simp at this
  · split at valid
    · simp only [bind_eq_ok, pure_eq_ok] at valid
      obtain ⟨subject, enrolled, rfl⟩ := valid
      exact Or.inl ⟨subject, rfl, enrolled⟩
    · cases valid
      exact Or.inr rfl

/-- The members of a resume document. -/
structure ResumeDocument (document : Value) (resume : StreamResume) : Prop where
  stream : document.getStr "stream" = some resume.stream
  resumeSeq : document.getU64 "resume-seq" = some resume.resumeSeq
  bridgeHash : document.getStr "refused-object-hash" = some resume.bridgeHash
  reasonCode : document.getStr "reason-code" = some resume.reasonCode

theorem streamResume_eq_ok {resume : StreamResume} (valid : streamResume env payloads = .ok resume) :
    ∃ argsHash document, argsHashOf env = .ok argsHash ∧
      boundDocument payloads argsHash = some document ∧ ResumeDocument document resume ∧
      (execution env).getStr "target" = some ("stream:" ++ resume.stream) := by
  unfold streamResume at valid
  simp only [bind_eq_ok, okOr_eq_ok, require_eq_ok, forEach_eq_ok, pure_eq_ok,
    Option.filter_eq_some_iff] at valid
  obtain ⟨named, stripped, argsHash, hasHash, document, bound, members, object, _, _, stream, hasStream,
    _, same, resumeSeq, hasSeq, bridgeHash, ⟨hasBridge, _⟩, reasonCode, ⟨hasReason, _⟩, rfl⟩ := valid
  subst same
  have isObject := Envelope.asObject_eq_some object
  subst isObject
  rw [Text.stripPrefix_eq_some] at stripped
  refine ⟨argsHash, _, hasHash, bound, ⟨hasStream, hasSeq, hasBridge, hasReason⟩, ?_⟩
  refine getStr_of_getD ?_ stripped
  intro empty
  have := congrArg String.length empty
  simp at this

/-- An applied or failed effect names its outcome; an aggregate executes nothing. -/
theorem execution_of_valid (valid : Envelope.validate ext env = .ok ())
    (kind : (env.getStr "kind").getD "" ∈ effectKinds) :
    (env.getStr "kind" ≠ some "aggregate" ∧
        ∃ outcome, (execution env).getStr "outcome" = some outcome) ∨
      (env.getStr "kind" = some "aggregate" ∧ env.get "execution" = none) := by
  obtain ⟨map, name, spec, known⟩ := Envelope.validate_eq_ok valid
  have object := known.object
  have members := known.members
  unfold Envelope.validateMembers at members
  simp only [bind_eq_ok, forEach_eq_ok, require_eq_ok] at members
  obtain ⟨_, forbidden, _, _, required⟩ := members
  have hasSpec := known.hasSpec
  have executes : (spec.required.contains "execution") = true →
      ∃ outcome, (execution env).getStr "outcome" = some outcome := by
    intro member
    have present := required "execution" (List.mem_append_right _ (by simpa using member))
    obtain ⟨body, found⟩ := Option.isSome_iff_exists.mp present
    have checked := Envelope.whenPresent_eq_ok.mp known.execution body found
    unfold Envelope.validateExecution at checked
    simp only [bind_eq_ok, okOr_eq_ok] at checked
    obtain ⟨outcome, hasOutcome, _⟩ := checked
    refine ⟨outcome, ?_⟩
    subst object
    unfold execution Value.index
    rw [Envelope.get_object, found]
    exact hasOutcome
  rw [known.hasKind] at kind ⊢
  simp only [Option.getD_some, effectKinds, List.mem_cons, List.not_mem_nil, or_false] at kind
  rcases kind with rfl | rfl | rfl
  · cases hasSpec
    exact Or.inl ⟨by simp, executes (by decide)⟩
  · cases hasSpec
    exact Or.inl ⟨by simp, executes (by decide)⟩
  · cases hasSpec
    have absent := forbidden "execution" (by decide)
    subst object
    refine Or.inr ⟨rfl, ?_⟩
    rw [Envelope.get_object]
    simpa [Members.containsKey] using absent

/-- Whether a plan sets one of the projections that change what the system permits. -/
def changesPermissions (projections : Projections) : Prop :=
  projections.policy.isSome = true ∨ projections.manifest.isSome = true ∨
    projections.enrollRoot.isSome = true ∨ projections.retireRoot.isSome = true ∨
    projections.streamResume.isSome = true

/-- Every such projection is determined by an argument hash and a target. -/
structure DeterminedBy (ext : External) (config : Config) (argsHash target : Option String)
    (projections : Projections) : Prop where
  policy : ∀ version document documentHash,
    projections.policy = some (version, document, documentHash) →
    ∃ hash incoming, argsHash = some hash ∧ Jcs.objectHash ext document = .ok hash ∧
      Policy.parse ext document config.policyKey = .ok incoming ∧
      version = incoming.version ∧ documentHash = incoming.documentHash
  manifest : ∀ projection, projections.manifest = some projection →
    ∃ hash manifest, argsHash = some hash ∧ Jcs.objectHash ext projection.document = .ok hash ∧
      Manifest.parse ext projection.document = .ok manifest ∧
      projection = {
        name := manifest.name
        version := manifest.version
        hash := manifest.hash
        componentKey := manifest.componentKey.text
        document := projection.document }
  enrollRoot : ∀ key subject, projections.enrollRoot = some (key, subject) →
    target = some ("root:" ++ key.text) ∧
      ∃ hash evidence, argsHash = some hash ∧ Jcs.objectHash ext evidence = .ok hash ∧
        evidence.getStr "subject" = some subject ∧ evidence.getStr "key" = some key.text
  retireRoot : ∀ key, projections.retireRoot = some key → target = some ("root:" ++ key.text)
  streamResume : ∀ resume, projections.streamResume = some resume →
    target = some ("stream:" ++ resume.stream) ∧
      ∃ hash document, argsHash = some hash ∧ Jcs.objectHash ext document = .ok hash ∧
        ResumeDocument document resume

theorem DeterminedBy.none {argsHash target : Option String} :
    DeterminedBy ext config argsHash target .none := by
  constructor <;> intros <;> contradiction

theorem argsHashOf_eq_ok {hash : String} :
    argsHashOf env = .ok hash ↔ (execution env).getStr "args-hash" = some hash := by
  unfold argsHashOf
  exact okOr_eq_ok

variable {plan next : AppendPlan} {roots : List KeyId} {subjectKey : KeyId} {policy : Policy}

theorem projectPolicy_determined (begins : plan.projections = .none)
    (valid : projectPolicy ext config store env payloads plan = .ok next) :
    DeterminedBy ext config ((execution env).getStr "args-hash") ((execution env).getStr "target")
        next.projections ∧
      next.projections = { Projections.none with policy := next.projections.policy } ∧
      (next.projections.policy.isSome = true → needsRoot env = true) := by
  unfold projectPolicy at valid
  split at valid
  · rename_i kind
    obtain ⟨hash, document, incoming, named, bound, hashed, parsed, _, rfl⟩ :=
      validatePolicyChange_eq_ok valid
    rw [argsHashOf_eq_ok] at named
    dsimp only
    rw [begins, named]
    have nothing : DeterminedBy ext config (some hash) ((execution env).getStr "target") .none := .none
    refine ⟨{ nothing with policy := ?_ }, rfl, fun _ => by simp [needsRoot, kind]⟩
    intro version other documentHash same
    cases same
    exact ⟨hash, incoming, rfl, hashed, parsed, rfl, rfl⟩
  · cases valid
    rw [begins]
    exact ⟨.none, rfl, by simp [Projections.none]⟩

theorem ActionProjects.determined {ok : Payload.IngestOk}
    (verified : Payload.verifyIngest ext env payloads = .ok ok)
    (before : DeterminedBy ext config ((execution env).getStr "args-hash")
      ((execution env).getStr "target") plan.projections)
    (acts : ActionProjects ext store env payloads roots subjectKey plan next) :
    DeterminedBy ext config ((execution env).getStr "args-hash") ((execution env).getStr "target")
        next.projections := by
  cases acts with
  | registers action valid =>
      obtain ⟨hash, document, manifest, named, bound, parsed, same, rfl⟩ :=
        validateRegistration_eq_ok valid
      rw [argsHashOf_eq_ok] at named
      have hashed := (Manifest.parse_eq_ok parsed).1
      rw [same] at hashed
      refine { before with manifest := ?_ }
      intro projection projected
      cases projected
      exact ⟨hash, manifest, named, hashed, parsed, rfl⟩
  | changesRoots action valid =>
      obtain ⟨_, ⟨key, subject, changed, rfl⟩ | ⟨key, changed, rfl⟩⟩ := validateRootChange_eq_ok valid
      · obtain ⟨enrolled, target, ⟨human, same, evidenced⟩ | other⟩ := rootChange_eq_ok changed
        · cases same
          obtain ⟨hash, evidence, named, bound, hasSubject, hasKey⟩ := enrolledSubject_eq_ok evidenced
          rw [argsHashOf_eq_ok] at named
          have found := Value.getStr_eq_some hasSubject
          have hashed := boundDocument_hash verified bound (asStr_of_member found)
          refine { before with enrollRoot := ?_ }
          intro other name projected
          cases projected
          exact ⟨target, hash, evidence, named, hashed, hasSubject, hasKey⟩
        · cases other
      · obtain ⟨retired, target, ⟨human, other, _⟩ | same⟩ := rootChange_eq_ok changed
        · cases other
        · cases same
          refine { before with retireRoot := ?_ }
          intro other projected
          cases projected
          exact target
  | resumes resume action valid =>
      obtain ⟨hash, document, named, bound, members, target⟩ := streamResume_eq_ok valid
      rw [argsHashOf_eq_ok] at named
      have found := Value.getStr_eq_some members.stream
      have hashed := boundDocument_hash verified bound (asStr_of_member found)
      refine { before with streamResume := ?_ }
      intro other projected
      cases projected
      exact ⟨target, hash, document, named, hashed, members⟩
  | nothing => exact before

theorem needsRoot_of_action {action : String} (acts : (execution env).getStr "action" = some action)
    (listed : rootApprovedActions.contains action = true) : needsRoot env = true := by
  unfold needsRoot
  rw [acts, Option.getD_some, listed, Bool.true_or]

theorem ActionProjects.needsRoot (before : changesPermissions plan.projections → needsRoot env = true)
    (acts : ActionProjects ext store env payloads roots subjectKey plan next)
    (changes : changesPermissions next.projections) : Ingest.needsRoot env = true := by
  cases acts with
  | registers action valid => exact needsRoot_of_action action (by decide)
  | changesRoots action valid =>
      rcases action with action | action
      · exact needsRoot_of_action action (by decide)
      · exact needsRoot_of_action action (by decide)
  | resumes resume action valid => exact needsRoot_of_action action (by decide)
  | nothing => exact before changes

theorem clearPrivileged_unchanged (plan : AppendPlan) :
    ¬ changesPermissions (clearPrivileged plan).projections := by
  simp [changesPermissions, clearPrivileged]

/-- An effect that changes what the system permits was applied, needs a root, and is determined by
what it executed. -/
theorem projectEffect_determined {ok : Payload.IngestOk}
    (verified : Payload.verifyIngest ext env payloads = .ok ok) (begins : plan.projections = .none)
    (valid : projectEffect ext config store env payloads roots subjectKey plan = .ok next)
    (changes : changesPermissions next.projections) :
    isApplied env = true ∧ needsRoot env = true ∧
      DeterminedBy ext config ((execution env).getStr "args-hash") ((execution env).getStr "target")
        next.projections := by
  obtain ⟨changed, acted, change, acts, rfl⟩ := projectEffect_eq_ok valid
  obtain ⟨determined, only, published⟩ := projectPolicy_determined begins change
  split at changes
  · exact absurd changes (clearPrivileged_unchanged acted)
  · rename_i kept
    have root : needsRoot env = true := by
      refine acts.needsRoot ?_ changes
      intro earlier
      rw [only] at earlier
      exact published (by simpa [changesPermissions, Projections.none] using earlier)
    have applied : isApplied env = true := by
      by_contra attempt
      exact kept ⟨by simpa using attempt, root⟩
    rw [if_neg kept]
    exact ⟨applied, root, acts.determined verified determined⟩

/-- An authorization over an envelope that verifies as the approval of a root enrolled when the
envelope was emitted, who is not the requester. -/
structure ApprovedByRoot (ext : External) (store : Store) (env request decision : Value)
    (root : KeyId) (subject : String) : Prop where
  verified : ∃ seen ok, ok.decidedBy = root ∧ Gate.verifyAuthorization ext env true
    (rootApprovers store (emittedAt env)) seen = .ok (some ok)
  approved : ∃ requestHash, Gate.Approved ext env request decision root requestHash
  enrolled : (root, subject) ∈ store.rootsAt (emittedAt env)
  otherKey : (env.index "identity").getStr "key" ≠ some root.text
  otherSubject : (env.index "identity").getStr "subject" ≠ some subject

theorem performedAt_pair (env : Value) (parent child : String) :
    Gate.performedAt env [parent, child] = (env.index parent).getStr child := by
  unfold Gate.performedAt Value.getStr Value.index
  rw [List.foldl_cons, List.foldl_cons, List.foldl_nil, Option.bind_some]
  cases env.get parent <;> rfl

theorem approvedByRoot {seen : List String} {ok : Gate.AuthorizationOk}
    (verified : Gate.verifyAuthorization ext env true (rootApprovers store (emittedAt env)) seen =
      .ok (some ok)) :
    ∃ request decision subject, ApprovedByRoot ext store env request decision ok.decidedBy subject := by
  obtain ⟨request, decision, approver, approved, found, notSubject, _⟩ :=
    Gate.verifyAuthorization_some verified
  have listed := List.mem_of_find?_eq_some found
  have same := List.find?_some found
  simp only [beq_iff_eq] at same
  unfold rootApprovers at listed
  rw [List.mem_map] at listed
  obtain ⟨⟨key, subject⟩, enrolled, rfl⟩ := listed
  have key_eq : key = ok.decidedBy := same
  subst key_eq
  refine ⟨request, decision, subject, ⟨seen, ok, rfl, verified⟩, ⟨_, approved⟩, enrolled, ?_, ?_⟩
  · obtain ⟨requester, hasKey, different⟩ := approved.notRequester
    have performed := approved.bound ("key", ["identity", "key"]) (by simp [Gate.bound])
    rw [performedAt_pair, hasKey] at performed
    rw [← performed]
    intro equal
    exact different (Option.some.inj equal).symm
  · have performed := approved.bound ("subject", ["identity", "subject"]) (by simp [Gate.bound])
    rw [performedAt_pair] at performed
    rw [← performed]
    exact notSubject subject rfl

theorem ApprovedByRoot.bound_execution {request decision : Value} {root : KeyId} {subject : String}
    (approval : ApprovedByRoot ext store env request decision root subject) {name : String}
    (listed : (name, ["execution", name]) ∈ Gate.bound) :
    request.getStr name = (execution env).getStr name := by
  obtain ⟨_, approved⟩ := approval.approved
  rw [approved.bound _ listed, performedAt_pair]
  rfl

/-- The gate of an applied effect that only a root may approve. -/
theorem gated_by_root {effective : String} (applied : isApplied env = true)
    (root : Ingest.needsRoot env = true)
    (gate : gateEffect ext store env policy effective plan = .ok next) :
    ∃ request decision key subject, ApprovedByRoot ext store env request decision key subject := by
  obtain ⟨_, _, _, gated⟩ := gateEffect_eq_ok gate
  have required : requiresGate
      (policy.decisionFor effective (((execution env).getStr "action").getD ""))
      (Ingest.needsRoot env) (isApplied env) = true := by
    rw [applied, root]
    cases policy.decisionFor effective (((execution env).getStr "action").getD "") <;> rfl
  generalize next.gateUse = used at gated
  cases gated with
  | authorized spent ok verified =>
      unfold authorize at verified
      dsimp only at verified
      rw [required] at verified
      unfold approversOf at verified
      rw [if_pos root] at verified
      obtain ⟨request, decision, subject, approval⟩ := approvedByRoot verified
      exact ⟨request, decision, _, subject, approval⟩
  | open_ spent verified =>
      unfold authorize at verified
      dsimp only at verified
      rw [required] at verified
      exact (Gate.verifyAuthorization_required verified).elim
  | attempted attempt =>
      rw [applied] at attempt
      cases attempt

/-- Only the effect kinds change what the system permits. -/
theorem KindAdmits.effect_of_changes
    (admits : KindAdmits ext config store env policy roots subjectKey plan payloads next)
    (begins : plan.projections = .none) (changes : changesPermissions next.projections) :
    (env.getStr "kind").getD "" ∈ effectKinds ∧
      validateEffectKind ext config store env policy roots subjectKey plan payloads = .ok next := by
  have nothing : ¬ changesPermissions .none := by simp [changesPermissions, Projections.none]
  cases admits with
  | effect kind valid => exact ⟨kind, valid⟩
  | cognition kind valid =>
      obtain ⟨_, _, _, _, _, same, _⟩ := validateCognition_eq_ok valid
      rw [same, begins] at changes
      exact absurd changes nothing
  | signal kind valid =>
      rw [(collectPayloads_same valid).2.1, begins] at changes
      exact absurd changes nothing
  | mandate kind valid =>
      obtain ⟨_, _, _, _, _, _, _, _, rfl⟩ := validateMandateGrant_eq_ok valid
      rw [begins] at changes
      exact absurd changes nothing
  | revocation kind valid =>
      obtain ⟨_, _, _, _, _, _, _, _, _, _, rfl⟩ := validateRevocation_eq_ok valid
      rw [begins] at changes
      exact absurd changes nothing
  | gateDecision kind valid =>
      obtain ⟨_, rfl⟩ := validateGateDecision_eq_ok valid
      rw [begins] at changes
      exact absurd changes nothing
  | checkpoint kind valid =>
      obtain ⟨_, _, _, _, _, _, _, _, rfl⟩ := validateCheckpoint_eq_ok valid
      rw [begins] at changes
      exact absurd changes nothing

theorem policyInForce_of_published (published : store.policies ≠ []) :
    policyInForce ext config store ≠ .ok none := by
  unfold policyInForce Store.currentPolicy
  rw [List.getLast?_eq_some_getLast published, Option.map_some]
  intro unpublished
  simp only [bind_eq_ok, pure_eq_ok] at unpublished
  obtain ⟨_, _, absent⟩ := unpublished
  cases absent

theorem DeterminedBy.nothing {projections : Projections}
    (determined : DeterminedBy ext config Option.none Option.none projections) : ¬ changesPermissions projections := by
  rintro (policy | manifest | enrol | retire | resume)
  · obtain ⟨⟨version, document, documentHash⟩, projected⟩ := Option.isSome_iff_exists.mp policy
    obtain ⟨_, _, absent, _⟩ := determined.policy _ _ _ projected
    cases absent
  · obtain ⟨projection, projected⟩ := Option.isSome_iff_exists.mp manifest
    obtain ⟨_, _, absent, _⟩ := determined.manifest _ projected
    cases absent
  · obtain ⟨⟨key, subject⟩, projected⟩ := Option.isSome_iff_exists.mp enrol
    obtain ⟨absent, _⟩ := determined.enrollRoot _ _ projected
    cases absent
  · obtain ⟨key, projected⟩ := Option.isSome_iff_exists.mp retire
    cases determined.retireRoot _ projected
  · obtain ⟨document, projected⟩ := Option.isSome_iff_exists.mp resume
    obtain ⟨absent, _⟩ := determined.streamResume _ projected
    cases absent

theorem outcome_of_applied {outcome : String} (named : (execution env).getStr "outcome" = some outcome)
    (kind : env.getStr "kind" ≠ some "aggregate") (applied : isApplied env = true) :
    outcome = "applied" ∨ outcome = "failed" := by
  unfold isApplied at applied
  simpa [named, kind] using applied

/-- What an admitted envelope that changes what the system permits was approved for. -/
theorem Admitted.approved {raw : Octets} {receivedAt : String}
    (admitted : Admitted ext config store raw receivedAt plan subjectKey payloads)
    (published : policyInForce ext config store ≠ .ok none)
    (changes : changesPermissions plan.projections) :
    ((execution plan.envelope).getStr "outcome" = some "applied" ∨
        (execution plan.envelope).getStr "outcome" = some "failed") ∧
      ∃ request decision root subject,
        ApprovedByRoot ext store plan.envelope request decision root subject ∧
        DeterminedBy ext config (request.getStr "args-hash") (request.getStr "target")
          plan.projections := by
  obtain ⟨ok, evidence⟩ := admitted.evidence
  cases admitted.rule with
  | genesis unpublished valid => exact absurd unpublished published
  | inForce policy inForce admits unauthorized =>
      obtain ⟨kind, valid⟩ := admits.effect_of_changes rfl changes
      obtain ⟨_, _, _, _, start, projected, gated, _, _, _, _, begins, _, projects, gate, collected⟩ :=
        validateEffectKind_eq_ok valid
      have kept : plan.projections = projected.projections :=
        (collectPayloads_same collected).2.1.trans (gateEffect_eq_ok gate).2.1
      rw [kept] at changes ⊢
      obtain ⟨applied, root, determined⟩ := projectEffect_determined evidence begins projects changes
      obtain ⟨request, decision, key, subject, approval⟩ := gated_by_root applied root gate
      refine ⟨?_, request, decision, key, subject, approval, ?_⟩
      · rcases execution_of_valid admitted.valid kind with ⟨notAggregate, outcome, named⟩ | ⟨_, absent⟩
        · rw [named, Option.some.injEq, Option.some.injEq]
          exact outcome_of_applied named notAggregate applied
        · have empty : execution plan.envelope = .null := by
            unfold execution Value.index
            rw [absent]
            rfl
          rw [empty] at determined
          exact absurd changes determined.nothing
      · rw [approval.bound_execution (by simp [Gate.bound]),
          approval.bound_execution (by simp [Gate.bound])]
        exact determined

/-- Every change of what the system permits carries a root's approval of exactly that change. -/
theorem permission_change_is_root_approved {raw : Octets} {receivedAt : String} {validated : Validated}
    (published : store.policies ≠ [])
    (accepted : validate ext config store raw receivedAt = .ok (.fresh validated))
    (changes : changesPermissions validated.plan.projections) :
    ((execution validated.plan.envelope).getStr "outcome" = some "applied" ∨
        (execution validated.plan.envelope).getStr "outcome" = some "failed") ∧
      ∃ request decision root subject,
        ApprovedByRoot ext store validated.plan.envelope request decision root subject ∧
        DeterminedBy ext config (request.getStr "args-hash") (request.getStr "target")
          validated.plan.projections := by
  obtain ⟨⟨subjectKey, payloads, admitted⟩, _⟩ := validate_fresh accepted
  exact admitted.approved (policyInForce_of_published published) changes

end Ingest

end Stozher

namespace Stozher.Deployment

open Ingest

theorem first_resume_root_approved :
    ∃ validated, validate ext config (after resuming).store (submitted firstResumeBody nine).raw nine =
        .ok (.fresh validated) ∧ changesPermissions validated.plan.projections ∧
      ((execution validated.plan.envelope).getStr "outcome" = some "applied" ∨
        (execution validated.plan.envelope).getStr "outcome" = some "failed") ∧
      ∃ request decision root subject,
        ApprovedByRoot ext (after resuming).store validated.plan.envelope request decision root subject ∧
        DeterminedBy ext config (request.getStr "args-hash") (request.getStr "target")
          validated.plan.projections := by
  have published := congrArg Observed.published observed_eq
  have resumes := congrArg Observed.resumeValidated observed_eq
  dsimp only [observed] at published resumes
  obtain ⟨plan, fresh, resume⟩ := Option.map_eq_some_iff.mp resumes
  obtain ⟨validated, accepted, rfl⟩ := freshPlan_eq_some fresh
  have changes : changesPermissions validated.plan.projections :=
    Or.inr (Or.inr (Or.inr (Or.inr (by rw [resume]; rfl))))
  have nonempty : (after resuming).store.policies ≠ [] := by
    intro empty
    rw [empty] at published
    exact absurd published (by decide)
  exact ⟨validated, accepted, changes, permission_change_is_root_approved nonempty accepted changes⟩

end Stozher.Deployment
