import Stozher.TwinEnvelopes

namespace Stozher

open Library

namespace Twins

open Ingest

variable {ext : External} {first second : Value}

theorem execution (twins : Twins ext first second) : Ingest.execution second = Ingest.execution first :=
  twins.index (by decide) (by decide)

theorem argsHashOf (twins : Twins ext first second) : Ingest.argsHashOf second = Ingest.argsHashOf first := by
  unfold Ingest.argsHashOf
  rw [twins.execution]

theorem effectRequests (twins : Twins ext first second) :
    Ingest.effectRequests second = Ingest.effectRequests first := by
  unfold Ingest.effectRequests
  simp (disch := decide) only [twins.getStr, twins.index, twins.execution]

theorem isApplied (twins : Twins ext first second) : Ingest.isApplied second = Ingest.isApplied first := by
  unfold Ingest.isApplied
  simp (disch := decide) only [twins.getStr, twins.execution]

theorem needsRoot (twins : Twins ext first second) : Ingest.needsRoot second = Ingest.needsRoot first := by
  unfold Ingest.needsRoot
  simp (disch := decide) only [twins.getStr, twins.execution]

theorem rootChange (twins : Twins ext first second) (payloads : List Value) :
    Ingest.rootChange second payloads = Ingest.rootChange first payloads := by
  unfold Ingest.rootChange Ingest.enrolledSubject
  simp only [twins.execution, twins.argsHashOf]

theorem streamResume (twins : Twins ext first second) (payloads : List Value) :
    Ingest.streamResume second payloads = Ingest.streamResume first payloads := by
  unfold Ingest.streamResume
  simp only [twins.execution, twins.argsHashOf]

theorem retainUntilFor (twins : Twins ext first second) (payloadHash : String) :
    Ingest.retainUntilFor second payloadHash = Ingest.retainUntilFor first payloadHash := by
  unfold Ingest.retainUntilFor
  simp (disch := decide) only [twins.get]

theorem checkAggregate (twins : Twins ext first second) (policy : Policy) :
    Ingest.checkAggregate second policy = Ingest.checkAggregate first policy := by
  unfold Ingest.checkAggregate Ingest.validateAggregateWindow
  simp (disch := decide) only [twins.getStr, twins.index]

theorem mandateRefOf (twins : Twins ext first second) :
    Ingest.mandateRefOf second = Ingest.mandateRefOf first := by
  unfold Ingest.mandateRefOf
  simp (disch := decide) only [twins.getStr]

theorem accrualOf (twins : Twins ext first second) : Budget.accrualOf second = Budget.accrualOf first := by
  unfold Budget.accrualOf
  simp (disch := decide) only [twins.getStr, twins.get, twins.index]

theorem validateTrigger (twins : Twins ext first second) (store : Store) :
    Ingest.validateTrigger store second = Ingest.validateTrigger store first := by
  unfold Ingest.validateTrigger Trigger.check
  simp (disch := decide) only [twins.getStr, twins.get]

theorem classifyEnvelope (twins : Twins ext first second) (store : Store) (policy : Policy)
    (requests : List (String × String)) :
    Ingest.classifyEnvelope ext store second policy requests = Ingest.classifyEnvelope ext store first policy requests := by
  unfold Ingest.classifyEnvelope
  simp (disch := decide) only [twins.getStr, twins.index]

theorem walkEffect (twins : Twins ext first second) (store : Store) (policy : Policy) (roots : List KeyId)
    (subjectKey : KeyId) (requests : List (String × String)) :
    Ingest.walkEffect ext store second policy roots subjectKey requests =
      Ingest.walkEffect ext store first policy roots subjectKey requests := by
  unfold Ingest.walkEffect
  simp (disch := decide) only [twins.getStr, twins.index, twins.mandateRefOf]

theorem validateCommitment (twins : Twins ext first second) (store : Store) (manifest : Option Manifest)
    (subject : String) : Ingest.validateCommitment store second manifest subject =
      Ingest.validateCommitment store first manifest subject := by
  unfold Ingest.validateCommitment
  simp (disch := decide) only [twins.get]

theorem gateUseOf (twins : Twins ext first second) (ok : Gate.AuthorizationOk) :
    Ingest.gateUseOf second ok = Ingest.gateUseOf first ok := by
  unfold Ingest.gateUseOf
  simp (disch := decide) only [twins.getStr, twins.index]

theorem resourceOf (twins : Twins ext first second) : Ingest.resourceOf second = Ingest.resourceOf first := by
  unfold Ingest.resourceOf
  simp (disch := decide) only [twins.index]

/-- The members an authorization is bound to are neither the reference nor the signature. -/
theorem performedAt (twins : Twins ext first second) {entry : String × List String} (bound : entry ∈ Gate.bound) :
    Gate.performedAt second entry.2 = Gate.performedAt first entry.2 := by
  have plain : ∀ entry ∈ Gate.bound, ∃ name ∈ entry.2.head?, name ≠ "correlation-ref" ∧ name ≠ "sig" := by decide
  obtain ⟨name, isHead, known⟩ := plain entry bound
  obtain ⟨rest, path⟩ := List.head?_eq_some_iff.mp isHead
  unfold Gate.performedAt
  rw [path, List.foldl_cons, List.foldl_cons, Option.bind_some, Option.bind_some, twins.get known.1 known.2]

theorem verifyAuthorization (twins : Twins ext first second) (requiresGate : Bool) (approvers : List Gate.Approver)
    (seen : List String) : Gate.verifyAuthorization ext second requiresGate approvers seen =
      Gate.verifyAuthorization ext first requiresGate approvers seen := by
  have bound : ∀ request, forEach (Gate.checkBound request second) Gate.bound =
      forEach (Gate.checkBound request first) Gate.bound := by
    intro request
    apply forEach_congr
    intro entry inside
    unfold Gate.checkBound
    rw [twins.performedAt inside]
  have window : ∀ request decision, Gate.verifyWindow second request decision =
      Gate.verifyWindow first request decision := by
    intro request decision
    unfold Gate.verifyWindow
    simp (disch := decide) only [twins.getStr]
  unfold Gate.verifyAuthorization
  simp (disch := decide) only [twins.get, bound, window]

theorem authorize (twins : Twins ext first second) (store : Store) (decision : Decision)
    (spent : Option (String × String)) :
    Ingest.authorize ext store second decision spent = Ingest.authorize ext store first decision spent := by
  unfold Ingest.authorize Ingest.approversOf
  simp (disch := decide) only [twins.getStr, twins.execution, twins.needsRoot, twins.isApplied,
    twins.verifyAuthorization]

end Twins

/-- A plan with another envelope in its place. -/
def AppendPlan.readdressed (plan : AppendPlan) (received : Ingest.Received) : AppendPlan :=
  { plan with
    envelope := received.env
    id := received.id
    canonicalJson := received.canonicalJson
    projections := { plan.projections with
      revocation := plan.projections.revocation.map fun projected => (received.id, projected.2) } }

/-- Two requests as they were read that differ in the correlation reference and the signature only. -/
structure TwinsReceived (ext : External) (first second : Ingest.Received) : Prop where
  twins : Twins ext first.env second.env
  payloads : second.payloads = first.payloads
  id : Signed.objectId ext first.env = .ok first.id
  id' : Signed.objectId ext second.env = .ok second.id

namespace TwinsReceived

open Ingest

variable {ext : External} {first second : Received} {config : Config} {store : Store} {policy : Policy}
  {roots : List KeyId} {subjectKey : KeyId} {plan : AppendPlan} {payloads : List Value}

/-- Two plans that differ in the envelope only. -/
abbrev Readdressed (second : Received) (plan other : AppendPlan) : Prop :=
  other = plan.readdressed second

theorem accrueBudget (twins : TwinsReceived ext first second) :
    Ingest.accrueBudget store second.env (plan.readdressed second) =
      (Ingest.accrueBudget store first.env plan).readdressed second := by
  unfold Ingest.accrueBudget
  rw [twins.twins.accrualOf, twins.twins.getStr (by decide) (by decide)]
  cases first.env.getStr "mandate-ref" with
  | none => rfl
  | some mandateRef =>
      dsimp only
      split
      · rfl
      · split
        · rfl
        · rfl

theorem flagProhibited (twins : TwinsReceived ext first second) (effective : String) :
    Ingest.flagProhibited second.env effective (plan.readdressed second) =
      (Ingest.flagProhibited first.env effective plan).readdressed second := by
  unfold Ingest.flagProhibited
  rw [twins.twins.isApplied]
  split
  · rfl
  · rfl

theorem flagDenied (twins : TwinsReceived ext first second) (decision : Decision) :
    Ingest.flagDenied second.env decision (plan.readdressed second) =
      (Ingest.flagDenied first.env decision plan).readdressed second := by
  unfold Ingest.flagDenied
  rw [twins.twins.isApplied]
  split
  · rfl
  · rfl

theorem validatePolicyChange (twins : TwinsReceived ext first second) :
    Agree (Readdressed second) (Ingest.validatePolicyChange ext config store first.env payloads plan)
      (Ingest.validatePolicyChange ext config store second.env payloads (plan.readdressed second)) := by
  unfold Ingest.validatePolicyChange
  rw [twins.twins.argsHashOf, twins.twins.execution]
  refine Agree.bind_same fun _ => Agree.bind_same fun _ => Agree.bind_same fun _ => Agree.bind_same fun _ => ?_
  exact Agree.bind_same fun _ => Agree.bind_same fun _ => Agree.bind_same fun _ => .passed rfl

theorem projectPolicy (twins : TwinsReceived ext first second) :
    Agree (Readdressed second) (Ingest.projectPolicy ext config store first.env payloads plan)
      (Ingest.projectPolicy ext config store second.env payloads (plan.readdressed second)) := by
  unfold Ingest.projectPolicy
  rw [twins.twins.getStr (by decide) (by decide)]
  exact Agree.ite (fun _ => twins.validatePolicyChange) fun _ => .passed rfl

theorem validateRegistration (twins : TwinsReceived ext first second) :
    Agree (Readdressed second) (Ingest.validateRegistration ext store first.env payloads plan)
      (Ingest.validateRegistration ext store second.env payloads (plan.readdressed second)) := by
  unfold Ingest.validateRegistration
  rw [twins.twins.argsHashOf]
  refine Agree.bind_same fun _ => Agree.bind_same fun _ => Agree.bind_same fun _ => Agree.bind_same fun _ => ?_
  exact Agree.bind_same fun _ => Agree.bind_same fun _ => Agree.bind_same fun _ => .passed rfl

theorem validateRootChange (twins : TwinsReceived ext first second) :
    Agree (Readdressed second) (Ingest.validateRootChange first.env payloads roots subjectKey plan)
      (Ingest.validateRootChange second.env payloads roots subjectKey (plan.readdressed second)) := by
  unfold Ingest.validateRootChange
  rw [twins.twins.rootChange]
  refine Agree.bind_same fun _ => Agree.bind_same fun change => ?_
  cases change with
  | enrol key subject => exact .passed rfl
  | retire key => exact .passed rfl

theorem validateAction (twins : TwinsReceived ext first second) :
    Agree (Readdressed second) (Ingest.validateAction ext store first.env payloads roots subjectKey plan)
      (Ingest.validateAction ext store second.env payloads roots subjectKey (plan.readdressed second)) := by
  unfold Ingest.validateAction
  rw [twins.twins.execution, twins.twins.streamResume]
  generalize (execution first.env).getStr "action" = action
  split
  · exact twins.validateRegistration
  · exact twins.validateRootChange
  · exact twins.validateRootChange
  · exact Agree.bind_same fun _ => .passed rfl
  · exact .passed rfl

theorem projectEffect (twins : TwinsReceived ext first second) :
    Agree (Readdressed second) (Ingest.projectEffect ext config store first.env payloads roots subjectKey plan)
      (Ingest.projectEffect ext config store second.env payloads roots subjectKey (plan.readdressed second)) := by
  unfold Ingest.projectEffect
  refine twins.projectPolicy.bind fun reached _ same => ?_
  subst same
  refine twins.validateAction.bind fun projected _ same => ?_
  subst same
  rw [twins.twins.isApplied, twins.twins.needsRoot]
  apply Agree.passed
  unfold Readdressed
  split
  · rfl
  · rfl

theorem applyGate (twins : TwinsReceived ext first second) (applied : Bool)
    (verified : Result (Option Gate.AuthorizationOk)) :
    Agree (Readdressed second) (Ingest.applyGate first.env applied plan verified)
      (Ingest.applyGate second.env applied (plan.readdressed second) verified) := by
  unfold Ingest.applyGate
  cases verified with
  | ok authorized =>
      cases authorized with
      | none => exact .passed rfl
      | some ok =>
          dsimp only
          rw [twins.twins.gateUseOf]
          exact .passed rfl
  | error refusal =>
      apply Agree.ite
      · exact fun _ => .passed rfl
      · exact fun _ => .refused refusal

theorem collectPayloads (twins : TwinsReceived ext first second) (class_ : Option String) :
    Agree (Readdressed second) (Ingest.collectPayloads first.env payloads policy class_ plan)
      (Ingest.collectPayloads second.env payloads policy class_ (plan.readdressed second)) := by
  have env := twins.twins
  have folded : ∀ emittedAt, Agree (Readdressed second) (foldChecked (collectPayload first.env emittedAt) plan payloads)
      (foldChecked (collectPayload second.env emittedAt) (plan.readdressed second) payloads) := by
    intro emittedAt
    refine Agree.foldChecked (fun reached other payload same => ?_) rfl
    subst same
    unfold collectPayload
    refine Agree.bind_same fun _ => Agree.bind_same fun _ => Agree.bind_same fun _ => .passed ?_
    rw [env.retainUntilFor]
    rfl
  unfold Ingest.collectPayloads
  simp (disch := decide) only [env.getStr, env.get]
  generalize first.env.get "evidence" = evidence
  cases class_ with
  | none => exact folded _
  | some class_ =>
      cases evidence with
      | none => exact folded _
      | some evidence =>
          apply Agree.ite
          · exact fun _ => Agree.bind_same fun _ => Agree.bind_same fun _ => Agree.bind_same fun _ => folded _
          · exact fun _ => .passed rfl

/-- No approval in the store was spent by either of the two. -/
def Unspent (store : Store) (first second : Received) : Prop :=
  ∀ hash spender, store.gateRequestSpentBy hash = some spender → spender ≠ first.id ∧ spender ≠ second.id

theorem spentBy (twins : TwinsReceived ext first second) (unspent : Unspent store first second) :
    Ingest.spentBy store second.env second.id = Ingest.spentBy store first.env first.id := by
  unfold Ingest.spentBy
  rw [twins.twins.index (by decide) (by decide)]
  cases ((first.env.index "authorization").index "decision").getStr "request-hash" with
  | none => rfl
  | some hash =>
      show (store.gateRequestSpentBy hash).bind _ = (store.gateRequestSpentBy hash).bind _
      cases found : store.gateRequestSpentBy hash with
      | none => rfl
      | some spender =>
          obtain ⟨notFirst, notSecond⟩ := unspent hash spender found
          rw [Option.bind_some, Option.bind_some, if_pos notFirst, if_pos notSecond]

theorem gateEffect (twins : TwinsReceived ext first second) (unspent : Unspent store first second)
    (effective : String) (isId : plan.id = first.id) :
    Agree (Readdressed second) (Ingest.gateEffect ext store first.env policy effective plan)
      (Ingest.gateEffect ext store second.env policy effective (plan.readdressed second)) := by
  have env := twins.twins
  have spent : Ingest.spentBy store second.env (plan.readdressed second).id =
      Ingest.spentBy store first.env plan.id := by
    rw [isId]
    exact twins.spentBy unspent
  unfold Ingest.gateEffect
  rw [env.execution, env.get (by decide) (by decide)]
  refine Agree.bind_same fun _ => ?_
  dsimp only
  rw [spent, env.isApplied, env.authorize, twins.flagDenied]
  exact twins.applyGate _ _

theorem accrueBudget_id {env : Value} : (Ingest.accrueBudget store env plan).id = plan.id :=
  (accrueBudget_same store env plan).1.id

theorem validateEffectKind (twins : TwinsReceived ext first second) (unspent : Unspent store first second)
    (isId : plan.id = first.id) :
    Agree (Readdressed second)
      (Ingest.validateEffectKind ext config store first.env policy roots subjectKey plan payloads)
      (Ingest.validateEffectKind ext config store second.env policy roots subjectKey (plan.readdressed second)
        payloads) := by
  have env := twins.twins
  unfold Ingest.validateEffectKind
  rw [env.index (by decide) (by decide), env.effectRequests]
  refine Agree.bind_same fun requests => ?_
  rw [env.classifyEnvelope]
  refine Agree.bind_same fun classified => ?_
  obtain ⟨manifest, effective⟩ := classified
  dsimp only
  rw [env.walkEffect]
  refine Agree.bind_same fun humanRoot => ?_
  have flagged := @flagProhibited _ _ _ { plan with effectiveClass := some effective } twins effective
  have budgeted := @accrueBudget _ _ _ store
    { Ingest.flagProhibited first.env effective { plan with effectiveClass := some effective } with humanRoot } twins
  have same : Ingest.accrueBudget store second.env
      { Ingest.flagProhibited second.env effective
        { plan.readdressed second with effectiveClass := some effective } with humanRoot } =
      (Ingest.accrueBudget store first.env { Ingest.flagProhibited first.env effective
        { plan with effectiveClass := some effective } with humanRoot }).readdressed second := by
    rw [← budgeted]
    congr 1
    show ({ Ingest.flagProhibited second.env effective
      (({ plan with effectiveClass := some effective } : AppendPlan).readdressed second) with humanRoot } : AppendPlan) = _
    rw [flagged]
    rfl
  rw [same, env.validateTrigger, env.checkAggregate]
  refine Agree.bind_same fun _ => Agree.bind_same fun _ => ?_
  refine twins.projectEffect.bind_ok fun projected _ done same => ?_
  subst same
  have isFirst : projected.id = first.id := by
    rw [(projectEffect_same done).id, accrueBudget_id]
    show (Ingest.flagProhibited first.env effective { plan with effectiveClass := some effective }).id = first.id
    rw [(flagProhibited_same first.env effective _).1.id]
    exact isId
  rw [env.validateCommitment]
  refine Agree.bind_same fun _ => ?_
  refine (twins.gateEffect unspent effective isFirst).bind fun gated _ same => ?_
  subst same
  exact twins.collectPayloads (some effective)

theorem walkMandateWithDepth (twins : TwinsReceived ext first second) (at_ : String) (depth : Nat)
    (request : Mandate.MandateRequest) :
    Ingest.walkMandateWithDepth ext store second.env roots subjectKey at_ depth request =
      Ingest.walkMandateWithDepth ext store first.env roots subjectKey at_ depth request := by
  unfold Ingest.walkMandateWithDepth
  rw [twins.twins.mandateRefOf]

theorem validateCognition (twins : TwinsReceived ext first second) :
    Agree (Readdressed second) (Ingest.validateCognition ext store first.env policy roots subjectKey plan)
      (Ingest.validateCognition ext store second.env policy roots subjectKey (plan.readdressed second)) := by
  have env := twins.twins
  unfold Ingest.validateCognition walkMandateForResource
  rw [env.resourceOf, env.getStr (by decide) (by decide), env.mandateRefOf]
  refine Agree.bind_same fun _ => Agree.bind_same fun humanRoot => .passed ?_
  exact @accrueBudget _ _ _ store { plan with humanRoot := some humanRoot } twins

theorem validateMandateGrant (twins : TwinsReceived ext first second) :
    Agree (Readdressed second) (Ingest.validateMandateGrant ext store first.env policy roots plan)
      (Ingest.validateMandateGrant ext store second.env policy roots (plan.readdressed second)) := by
  unfold Ingest.validateMandateGrant projectMandate
  rw [twins.twins.get (by decide) (by decide)]
  refine Agree.bind_same fun _ => Agree.bind_same fun _ => Agree.bind_same fun _ => Agree.bind_same fun _ => ?_
  exact Agree.bind_same fun _ => Agree.bind_same fun _ => .passed rfl

theorem validateRevocation (twins : TwinsReceived ext first second) :
    Agree (Readdressed second) (Ingest.validateRevocation ext store first.env roots plan)
      (Ingest.validateRevocation ext store second.env roots (plan.readdressed second)) := by
  have env := twins.twins
  have named : ∀ object : Value, forEach (fun name => require (sameMember (second.env.get name) (object.get name))
        (err "revocation-object-mismatch" s!"the envelope's {name} does not match the signed revocation object"))
        ["revokes", "revoked-at", "reason"] =
      forEach (fun name => require (sameMember (first.env.get name) (object.get name))
        (err "revocation-object-mismatch" s!"the envelope's {name} does not match the signed revocation object"))
        ["revokes", "revoked-at", "reason"] := by
    intro object
    have plain : ∀ name ∈ ["revokes", "revoked-at", "reason"], name ≠ "correlation-ref" ∧ name ≠ "sig" := by decide
    apply forEach_congr
    intro name member
    rw [env.get (plain name member).1 (plain name member).2]
  unfold Ingest.validateRevocation
  rw [env.get (by decide) (by decide), env.getStr (by decide) (by decide), env.getStr (by decide) (by decide),
    twins.id, twins.id']
  refine Agree.bind_same fun object => ?_
  rw [named]
  refine Agree.bind_same fun _ => Agree.bind_same fun _ => Agree.bind_same fun _ => Agree.bind_same fun _ => ?_
  exact Agree.bind_same fun _ => Agree.bind_same fun _ => .passed rfl

theorem validateGateDecision (twins : TwinsReceived ext first second) (at_ : String) :
    Agree (Readdressed second) (Ingest.validateGateDecision ext store first.env roots policy at_ plan)
      (Ingest.validateGateDecision ext store second.env roots policy at_ (plan.readdressed second)) := by
  have env := twins.twins
  unfold Ingest.validateGateDecision decideQueued
  rw [env.getStr (by decide) (by decide), env.get (by decide) (by decide)]
  refine Agree.bind_same fun decisionOf => Agree.bind_same fun _ => ?_
  cases first.env.get "decision" with
  | none => exact .passed rfl
  | some decision =>
      refine Agree.bind_same fun _ => Agree.bind_same fun _ => Agree.bind_same fun _ => Agree.bind_same fun _ => ?_
      cases store.gateRequest decisionOf with
      | none => exact .passed rfl
      | some queued =>
          refine Agree.bind_same fun _ => Agree.bind_same fun _ => Agree.bind_same fun _ => ?_
          exact .passed rfl

theorem validateCheckpoint (twins : TwinsReceived ext first second) :
    Agree (Readdressed second) (Ingest.validateCheckpoint ext config store first.env plan)
      (Ingest.validateCheckpoint ext config store second.env (plan.readdressed second)) := by
  unfold Ingest.validateCheckpoint
  rw [twins.twins.get (by decide) (by decide), twins.twins.sigKey]
  refine Agree.bind_same fun _ => Agree.bind_same fun _ => Agree.bind_same fun _ => Agree.bind_same fun claimed => ?_
  obtain ⟨claim, count⟩ := claimed
  refine Agree.bind_same fun _ => Agree.bind_same fun _ => Agree.bind_same fun _ => Agree.bind_same fun _ => ?_
  exact Agree.bind_same fun _ => Agree.bind_same fun _ => .passed rfl

theorem validateGenesis (twins : TwinsReceived ext first second) :
    Agree (Readdressed second) (Ingest.validateGenesis ext config store first.env roots subjectKey plan payloads)
      (Ingest.validateGenesis ext config store second.env roots subjectKey (plan.readdressed second) payloads) := by
  have env := twins.twins
  unfold Ingest.validateGenesis
  simp (disch := decide) only [env.getStr, env.getU64]
  refine Agree.bind_same fun _ => Agree.ite (fun _ => ?_) fun _ => Agree.ite (fun _ => ?_) fun _ => .refused _
  · unfold validateGenesisMandate projectMandate
    rw [env.get (by decide) (by decide)]
    refine Agree.bind_same fun _ => Agree.bind_same fun _ => Agree.bind_same fun _ => ?_
    exact Agree.bind_same fun _ => .passed rfl
  · unfold validateGenesisPolicy
    simp (disch := decide) only [env.getStr, env.index, env.execution, env.verifyAuthorization,
      twins.walkMandateWithDepth, env.gateUseOf]
    refine Agree.bind_same fun _ => twins.validatePolicyChange.bind fun changed _ same => ?_
    subst same
    exact Agree.bind_same fun _ => Agree.bind_same fun _ => Agree.bind_same fun _ => .passed rfl

theorem validateKind (twins : TwinsReceived ext first second) (unspent : Unspent store first second)
    (isId : plan.id = first.id) :
    Agree (Readdressed second) (Ingest.validateKind ext config store first.env policy roots subjectKey plan payloads)
      (Ingest.validateKind ext config store second.env policy roots subjectKey (plan.readdressed second)
        payloads) := by
  unfold Ingest.validateKind
  rw [twins.twins.getStr (by decide) (by decide), twins.twins.getStr (by decide) (by decide)]
  refine Agree.ite (fun _ => twins.validateEffectKind unspent isId) fun _ => ?_
  refine Agree.ite (fun _ => twins.validateCognition) fun _ => ?_
  refine Agree.ite (fun _ => twins.collectPayloads none) fun _ => ?_
  refine Agree.ite (fun _ => twins.validateMandateGrant) fun _ => ?_
  refine Agree.ite (fun _ => twins.validateRevocation) fun _ => ?_
  refine Agree.ite (fun _ => twins.validateGateDecision _) fun _ => ?_
  exact Agree.ite (fun _ => twins.validateCheckpoint) fun _ => .refused _

theorem verifyIngest (twins : TwinsReceived ext first second) (payloads : List Value) :
    Agree (fun _ _ => True) (Payload.verifyIngest ext first.env payloads)
      (Payload.verifyIngest ext second.env payloads) := by
  have referenced : Payload.referencedHashes second.env = Payload.referencedHashes first.env := by
    have plain : ∀ name ∈ ["evidence", "signal"], name ≠ "correlation-ref" ∧ name ≠ "sig" := by decide
    unfold Payload.referencedHashes
    apply List.filterMap_congr
    intro name member
    rw [twins.twins.get (plain name member).1 (plain name member).2]
  unfold Payload.verifyIngest
  rw [twins.twins.validate, referenced, twins.id, twins.id']
  exact Agree.bind_same fun _ => Agree.bind_same fun _ => .passed True.intro

/-- The plans of the two, against one state of the store, differ in the envelope only. -/
theorem planEnvelope (twins : TwinsReceived ext first second) (unspent : Unspent store first second)
    (receivedAt : String) :
    Agree (Readdressed second)
      (Ingest.planEnvelope ext config store first.env first.payloads first.id first.canonicalJson receivedAt)
      (Ingest.planEnvelope ext config store second.env second.payloads second.id second.canonicalJson receivedAt) := by
  have env := twins.twins
  obtain ⟨key, signed, signed'⟩ := env.signed
  have start : initialPlan second.env second.id second.canonicalJson receivedAt =
      (initialPlan first.env first.id first.canonicalJson receivedAt).readdressed second := by
    unfold initialPlan
    rw [env.getStr (by decide) (by decide)]
    rfl
  unfold Ingest.planEnvelope
  rw [signed, signed', env.validate, env.getStr (by decide) (by decide), twins.payloads, start]
  refine Agree.bind_same fun _ => Agree.bind_same fun _ => Agree.bind_same fun _ => Agree.bind_same fun _ => ?_
  refine (twins.verifyIngest first.payloads).bind fun _ _ _ => Agree.bind_same fun policy => ?_
  cases policy with
  | none => exact twins.validateGenesis
  | some policy =>
      refine (twins.validateKind unspent rfl).bind fun reached _ same => ?_
      subst same
      unfold checkNoAuthorization
      rw [env.getStr (by decide) (by decide), env.get (by decide) (by decide)]
      exact Agree.bind_same fun _ => .passed rfl

end TwinsReceived

end Stozher
