import Stozher.Ingest.Submit

namespace Stozher

open Library

namespace AppendPlan

/-- Two plans for one envelope as it arrived. -/
structure SameRecord (before after : AppendPlan) : Prop where
  envelope : after.envelope = before.envelope
  id : after.id = before.id
  canonicalJson : after.canonicalJson = before.canonicalJson
  streamKind : after.streamKind = before.streamKind
  receivedAt : after.receivedAt = before.receivedAt

theorem SameRecord.refl (plan : AppendPlan) : SameRecord plan plan :=
  ⟨rfl, rfl, rfl, rfl, rfl⟩

theorem SameRecord.trans {a b c : AppendPlan} (first : SameRecord a b) (second : SameRecord b c) :
    SameRecord a c where
  envelope := second.envelope.trans first.envelope
  id := second.id.trans first.id
  canonicalJson := second.canonicalJson.trans first.canonicalJson
  streamKind := second.streamKind.trans first.streamKind
  receivedAt := second.receivedAt.trans first.receivedAt

end AppendPlan

namespace Ingest

variable {ext : External} {config : Config} {store : Store} {env : Value} {policy : Policy}
  {roots : List KeyId} {subjectKey : KeyId} {plan next : AppendPlan} {payloads : List Value}

theorem accrueBudget_same (store : Store) (env : Value) (plan : AppendPlan) :
    plan.SameRecord (accrueBudget store env plan) ∧
      (accrueBudget store env plan).projections = plan.projections ∧
      (accrueBudget store env plan).gateUse = plan.gateUse := by
  unfold accrueBudget
  split
  · exact ⟨.refl _, rfl, rfl⟩
  · dsimp only
    split
    · exact ⟨.refl _, rfl, rfl⟩
    · split <;> exact ⟨⟨rfl, rfl, rfl, rfl, rfl⟩, rfl, rfl⟩

theorem collectPayload_eq_ok {emittedAt : String} {payload : Value}
    (collected : collectPayload env emittedAt plan payload = .ok next) :
    ∃ payloadHash mediaType bytes, payload.getStr "payload-hash" = some payloadHash ∧
      next = { plan with payloads := plan.payloads ++
        [{ payloadHash, mediaType, bytes, retainUntil := (retainUntilFor env payloadHash).getD emittedAt }] } := by
  unfold collectPayload at collected
  simp only [bind_eq_ok, okOr_eq_ok, pure_eq_ok] at collected
  obtain ⟨payloadHash, named, mediaType, _, bytes, _, rfl⟩ := collected
  exact ⟨payloadHash, mediaType, bytes, named, rfl⟩

/-- Payloads are collected one by one, or dropped. -/
theorem collectPayloads_eq_ok {class_ : Option String}
    (collected : collectPayloads env payloads policy class_ plan = .ok next) :
    next = plan ∨ foldChecked (collectPayload env ((env.getStr "emitted-at").getD "")) plan payloads = .ok next := by
  unfold collectPayloads at collected
  dsimp only at collected
  split at collected
  · split at collected
    · simp only [bind_eq_ok, require_eq_ok] at collected
      obtain ⟨claimed, _, ceiling, _, _, _, run⟩ := collected
      exact .inr run
    · cases collected
      exact .inl rfl
  · exact .inr collected

/-- Collecting payloads changes the payloads of the plan and nothing else of it. -/
theorem collectPayloads_rest {class_ : Option String}
    (collected : collectPayloads env payloads policy class_ plan = .ok next) :
    ∃ rows, next = { plan with payloads := rows } := by
  rcases collectPayloads_eq_ok collected with rfl | run
  · exact ⟨next.payloads, rfl⟩
  · refine foldChecked_invariant (fun reached => ∃ rows, reached = { plan with payloads := rows }) ?_
      ⟨plan.payloads, rfl⟩ run
    intro state payload reached _ known step
    obtain ⟨_, _, _, _, rfl⟩ := collectPayload_eq_ok step
    obtain ⟨rows, rfl⟩ := known
    exact ⟨_, rfl⟩

theorem collectPayloads_same {class_ : Option String}
    (collected : collectPayloads env payloads policy class_ plan = .ok next) :
    plan.SameRecord next ∧ next.projections = plan.projections ∧ next.gateUse = plan.gateUse := by
  obtain ⟨rows, rfl⟩ := collectPayloads_rest collected
  exact ⟨⟨rfl, rfl, rfl, rfl, rfl⟩, rfl, rfl⟩

theorem projectMandate_eq_ok {mandate : Value} (projected : projectMandate ext mandate plan = .ok next) :
    ∃ id, Signed.objectId ext mandate = .ok id ∧
      next = { plan with projections := { plan.projections with mandate := some (id, mandate) } } := by
  unfold projectMandate at projected
  simp only [bind_eq_ok, pure_eq_ok] at projected
  obtain ⟨id, hashed, rfl⟩ := projected
  exact ⟨id, hashed, rfl⟩

theorem validatePolicyChange_eq_ok
    (valid : validatePolicyChange ext config store env payloads plan = .ok next) :
    ∃ argsHash document incoming, argsHashOf env = .ok argsHash ∧
      boundDocument payloads argsHash = some document ∧
      Jcs.objectHash ext document = .ok argsHash ∧
      Policy.parse ext document config.policyKey = .ok incoming ∧
      (execution env).getStr "target" = some s!"policy:{incoming.version}" ∧
      next = { plan with projections := { plan.projections with
        policy := some (incoming.version, document, incoming.documentHash) } } := by
  unfold validatePolicyChange at valid
  simp only [bind_eq_ok, okOr_eq_ok, require_eq_ok, pure_eq_ok] at valid
  obtain ⟨argsHash, named, document, bound, computed, hashed, _, same, incoming, parsed, _, target,
    _, _, rfl⟩ := valid
  subst same
  exact ⟨computed, document, incoming, named, bound, hashed, parsed, target, rfl⟩

theorem validateRegistration_eq_ok
    (valid : validateRegistration ext store env payloads plan = .ok next) :
    ∃ argsHash document manifest, argsHashOf env = .ok argsHash ∧
      boundDocument payloads argsHash = some document ∧
      Manifest.parse ext document = .ok manifest ∧ manifest.hash = argsHash ∧
      next = { plan with projections := { plan.projections with
        manifest := some {
          name := manifest.name
          version := manifest.version
          hash := manifest.hash
          componentKey := manifest.componentKey.text
          document } } } := by
  unfold validateRegistration at valid
  simp only [bind_eq_ok, okOr_eq_ok, require_eq_ok, pure_eq_ok] at valid
  obtain ⟨argsHash, named, document, bound, manifest, parsed, _, same, _, _, _, _, _, _, rfl⟩ := valid
  exact ⟨argsHash, document, manifest, named, bound, parsed, same, rfl⟩

theorem validateRootChange_eq_ok
    (valid : validateRootChange env payloads roots subjectKey plan = .ok next) :
    subjectKey ∈ roots ∧
      ((∃ key subject, rootChange env payloads = .ok (.enrol key subject) ∧
        next = { plan with projections := { plan.projections with enrollRoot := some (key, subject) } }) ∨
      (∃ key, rootChange env payloads = .ok (.retire key) ∧
        next = { plan with projections := { plan.projections with retireRoot := some key } })) := by
  unfold validateRootChange at valid
  rw [require_bind_eq_ok, bind_eq_ok] at valid
  obtain ⟨enrolled, change, changed, valid⟩ := valid
  refine ⟨enrolled, ?_⟩
  cases change with
  | enrol key subject =>
      cases valid
      exact Or.inl ⟨key, subject, changed, rfl⟩
  | retire key =>
      cases valid
      exact Or.inr ⟨key, changed, rfl⟩

/-- What the action of an accepted envelope projects. -/
inductive ActionProjects (ext : External) (store : Store) (env : Value) (payloads : List Value)
    (roots : List KeyId) (subjectKey : KeyId) (plan : AppendPlan) : AppendPlan → Prop where
  | registers {next : AppendPlan}
      (action : (execution env).getStr "action" = some "kernel.register_component")
      (valid : validateRegistration ext store env payloads plan = .ok next) :
      ActionProjects ext store env payloads roots subjectKey plan next
  | changesRoots {next : AppendPlan}
      (action : (execution env).getStr "action" = some "kernel.enroll_root" ∨
        (execution env).getStr "action" = some "kernel.retire_root")
      (valid : validateRootChange env payloads roots subjectKey plan = .ok next) :
      ActionProjects ext store env payloads roots subjectKey plan next
  | resumes (resume : StreamResume)
      (action : (execution env).getStr "action" = some "kernel.resume_stream")
      (valid : streamResume env payloads = .ok resume) :
      ActionProjects ext store env payloads roots subjectKey plan { plan with
        projections := { plan.projections with streamResume := some resume } }
  | nothing : ActionProjects ext store env payloads roots subjectKey plan plan

theorem validateAction_eq_ok
    (valid : validateAction ext store env payloads roots subjectKey plan = .ok next) :
    ActionProjects ext store env payloads roots subjectKey plan next := by
  unfold validateAction at valid
  split at valid
  · rename_i action
    exact .registers action valid
  · rename_i action
    exact .changesRoots (Or.inl action) valid
  · rename_i action
    exact .changesRoots (Or.inr action) valid
  · rename_i action
    simp only [bind_eq_ok, pure_eq_ok] at valid
    obtain ⟨resume, valid, rfl⟩ := valid
    exact .resumes resume action valid
  · cases valid
    exact .nothing

theorem projectEffect_eq_ok
    (valid : projectEffect ext config store env payloads roots subjectKey plan = .ok next) :
    ∃ changed acted, projectPolicy ext config store env payloads plan = .ok changed ∧
      ActionProjects ext store env payloads roots subjectKey changed acted ∧
      next = if isApplied env = false ∧ needsRoot env = true then clearPrivileged acted else acted := by
  unfold projectEffect at valid
  simp only [bind_eq_ok, pure_eq_ok] at valid
  obtain ⟨changed, change, acted, action, rfl⟩ := valid
  exact ⟨changed, acted, change, validateAction_eq_ok action, rfl⟩

theorem applyGate_eq_ok {applied : Bool} {verified : Result (Option Gate.AuthorizationOk)}
    (passed : applyGate env applied plan verified = .ok next) :
    (∃ ok, verified = .ok (some ok) ∧
        next = { plan with gateUse := if applied then some (gateUseOf env ok) else none }) ∨
      (verified = .ok none ∧ next = plan) ∨
      (∃ e, verified = .error e ∧ applied = false ∧ next = plan) := by
  unfold applyGate at passed
  split at passed
  · rename_i ok
    cases passed
    exact Or.inl ⟨ok, rfl, rfl⟩
  · cases passed
    exact Or.inr (Or.inl ⟨rfl, rfl⟩)
  · rename_i e
    split at passed
    · rename_i denied
      cases passed
      exact Or.inr (Or.inr ⟨e, rfl, denied.2, rfl⟩)
    · cases passed

theorem flagDenied_same (env : Value) (decision : Decision) (plan : AppendPlan) :
    plan.SameRecord (flagDenied env decision plan) ∧
      (flagDenied env decision plan).projections = plan.projections ∧
      (flagDenied env decision plan).gateUse = plan.gateUse := by
  unfold flagDenied
  split
  · exact ⟨⟨rfl, rfl, rfl, rfl, rfl⟩, rfl, rfl⟩
  · exact ⟨.refl plan, rfl, rfl⟩

/-- How the gate rule lets an envelope through: with its authorization verified, with none where none
is required, or as an attempt that was refused. -/
inductive Gated (ext : External) (store : Store) (env : Value) (decision : Decision)
    (before : Option GateUse) : Option GateUse → Prop where
  | authorized (spent : Option (String × String)) (ok : Gate.AuthorizationOk)
      (verified : authorize ext store env decision spent = .ok (some ok)) :
      Gated ext store env decision before
        (if isApplied env then some (gateUseOf env ok) else none)
  | open_ (spent : Option (String × String))
      (verified : authorize ext store env decision spent = .ok none) :
      Gated ext store env decision before before
  | attempted (attempt : isApplied env = false) : Gated ext store env decision before before

theorem gateEffect_eq_ok {effective : String}
    (passed : gateEffect ext store env policy effective plan = .ok next) :
    plan.SameRecord next ∧ next.projections = plan.projections ∧
      Envelope.whenPresent (env.get "authorization") (GateQueue.validateEmbedded ext) = .ok () ∧
      Gated ext store env
        (policy.decisionFor effective (((execution env).getStr "action").getD "")) plan.gateUse
        next.gateUse := by
  unfold gateEffect at passed
  simp only [bind_eq_ok] at passed
  obtain ⟨_, embedded, passed⟩ := passed
  obtain ⟨record, projections, gateUse⟩ := flagDenied_same env
    (policy.decisionFor effective (((execution env).getStr "action").getD "")) plan
  rcases applyGate_eq_ok passed with ⟨ok, verified, rfl⟩ | ⟨verified, rfl⟩ | ⟨e, _, attempt, rfl⟩
  · rw [mapError_eq_ok] at verified
    exact ⟨record.trans ⟨rfl, rfl, rfl, rfl, rfl⟩, projections, embedded, .authorized _ ok verified⟩
  · rw [mapError_eq_ok] at verified
    rw [gateUse]
    exact ⟨record, projections, embedded, .open_ _ verified⟩
  · rw [gateUse]
    exact ⟨record, projections, embedded, .attempted attempt⟩

theorem flagProhibited_same (env : Value) (effective : String) (plan : AppendPlan) :
    plan.SameRecord (flagProhibited env effective plan) ∧
      (flagProhibited env effective plan).projections = plan.projections ∧
      (flagProhibited env effective plan).gateUse = plan.gateUse := by
  unfold flagProhibited
  split
  · exact ⟨⟨rfl, rfl, rfl, rfl, rfl⟩, rfl, rfl⟩
  · exact ⟨.refl plan, rfl, rfl⟩

theorem validateEffectKind_eq_ok
    (valid : validateEffectKind ext config store env policy roots subjectKey plan payloads = .ok next) :
    ∃ requests manifest effective humanRoot start projected gated,
      effectRequests env = .ok requests ∧
      classifyEnvelope ext store env policy requests = .ok (manifest, effective) ∧
      walkEffect ext store env policy roots subjectKey requests = .ok humanRoot ∧
      plan.SameRecord start ∧ start.projections = plan.projections ∧ start.gateUse = plan.gateUse ∧
      projectEffect ext config store env payloads roots subjectKey start = .ok projected ∧
      gateEffect ext store env policy effective projected = .ok gated ∧
      collectPayloads env payloads policy (some effective) gated = .ok next := by
  unfold validateEffectKind at valid
  simp only [bind_eq_ok] at valid
  obtain ⟨requests, requested, ⟨manifest, effective⟩, classified, humanRoot, walked, _, _, _, _,
    projected, projects, _, _, gated, gate, collected⟩ := valid
  obtain ⟨flagged, flaggedProjections, flaggedUse⟩ := flagProhibited_same env effective
    { plan with effectiveClass := some effective }
  obtain ⟨accrued, accruedProjections, accruedUse⟩ := accrueBudget_same store env
    { flagProhibited env effective { plan with effectiveClass := some effective } with humanRoot }
  refine ⟨requests, manifest, effective, humanRoot, _, projected, gated, requested, classified, walked,
    ?_, ?_, ?_, projects, gate, collected⟩
  · have begun : plan.SameRecord { plan with effectiveClass := some effective } :=
      ⟨rfl, rfl, rfl, rfl, rfl⟩
    have walkedTo : ∀ p : AppendPlan, p.SameRecord { p with humanRoot } :=
      fun _ => ⟨rfl, rfl, rfl, rfl, rfl⟩
    exact ((begun.trans flagged).trans (walkedTo _)).trans accrued
  · exact accruedProjections.trans flaggedProjections
  · exact accruedUse.trans flaggedUse

theorem validateCognition_eq_ok
    (valid : validateCognition ext store env policy roots subjectKey plan = .ok next) :
    ∃ resource humanRoot, resourceOf env = .ok resource ∧
      walkMandateForResource ext store env roots subjectKey ((env.getStr "emitted-at").getD "") policy
        resource = .ok humanRoot ∧
      plan.SameRecord next ∧ next.projections = plan.projections ∧ next.gateUse = plan.gateUse := by
  unfold validateCognition at valid
  simp only [bind_eq_ok, pure_eq_ok] at valid
  obtain ⟨resource, named, humanRoot, walked, rfl⟩ := valid
  obtain ⟨record, projections, gateUse⟩ := accrueBudget_same store env
    { plan with humanRoot := some humanRoot }
  have walkedTo : plan.SameRecord { plan with humanRoot := some humanRoot } :=
    ⟨rfl, rfl, rfl, rfl, rfl⟩
  exact ⟨resource, humanRoot, named, walked, walkedTo.trans record, projections, gateUse⟩

theorem validateMandateGrant_eq_ok
    (valid : validateMandateGrant ext store env policy roots plan = .ok next) :
    ∃ mandate id parent ceiling, env.get "mandate" = some mandate ∧
      grantParent store mandate = .ok parent ∧
      Mandate.verifyGrant ext mandate parent { roots, maxStandingNotAfter := some ceiling } = .ok () ∧
      Signed.objectId ext mandate = .ok id ∧
      next = { plan with projections := { plan.projections with mandate := some (id, mandate) } } := by
  unfold validateMandateGrant at valid
  simp only [bind_eq_ok, okOr_eq_ok] at valid
  obtain ⟨mandate, carried, _, _, parent, resolved, ceiling, _, _, granted, projected⟩ := valid
  obtain ⟨id, hashed, rfl⟩ := projectMandate_eq_ok projected
  exact ⟨mandate, id, parent, ceiling, carried, resolved, granted, hashed, rfl⟩

theorem validateRevocation_eq_ok (valid : validateRevocation ext store env roots plan = .ok next) :
    ∃ object target revokedAt id, env.get "revocation" = some object ∧
      (∀ name ∈ ["revokes", "revoked-at", "reason"],
        sameMember (env.get name) (object.get name) = true) ∧
      env.getStr "revokes" = some target ∧ env.getStr "revoked-at" = some revokedAt ∧
      Mandate.verifyRevocation ext (store.mandateAncestry target 16) object roots = .ok () ∧
      Signed.objectId ext env = .ok id ∧
      next = { plan with projections := { plan.projections with revocation := some (id, object) } } := by
  unfold validateRevocation at valid
  simp only [bind_eq_ok, okOr_eq_ok, forEach_eq_ok, require_eq_ok, pure_eq_ok] at valid
  obtain ⟨object, carried, _, same, target, targets, _, _, revokedAt, at_, _, _, _, verified, id,
    hashed, rfl⟩ := valid
  exact ⟨object, target, revokedAt, id, carried, same, targets, at_, verified, hashed, rfl⟩

theorem validateCheckpoint_eq_ok
    (valid : validateCheckpoint ext config store env plan = .ok next) :
    ∃ body claim count attested, (env.get "checkpoint").bind Value.asObject = some body ∧
      checkpointClaim body = .ok (claim, count) ∧
      (store.range claim.stream claim.toSeq claim.toSeq).head? = some attested ∧
      Signed.objectId ext attested = .ok claim.headHash ∧
      next = { plan with projections := { plan.projections with checkpoint := some claim } } := by
  unfold validateCheckpoint at valid
  simp only [bind_eq_ok, okOr_eq_ok, forEach_eq_ok, require_eq_ok, pure_eq_ok] at valid
  obtain ⟨body, carried, _, _, _, _, ⟨claim, count⟩, read, _, _, _, _, _, _, attested, found, head,
    hashed, _, same, rfl⟩ := valid
  subst same
  exact ⟨body, claim, count, attested, carried, read, found, hashed, rfl⟩

theorem decideQueued_eq_ok {decision request : Value} {at_ : String}
    (valid : decideQueued ext store decision request at_ plan = .ok next) :
    ∃ row, next = { plan with projections := { plan.projections with gateDecision := some row } } := by
  unfold decideQueued at valid
  simp only [bind_eq_ok, require_eq_ok, pure_eq_ok] at valid
  obtain ⟨queued, _, checked, _, _, _, rfl⟩ := valid
  exact ⟨_, rfl⟩

theorem validateGateDecision_eq_ok {at_ : String}
    (valid : validateGateDecision ext store env roots policy at_ plan = .ok next) :
    ∃ row, next = { plan with projections := { plan.projections with gateDecision := row } } := by
  unfold validateGateDecision at valid
  simp only [bind_eq_ok] at valid
  obtain ⟨_, _, _, _, valid⟩ := valid
  split at valid
  · cases valid
    exact ⟨plan.projections.gateDecision, rfl⟩
  · simp only [bind_eq_ok] at valid
    obtain ⟨_, _, _, _, _, _, _, _, valid⟩ := valid
    split at valid
    · obtain ⟨row, rfl⟩ := decideQueued_eq_ok valid
      exact ⟨some row, rfl⟩
    · cases valid
      exact ⟨plan.projections.gateDecision, rfl⟩

theorem validateGenesisMandate_eq_ok
    (valid : validateGenesisMandate ext config env roots plan = .ok next) :
    ∃ mandate id, env.get "mandate" = some mandate ∧
      mandate.getStr "mandate-kind" = some "interactive" ∧
      Mandate.verifyGrant ext mandate none { roots, maxStandingNotAfter := none } = .ok () ∧
      Signed.objectId ext mandate = .ok id ∧
      next = { plan with projections := { plan.projections with mandate := some (id, mandate) } } := by
  unfold validateGenesisMandate at valid
  simp only [bind_eq_ok, okOr_eq_ok, require_eq_ok] at valid
  obtain ⟨mandate, carried, _, kind, _, granted, projected⟩ := valid
  obtain ⟨id, hashed, rfl⟩ := projectMandate_eq_ok projected
  exact ⟨mandate, id, carried, kind, granted, hashed, rfl⟩

theorem validateGenesisPolicy_eq_ok
    (valid : validateGenesisPolicy ext config store env roots subjectKey plan payloads = .ok next) :
    ∃ changed humanRoot ok, validatePolicyChange ext config store env payloads plan = .ok changed ∧
      Gate.verifyAuthorization ext env true
        (rootApprovers store ((env.getStr "emitted-at").getD "")) [] = .ok (some ok) ∧
      next = { changed with
        humanRoot := some humanRoot
        effectiveClass := some ((env.getStr "classification").getD "")
        gateUse := some (gateUseOf env ok) } := by
  unfold validateGenesisPolicy at valid
  simp only [bind_eq_ok, okOr_eq_ok, require_eq_ok, pure_eq_ok] at valid
  obtain ⟨_, _, changed, change, humanRoot, _, _, verified, ok, rfl, rfl⟩ := valid
  exact ⟨changed, humanRoot, ok, change, verified, rfl⟩

/-- Which rule an accepted envelope passed, once a policy is in force. -/
inductive KindAdmits (ext : External) (config : Config) (store : Store) (env : Value)
    (policy : Policy) (roots : List KeyId) (subjectKey : KeyId) (plan : AppendPlan)
    (payloads : List Value) (next : AppendPlan) : Prop where
  | effect (kind : (env.getStr "kind").getD "" ∈ effectKinds)
      (valid : validateEffectKind ext config store env policy roots subjectKey plan payloads = .ok next)
  | cognition (kind : env.getStr "kind" = some "cognition")
      (valid : validateCognition ext store env policy roots subjectKey plan = .ok next)
  | signal (kind : env.getStr "kind" = some "signal")
      (valid : collectPayloads env payloads policy none plan = .ok next)
  | mandate (kind : env.getStr "kind" = some "mandate")
      (valid : validateMandateGrant ext store env policy roots plan = .ok next)
  | revocation (kind : env.getStr "kind" = some "revocation")
      (valid : validateRevocation ext store env roots plan = .ok next)
  | gateDecision (kind : env.getStr "kind" = some "gate-decision")
      (valid : validateGateDecision ext store env roots policy ((env.getStr "emitted-at").getD "") plan =
        .ok next)
  | checkpoint (kind : env.getStr "kind" = some "checkpoint")
      (valid : validateCheckpoint ext config store env plan = .ok next)

theorem getStr_of_getD {value : Value} {name text : String} (nonempty : text ≠ "")
    (same : (value.getStr name).getD "" = text) : value.getStr name = some text := by
  cases found : value.getStr name with
  | none =>
      rw [found] at same
      exact absurd same.symm nonempty
  | some other =>
      rw [found] at same
      exact congrArg some same

theorem validateKind_eq_ok
    (valid : validateKind ext config store env policy roots subjectKey plan payloads = .ok next) :
    KindAdmits ext config store env policy roots subjectKey plan payloads next := by
  unfold validateKind at valid
  dsimp only at valid
  split at valid
  · rename_i kind
    exact .effect kind valid
  split at valid
  · rename_i kind
    exact .cognition (getStr_of_getD (by decide) kind) valid
  split at valid
  · rename_i kind
    exact .signal (getStr_of_getD (by decide) kind) valid
  split at valid
  · rename_i kind
    exact .mandate (getStr_of_getD (by decide) kind) valid
  split at valid
  · rename_i kind
    exact .revocation (getStr_of_getD (by decide) kind) valid
  split at valid
  · rename_i kind
    exact .gateDecision (getStr_of_getD (by decide) kind) valid
  split at valid
  · rename_i kind
    exact .checkpoint (getStr_of_getD (by decide) kind) valid
  · cases valid

theorem validatePolicyChange_same
    (valid : validatePolicyChange ext config store env payloads plan = .ok next) :
    plan.SameRecord next := by
  obtain ⟨_, _, _, _, _, _, _, _, rfl⟩ := validatePolicyChange_eq_ok valid
  exact ⟨rfl, rfl, rfl, rfl, rfl⟩

theorem projectPolicy_same
    (valid : projectPolicy ext config store env payloads plan = .ok next) : plan.SameRecord next := by
  unfold projectPolicy at valid
  split at valid
  · exact validatePolicyChange_same valid
  · cases valid
    exact .refl plan

theorem ActionProjects.same (acts : ActionProjects ext store env payloads roots subjectKey plan next) :
    plan.SameRecord next := by
  cases acts with
  | registers action valid =>
      obtain ⟨_, _, _, _, _, _, _, rfl⟩ := validateRegistration_eq_ok valid
      exact ⟨rfl, rfl, rfl, rfl, rfl⟩
  | changesRoots action valid =>
      obtain ⟨_, ⟨_, _, _, rfl⟩ | ⟨_, _, rfl⟩⟩ := validateRootChange_eq_ok valid
      · exact ⟨rfl, rfl, rfl, rfl, rfl⟩
      · exact ⟨rfl, rfl, rfl, rfl, rfl⟩
  | resumes resume action valid => exact ⟨rfl, rfl, rfl, rfl, rfl⟩
  | nothing => exact .refl plan

theorem projectEffect_same
    (valid : projectEffect ext config store env payloads roots subjectKey plan = .ok next) :
    plan.SameRecord next := by
  obtain ⟨changed, acted, change, acts, rfl⟩ := projectEffect_eq_ok valid
  have same := (projectPolicy_same change).trans acts.same
  split
  · exact ⟨same.envelope, same.id, same.canonicalJson, same.streamKind, same.receivedAt⟩
  · exact same

theorem validateEffectKind_same
    (valid : validateEffectKind ext config store env policy roots subjectKey plan payloads = .ok next) :
    plan.SameRecord next := by
  obtain ⟨_, _, _, _, start, projected, gated, _, _, _, begun, _, _, projects, gate, collected⟩ :=
    validateEffectKind_eq_ok valid
  have gateSame := (gateEffect_eq_ok gate).1
  have collectSame := (collectPayloads_same collected).1
  exact ((begun.trans (projectEffect_same projects)).trans gateSame).trans collectSame

theorem KindAdmits.same
    (admits : KindAdmits ext config store env policy roots subjectKey plan payloads next) :
    plan.SameRecord next := by
  cases admits with
  | effect kind valid => exact validateEffectKind_same valid
  | cognition kind valid =>
      obtain ⟨_, _, _, _, same, _⟩ := validateCognition_eq_ok valid
      exact same
  | signal kind valid => exact (collectPayloads_same valid).1
  | mandate kind valid =>
      obtain ⟨_, _, _, _, _, _, _, _, rfl⟩ := validateMandateGrant_eq_ok valid
      exact ⟨rfl, rfl, rfl, rfl, rfl⟩
  | revocation kind valid =>
      obtain ⟨_, _, _, _, _, _, _, _, _, _, rfl⟩ := validateRevocation_eq_ok valid
      exact ⟨rfl, rfl, rfl, rfl, rfl⟩
  | gateDecision kind valid =>
      obtain ⟨_, rfl⟩ := validateGateDecision_eq_ok valid
      exact ⟨rfl, rfl, rfl, rfl, rfl⟩
  | checkpoint kind valid =>
      obtain ⟨_, _, _, _, _, _, _, _, rfl⟩ := validateCheckpoint_eq_ok valid
      exact ⟨rfl, rfl, rfl, rfl, rfl⟩

/-- Two plans that agree on the projections no effect makes. -/
structure SameOther (before after : Projections) : Prop where
  mandate : after.mandate = before.mandate
  revocation : after.revocation = before.revocation
  checkpoint : after.checkpoint = before.checkpoint
  gateDecision : after.gateDecision = before.gateDecision

theorem projectPolicy_other (valid : projectPolicy ext config store env payloads plan = .ok next) :
    SameOther plan.projections next.projections := by
  unfold projectPolicy at valid
  split at valid
  · obtain ⟨_, _, _, _, _, _, _, _, rfl⟩ := validatePolicyChange_eq_ok valid
    exact ⟨rfl, rfl, rfl, rfl⟩
  · cases valid
    exact ⟨rfl, rfl, rfl, rfl⟩

theorem ActionProjects.other (acts : ActionProjects ext store env payloads roots subjectKey plan next) :
    SameOther plan.projections next.projections := by
  cases acts with
  | registers action valid =>
      obtain ⟨_, _, _, _, _, _, _, rfl⟩ := validateRegistration_eq_ok valid
      exact ⟨rfl, rfl, rfl, rfl⟩
  | changesRoots action valid =>
      obtain ⟨_, ⟨_, _, _, rfl⟩ | ⟨_, _, rfl⟩⟩ := validateRootChange_eq_ok valid
      · exact ⟨rfl, rfl, rfl, rfl⟩
      · exact ⟨rfl, rfl, rfl, rfl⟩
  | resumes resume action valid => exact ⟨rfl, rfl, rfl, rfl⟩
  | nothing => exact ⟨rfl, rfl, rfl, rfl⟩

/-- An effect projects no mandate, revocation, checkpoint or decision. -/
theorem validateEffectKind_other
    (valid : validateEffectKind ext config store env policy roots subjectKey plan payloads = .ok next) :
    SameOther plan.projections next.projections := by
  obtain ⟨_, _, _, _, start, projected, gated, _, _, _, _, begins, _, projects, gate, collected⟩ :=
    validateEffectKind_eq_ok valid
  rw [(collectPayloads_same collected).2.1, (gateEffect_eq_ok gate).2.1]
  obtain ⟨changed, acted, change, acts, rfl⟩ := projectEffect_eq_ok projects
  have first := projectPolicy_other change
  have second := acts.other
  rw [begins] at first
  have both : SameOther plan.projections acted.projections :=
    ⟨second.mandate.trans first.mandate, second.revocation.trans first.revocation,
      second.checkpoint.trans first.checkpoint, second.gateDecision.trans first.gateDecision⟩
  split
  · exact ⟨both.mandate, both.revocation, both.checkpoint, both.gateDecision⟩
  · exact both

end Ingest

end Stozher
