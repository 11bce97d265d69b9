import Stozher.Classification
import Stozher.RevocationPermanence
import Stozher.SingleUse
import Stozher.Deployment

namespace Stozher

open Library

namespace Ingest

variable {ext : External} {config : Config} {store : Store} {env : Value} {policy : Policy}
  {roots : List KeyId} {subjectKey : KeyId} {payloads : List Value} {plan next : AppendPlan}

theorem collectPayloads_violation {class_ : Option String}
    (collected : collectPayloads env payloads policy class_ plan = .ok next) :
    next.policyViolation = plan.policyViolation := by
  obtain ⟨rows, rfl⟩ := collectPayloads_rest collected
  rfl

/-- An envelope that performs something, carries no authorization and leaves no violation behind was
allowed. -/
theorem allowed_of_gate {effective : String} (applied : isApplied env = true)
    (unauthorized : env.get "authorization" = none) (unflagged : next.policyViolation = none)
    (gate : gateEffect ext store env policy effective plan = .ok next) :
    policy.decisionFor effective (((execution env).getStr "action").getD "") = .allow := by
  cases decided : policy.decisionFor effective (((execution env).getStr "action").getD "") with
  | allow => rfl
  | gate approvers =>
      exfalso
      obtain ⟨_, _, _, gated⟩ := gateEffect_eq_ok gate
      rw [decided] at gated
      generalize next.gateUse = used at gated
      cases gated with
      | authorized spent ok verified =>
          obtain ⟨_, _, _, approved, _⟩ := Gate.verifyAuthorization_some verified
          obtain ⟨_, carried, _⟩ := approved.carried
          rw [unauthorized] at carried
          cases carried
      | open_ spent verified =>
          unfold authorize at verified
          dsimp only at verified
          have required : requiresGate (.gate approvers) (needsRoot env) (isApplied env) = true := applied
          rw [required] at verified
          exact Gate.verifyAuthorization_required verified
      | attempted attempt =>
          rw [applied] at attempt
          cases attempt
  | deny =>
      exfalso
      unfold gateEffect at gate
      simp only [bind_eq_ok] at gate
      obtain ⟨_, _, passed⟩ := gate
      rw [decided] at passed
      have flagged : (flagDenied env .deny plan).policyViolation ≠ none := by
        unfold flagDenied flagViolation
        rw [if_pos ⟨rfl, applied⟩]
        cases plan.policyViolation <;> simp
      rcases applyGate_eq_ok passed with ⟨ok, _, rfl⟩ | ⟨_, rfl⟩ | ⟨e, _, _, rfl⟩
      · exact flagged unflagged
      · exact flagged unflagged
      · exact flagged unflagged

/-- What an aggregate folds, as its classification is checked. -/
theorem aggregate_requests (valid : Envelope.validate ext env = .ok ())
    (kind : env.getStr "kind" = some "aggregate") {requests : List (String × String)}
    (requested : effectRequests env = .ok requests) :
    env.getStr "classification" = some "read" ∧ env.get "execution" = none ∧
      env.get "authorization" = none ∧
      ∃ byAction, ((env.index "counts").index "by-action").asObject = some byAction ∧
        requests = byAction.keys.map fun action => (action, "-") := by
  obtain ⟨map, other, spec, known⟩ := Envelope.validate_eq_ok valid
  have counts := known.counts
  have isKind := known.hasKind
  have object := known.object
  rw [kind] at isKind
  cases isKind
  subst object
  unfold Envelope.validateCounts at counts
  rw [if_pos rfl] at counts
  unfold Envelope.validateAggregate at counts
  rw [require_bind_eq_ok] at counts
  refine ⟨counts.1, ?_, ?_, ?_⟩
  · apply member_absent valid kind
    intro spec hasSpec
    cases hasSpec
    decide
  · apply member_absent valid kind
    intro spec hasSpec
    cases hasSpec
    decide
  · unfold effectRequests at requested
    rw [if_pos kind] at requested
    simp only [bind_eq_ok, okOr_eq_ok, pure_eq_ok] at requested
    obtain ⟨byAction, isObject, _, _, rfl⟩ := requested
    exact ⟨byAction, isObject, rfl⟩

/-- An accepted aggregate without a violation folds nothing but reads, which policy allows where no
action is named. Each action it folds is allowed where the gate rules decide a read of that action as
they decide a read of no action. -/
theorem folded_actions_allowed_iff {raw : Octets} {receivedAt : String} {validated : Validated}
    (accepted : validate ext config store raw receivedAt = .ok (.fresh validated))
    (kind : validated.plan.envelope.getStr "kind" = some "aggregate")
    (unflagged : validated.plan.policyViolation = none) :
    ∃ policy manifest byAction, policyInForce ext config store = .ok (some policy) ∧
      latestManifest ext store
        (((validated.plan.envelope.index "identity").getStr "component").getD "") = .ok manifest ∧
      ((validated.plan.envelope.index "counts").index "by-action").asObject = some byAction ∧
      ((∀ action ∈ byAction.keys, policy.decisionFor (policy.classify {
            subject := ((validated.plan.envelope.index "identity").getStr "subject").getD ""
            action, resource := "-", manifestClass := manifest.bind (·.proposedClass action) }) action =
          .allow) ↔
        ∀ action ∈ byAction.keys, policy.decisionFor "read" action = policy.decisionFor "read" "") := by
  obtain ⟨⟨subjectKey, payloads, admitted⟩, _⟩ := validate_fresh accepted
  have valid := admitted.valid
  cases admitted.rule with
  | genesis unpublished genesis =>
      exfalso
      rcases validateGenesis_cases genesis with ⟨_, ⟨other, _⟩ | ⟨other, _⟩⟩
      · rw [kind] at other
        exact absurd other (by decide)
      · rw [kind] at other
        exact absurd other (by decide)
  | inForce policy inForce admits unauthorized =>
      have checked := Policy.checked_of_inForce inForce
      rcases admits.effect_or_unused with effect | ⟨other, _⟩
      · obtain ⟨requests, manifest, effective, _, start, projected, gated, requested, classified, _, _, _, _,
          projects, gate, collected⟩ := validateEffectKind_eq_ok effect
        obtain ⟨read, noExecution, noAuthorization, byAction, isObject, rfl⟩ :=
          aggregate_requests valid kind requested
        have nonempty := effectRequests_ne_nil requested
        unfold classifyEnvelope at classified
        simp only [bind_eq_ok, require_eq_ok, pure_eq_ok] at classified
        obtain ⟨latest, isLatest, _, light, same⟩ := classified
        cases same
        rw [read, Option.getD_some] at light
        have classes := effectiveClass_known checked
          ((validated.plan.envelope.index "identity").getStr "subject" |>.getD "") isLatest nonempty
        generalize effectiveClass policy
          (((validated.plan.envelope.index "identity").getStr "subject").getD "") manifest
          (byAction.keys.map fun action => (action, "-")) = effective at *
        obtain ⟨known, each⟩ := classes
        have isRead : effective = "read" := Policy.classWeight_read known light
        subst isRead
        have applied : isApplied validated.plan.envelope = true := by
          unfold isApplied
          simp [kind]
        have allowed := allowed_of_gate applied noAuthorization
          ((collectPayloads_violation collected).symm.trans unflagged) gate
        have unnamed : ((execution validated.plan.envelope).getStr "action").getD "" = "" := by
          unfold execution Value.index
          rw [noExecution]
          rfl
        rw [unnamed] at allowed
        refine ⟨policy, manifest, byAction, inForce, isLatest, isObject, ?_⟩
        rw [allowed]
        have reads : ∀ action ∈ byAction.keys, policy.classify {
            subject := ((validated.plan.envelope.index "identity").getStr "subject").getD ""
            action, resource := "-", manifestClass := manifest.bind (·.proposedClass action) } =
              "read" := by
          intro action member
          have folded := each action "-" (List.mem_map_of_mem member)
          exact Policy.classWeight_read folded.1 folded.2
        constructor
        · intro each action member
          have decided := each action member
          rwa [reads action member] at decided
        · intro each action member
          rw [reads action member]
          exact each action member
      · rw [kind] at other
        exact absurd (show "aggregate" ∈ effectKinds by decide) other

end Ingest

end Stozher

namespace Stozher.Deployment

open Library Ingest

theorem secret_reads_seen :
    ∃ validated, validate ext config (after founding).store (submitted secretReadsBody nine).raw nine =
        .ok (.fresh validated) ∧ validated.plan.envelope = secretReads.document ∧
      validated.plan.policyViolation = none := by
  have folded := congrArg Observed.folded observed_eq
  dsimp only [observed] at folded
  obtain ⟨plan, fresh, same⟩ := Option.map_eq_some_iff.mp folded
  obtain ⟨validated, accepted, rfl⟩ := freshPlan_eq_some fresh
  rw [Prod.mk.injEq] at same
  exact ⟨validated, accepted, same⟩

theorem secret_reads_allowed_iff :
    ∃ policy manifest byAction, policyInForce ext config (after founding).store = .ok (some policy) ∧
      latestManifest ext (after founding).store
        (((secretReads.document.index "identity").getStr "component").getD "") = .ok manifest ∧
      ((secretReads.document.index "counts").index "by-action").asObject = some byAction ∧
      ((∀ action ∈ byAction.keys, policy.decisionFor (policy.classify {
            subject := ((secretReads.document.index "identity").getStr "subject").getD ""
            action, resource := "-", manifestClass := manifest.bind (·.proposedClass action) }) action =
          .allow) ↔
        ∀ action ∈ byAction.keys, policy.decisionFor "read" action = policy.decisionFor "read" "") := by
  obtain ⟨validated, accepted, envelope, unflagged⟩ := secret_reads_seen
  have allowed := folded_actions_allowed_iff accepted (by rw [envelope]; decide +kernel) unflagged
  rw [envelope] at allowed
  exact allowed

/-- Reads that a rule denies one by one are accepted when they are folded, with no violation flagged. -/
theorem denied_reads_folded :
    ∃ validated policy, validate ext config (after founding).store (submitted secretReadsBody nine).raw nine =
        .ok (.fresh validated) ∧ validated.plan.envelope.getStr "kind" = some "aggregate" ∧
      validated.plan.policyViolation = none ∧
      policyInForce ext config (after founding).store = .ok (some policy) ∧
      "github.read_secret" ∈ (((validated.plan.envelope.index "counts").index "by-action").asObject.map
        Members.keys).getD [] ∧
      policy.decisionFor (policy.classify secretRead) "github.read_secret" = .deny := by
  obtain ⟨validated, accepted, envelope, unflagged⟩ := secret_reads_seen
  have folding := congrArg Observed.folding observed_eq
  dsimp only [observed] at folding
  obtain ⟨policy, published, denied⟩ := Option.map_eq_some_iff.mp folding
  have published : policyInForce ext config (after founding).store = .ok (some policy) := by
    cases inForce : policyInForce ext config (after founding).store with
    | error e =>
        rw [inForce] at published
        cases published
    | ok held =>
        rw [inForce] at published
        exact congrArg Except.ok published
  refine ⟨validated, policy, accepted, ?_, unflagged, published, ?_, denied⟩
  · rw [envelope]
    decide +kernel
  · rw [envelope]
    decide +kernel

end Stozher.Deployment
