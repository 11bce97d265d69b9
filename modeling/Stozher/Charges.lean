import Stozher.Interleavings
import Stozher.Spend

namespace Stozher

open Library Ingest

variable {ext : External} {config : Config}

/-- What an envelope charges to its mandate and the mandates above it. -/
def chargeOf (store : Store) (env : Value) : Option SpendAccrual :=
  match env.getStr "mandate-ref" with
  | none => none
  | some mandateRef =>
      if (Budget.accrualOf env).isEmpty then none
      else some { mandates := store.mandateLine mandateRef, amounts := Budget.accrualOf env }

/-- What a plan charges, and whether it says so where a budget is passed. -/
structure AppendPlan.Charged (plan : AppendPlan) (store : Store) : Prop where
  spend : plan.spend = chargeOf store plan.envelope
  flagged : ∀ charge, chargeOf store plan.envelope = some charge →
    charge.mandates.any (passesBudget store charge.amounts) = true → plan.policyViolation.isSome = true

/-- What the steps that follow leave of a plan. -/
structure AppendPlan.Carries (before after : AppendPlan) : Prop where
  spend : after.spend = before.spend
  effectiveClass : after.effectiveClass = before.effectiveClass
  payloads : after.payloads = before.payloads
  flagged : before.policyViolation.isSome = true → after.policyViolation.isSome = true

namespace AppendPlan.Carries

theorem refl (plan : AppendPlan) : Carries plan plan :=
  ⟨rfl, rfl, rfl, fun flagged => flagged⟩

theorem trans {a b c : AppendPlan} (first : Carries a b) (second : Carries b c) : Carries a c where
  spend := second.spend.trans first.spend
  effectiveClass := second.effectiveClass.trans first.effectiveClass
  payloads := second.payloads.trans first.payloads
  flagged := fun flagged => second.flagged (first.flagged flagged)

end AppendPlan.Carries

theorem AppendPlan.Charged.carried {store : Store} {plan next : AppendPlan} (charged : plan.Charged store)
    (spend : next.spend = plan.spend)
    (flagged : plan.policyViolation.isSome = true → next.policyViolation.isSome = true)
    (envelope : next.envelope = plan.envelope) : next.Charged store where
  spend := by rw [spend, charged.spend, envelope]
  flagged := by
    rw [envelope]
    intro charge isCharge passes
    exact flagged (charged.flagged charge isCharge passes)

namespace Ingest

variable {store : Store} {env : Value} {policy : Policy} {roots : List KeyId} {subjectKey : KeyId}
  {plan next : AppendPlan} {payloads : List Value}

theorem validatePolicyChange_carries (valid : validatePolicyChange ext config store env payloads plan = .ok next) :
    plan.Carries next := by
  obtain ⟨_, _, _, _, _, _, _, _, rfl⟩ := validatePolicyChange_eq_ok valid
  exact ⟨rfl, rfl, rfl, fun flagged => flagged⟩

theorem projectEffect_carries
    (valid : projectEffect ext config store env payloads roots subjectKey plan = .ok next) :
    plan.Carries next := by
  obtain ⟨changed, acted, change, acts, rfl⟩ := projectEffect_eq_ok valid
  have first : plan.Carries changed := by
    unfold projectPolicy at change
    split at change
    · exact validatePolicyChange_carries change
    · cases change
      exact .refl plan
  have second : changed.Carries acted := by
    cases acts with
    | registers action valid =>
        obtain ⟨_, _, _, _, _, _, _, rfl⟩ := validateRegistration_eq_ok valid
        exact ⟨rfl, rfl, rfl, fun flagged => flagged⟩
    | changesRoots action valid =>
        obtain ⟨_, ⟨_, _, _, rfl⟩ | ⟨_, _, rfl⟩⟩ := validateRootChange_eq_ok valid
        · exact ⟨rfl, rfl, rfl, fun flagged => flagged⟩
        · exact ⟨rfl, rfl, rfl, fun flagged => flagged⟩
    | resumes resume action valid => exact ⟨rfl, rfl, rfl, fun flagged => flagged⟩
    | nothing => exact .refl changed
  refine (first.trans second).trans ?_
  split
  · exact ⟨rfl, rfl, rfl, fun flagged => flagged⟩
  · exact .refl acted

theorem flagViolation_flagged (plan : AppendPlan) (violation : String) :
    (flagViolation plan violation).policyViolation.isSome = true := by
  unfold flagViolation
  cases plan.policyViolation <;> rfl

theorem flagDenied_carries (env : Value) (decision : Decision) (plan : AppendPlan) :
    plan.Carries (flagDenied env decision plan) := by
  unfold flagDenied
  split
  · exact ⟨rfl, rfl, rfl, fun _ => flagViolation_flagged plan _⟩
  · exact .refl plan

theorem gateEffect_carries {effective : String}
    (passed : gateEffect ext store env policy effective plan = .ok next) : plan.Carries next := by
  unfold gateEffect at passed
  simp only [bind_eq_ok] at passed
  obtain ⟨_, _, passed⟩ := passed
  have flagged := flagDenied_carries env
    (policy.decisionFor effective (((execution env).getStr "action").getD "")) plan
  rcases applyGate_eq_ok passed with ⟨ok, _, rfl⟩ | ⟨_, rfl⟩ | ⟨_, _, _, rfl⟩
  · exact flagged.trans ⟨rfl, rfl, rfl, fun flagged => flagged⟩
  · exact flagged
  · exact flagged

/-- Collecting payloads adds payloads only. -/
theorem collectPayloads_carries {class_ : Option String}
    (collected : collectPayloads env payloads policy class_ plan = .ok next) :
    ({ plan with payloads := next.payloads } : AppendPlan).Carries next := by
  obtain ⟨rows, rfl⟩ := collectPayloads_rest collected
  exact .refl _

theorem accrueBudget_rest (store : Store) (env : Value) (plan : AppendPlan) :
    (accrueBudget store env plan).effectiveClass = plan.effectiveClass ∧
      (accrueBudget store env plan).payloads = plan.payloads := by
  unfold accrueBudget
  dsimp only
  split
  · exact ⟨rfl, rfl⟩
  · split
    · exact ⟨rfl, rfl⟩
    · split <;> exact ⟨rfl, rfl⟩

/-- A budget check charges the plan with what its envelope spends. -/
theorem accrueBudget_charged (envelope : plan.envelope = env) (uncharged : plan.spend = none) :
    (accrueBudget store env plan).Charged store := by
  subst envelope
  unfold accrueBudget
  dsimp only
  split
  · rename_i absent
    refine ⟨?_, ?_⟩ <;> simp [chargeOf, absent, uncharged]
  · rename_i mandateRef cited
    split
    · rename_i free
      refine ⟨?_, ?_⟩ <;> simp [chargeOf, cited, free, uncharged]
    · rename_i costs
      have charge : ∀ p : AppendPlan, p.envelope = plan.envelope → chargeOf store p.envelope =
          some { mandates := store.mandateLine mandateRef, amounts := Budget.accrualOf plan.envelope } := by
        intro p same
        unfold chargeOf
        rw [same, cited]
        dsimp only
        rw [if_neg costs]
      split
      · refine ⟨(charge _ rfl).symm, ?_⟩
        intro _ _ _
        exact flagViolation_flagged plan _
      · rename_i within_
        refine ⟨(charge _ rfl).symm, ?_⟩
        intro other isCharge passes
        rw [charge plan rfl] at isCharge
        cases isCharge
        exact absurd passes within_

/-- The charge of an effect, and how its payloads are collected. -/
theorem validateEffectKind_charged
    (valid : validateEffectKind ext config store env policy roots subjectKey plan payloads = .ok next)
    (envelope : plan.envelope = env) (uncharged : plan.spend = none) :
    next.Charged store ∧ ∃ effective gated, gated.payloads = plan.payloads ∧
      next.effectiveClass = some effective ∧
      collectPayloads env payloads policy (some effective) gated = .ok next := by
  have same := (validateEffectKind_same valid).envelope
  unfold validateEffectKind at valid
  simp only [bind_eq_ok] at valid
  obtain ⟨requests, _, ⟨manifest, effective⟩, _, humanRoot, _, _, _, _, _, projected, projects, _, _, gated,
    gate, collected⟩ := valid
  have flags : ({ plan with effectiveClass := some effective } : AppendPlan).SameRecord
      (flagProhibited env effective { plan with effectiveClass := some effective }) :=
    (flagProhibited_same env effective _).1
  have kept : (flagProhibited env effective { plan with effectiveClass := some effective }).spend = none ∧
      (flagProhibited env effective { plan with effectiveClass := some effective }).effectiveClass =
        some effective ∧
      (flagProhibited env effective { plan with effectiveClass := some effective }).payloads =
        plan.payloads := by
    unfold flagProhibited
    split <;> exact ⟨uncharged, rfl, rfl⟩
  have charged := @accrueBudget_charged store env
    { flagProhibited env effective { plan with effectiveClass := some effective } with humanRoot }
    (flags.envelope.trans envelope) kept.1
  have rest := accrueBudget_rest store env
    { flagProhibited env effective { plan with effectiveClass := some effective } with humanRoot }
  have begun := (accrueBudget_same store env
    { flagProhibited env effective { plan with effectiveClass := some effective } with humanRoot }).1
  have later := (projectEffect_carries projects).trans (gateEffect_carries gate)
  have collects := collectPayloads_carries collected
  refine ⟨charged.carried ?_ ?_ ?_, effective, gated, ?_, ?_, collected⟩
  · exact collects.spend.trans later.spend
  · exact fun flagged => collects.flagged (later.flagged flagged)
  · exact same.trans (begun.envelope.trans flags.envelope).symm
  · rw [later.payloads, rest.2]
    exact kept.2.2
  · rw [collects.effectiveClass, later.effectiveClass, rest.1]
    exact kept.2.1

theorem kindSpec_of_cost {kind : String} {spec : Envelope.KindSpec} (hasSpec : Envelope.kindSpec kind = some spec)
    (admits : "cost" ∈ spec.required ∨ "cost" ∈ spec.optional) : kind = "cognition" := by
  unfold Envelope.kindSpec at hasSpec
  split at hasSpec <;> cases hasSpec <;> simp_all

theorem cognition_of_cost {env cost : Value} (valid : Envelope.validate ext env = .ok ())
    (found : env.get "cost" = some cost) : env.getStr "kind" = some "cognition" := by
  obtain ⟨kind, spec, hasKind, hasSpec, listed⟩ := Envelope.admits_of_get valid found
  have admits : "cost" ∈ spec.required ∨ "cost" ∈ spec.optional := by
    simpa [Envelope.common, Envelope.commonOptional] using listed
  rw [hasKind, kindSpec_of_cost hasSpec admits]

/-- Only an effect and a cognition spend anything. -/
theorem accrualOf_idle {env : Value} (valid : Envelope.validate ext env = .ok ())
    (noEffect : env.getStr "kind" ≠ some "effect") (noCognition : env.getStr "kind" ≠ some "cognition") :
    Budget.accrualOf env = [] := by
  unfold Budget.accrualOf
  rw [if_neg (fun both => noEffect both.1)]
  cases found : env.get "cost" with
  | none => rfl
  | some cost => exact absurd (cognition_of_cost valid found) noCognition

theorem chargeOf_idle {env : Value} (valid : Envelope.validate ext env = .ok ()) (idle : ¬ actsUnderMandate env) :
    chargeOf store env = none := by
  unfold chargeOf
  cases cited : env.getStr "mandate-ref" with
  | none => rfl
  | some leafRef => exact absurd (acts_of_cites valid cited) idle

theorem charged_of_none (uncharged : plan.spend = none) (free : chargeOf store plan.envelope = none) :
    plan.Charged store := by
  refine ⟨uncharged.trans free.symm, ?_⟩
  intro charge isCharge
  rw [free] at isCharge
  cases isCharge

theorem not_acts {kind : String} (isKind : env.getStr "kind" = some kind) (noEffect : kind ∉ effectKinds)
    (noCognition : kind ≠ "cognition") : ¬ actsUnderMandate env := by
  intro acts
  rcases acts with effect | cognition
  · rw [isKind] at effect
    exact noEffect effect
  · rw [isKind] at cognition
    exact noCognition (Option.some.inj cognition)

/-- An admitted plan charges what its envelope spends. -/
theorem Admitted.charged {raw : Octets} {receivedAt : String}
    (admitted : Admitted ext config store raw receivedAt plan subjectKey payloads) : plan.Charged store := by
  have valid := admitted.valid
  have idle : ∀ kind, plan.envelope.getStr "kind" = some kind → kind ∉ effectKinds → kind ≠ "cognition" →
      chargeOf store plan.envelope = none :=
    fun kind isKind noEffect noCognition => chargeOf_idle valid (not_acts isKind noEffect noCognition)
  cases admitted.rule with
  | genesis unpublished passed =>
      rcases validateGenesis_cases passed with ⟨_, ⟨kind, _, passed⟩ | ⟨kind, _, passed⟩⟩
      · obtain ⟨_, _, _, _, _, _, same⟩ := validateGenesisMandate_eq_ok passed
        refine charged_of_none ?_ (idle _ kind (by decide) (by decide))
        rw [same]
        rfl
      · obtain ⟨changed, _, _, change, _, same⟩ := validateGenesisPolicy_eq_ok passed
        refine charged_of_none ?_ ?_
        · rw [same]
          exact (validatePolicyChange_carries change).spend
        · unfold chargeOf
          rw [accrualOf_idle valid (by rw [kind]; decide) (by rw [kind]; decide)]
          split <;> rfl
  | inForce policy published admits unauthorized =>
      cases admits with
      | effect kind passed => exact (validateEffectKind_charged passed rfl rfl).1
      | cognition kind passed =>
          unfold validateCognition at passed
          simp only [bind_eq_ok, pure_eq_ok] at passed
          obtain ⟨resource, _, humanRoot, _, same⟩ := passed
          have charged := @accrueBudget_charged store plan.envelope
            { planOf plan with humanRoot := some humanRoot } rfl rfl
          rwa [same] at charged
      | signal kind passed =>
          refine charged_of_none ?_ (idle _ kind (by decide) (by decide))
          exact (collectPayloads_carries passed).spend
      | mandate kind passed =>
          obtain ⟨_, _, _, _, _, _, _, _, same⟩ := validateMandateGrant_eq_ok passed
          refine charged_of_none ?_ (idle _ kind (by decide) (by decide))
          rw [same]
          rfl
      | revocation kind passed =>
          obtain ⟨_, _, _, _, _, _, _, _, _, _, same⟩ := validateRevocation_eq_ok passed
          refine charged_of_none ?_ (idle _ kind (by decide) (by decide))
          rw [same]
          rfl
      | gateDecision kind passed =>
          obtain ⟨_, same⟩ := validateGateDecision_eq_ok passed
          refine charged_of_none ?_ (idle _ kind (by decide) (by decide))
          rw [same]
          rfl
      | checkpoint kind passed =>
          obtain ⟨_, _, _, _, _, _, _, _, same⟩ := validateCheckpoint_eq_ok passed
          refine charged_of_none ?_ (idle _ kind (by decide) (by decide))
          rw [same]
          rfl

end Ingest

end Stozher
