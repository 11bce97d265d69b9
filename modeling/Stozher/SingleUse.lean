import Stozher.History
import Stozher.RootApproval
import Stozher.Deployment

namespace Stozher

open Library Ingest

variable {ext : External} {config : Config}

namespace Store

/-- The replay table has one row a request hash. -/
def UniqueHashes (store : Store) : Prop :=
  ∀ row ∈ store.gateRequestHashes, ∀ other ∈ store.gateRequestHashes,
    row.requestHash = other.requestHash → row = other

/-- A row that answers for a use of an approval: the one the use wrote, or that of a standing approval
used again. -/
def Answers (row : GateHashRow) (id : String) (gateUse : GateUse) : Prop :=
  row.requestHash = gateUse.requestHash ∧
    ((row.envelopeId = id ∧ row.singleUse = gateUse.singleUse) ∨
      (row.singleUse = false ∧ gateUse.singleUse = false))

variable {store next : Store} {plan : AppendPlan}

theorem consumeGate_unique (unique : store.UniqueHashes) (gated : consumeGate store plan = .ok next) :
    next.UniqueHashes := by
  unfold consumeGate at gated
  split at gated
  · cases gated
    exact unique
  · rename_i gateUse uses
    split at gated
    · rename_i absent
      cases gated
      rw [List.find?_eq_none] at absent
      have new : ∀ row ∈ store.gateRequestHashes, row.requestHash ≠ gateUse.requestHash := by
        intro row member same
        exact absent row member (by simpa using same)
      intro row member other otherMember same
      rcases List.mem_append.mp member with held | added <;>
        rcases List.mem_append.mp otherMember with otherHeld | otherAdded
      · exact unique row held other otherHeld same
      · rw [List.mem_singleton] at otherAdded
        subst otherAdded
        exact absurd same (new row held)
      · rw [List.mem_singleton] at added
        subst added
        exact absurd same.symm (new other otherHeld)
      · rw [List.mem_singleton] at added otherAdded
        rw [added, otherAdded]
    · rw [require_bind_eq_ok] at gated
      cases gated.2
      exact unique

theorem consumeGate_answers {gateUse : GateUse} (uses : plan.gateUse = some gateUse)
    (gated : consumeGate store plan = .ok next) :
    ∃ row ∈ next.gateRequestHashes, Answers row plan.id gateUse := by
  unfold consumeGate at gated
  rw [uses] at gated
  dsimp only at gated
  split at gated
  · cases gated
    exact ⟨_, List.mem_append_right _ List.mem_cons_self, rfl, Or.inl ⟨rfl, rfl⟩⟩
  · rename_i existing found
    rw [require_bind_eq_ok] at gated
    obtain ⟨standing, same⟩ := gated
    cases same
    have named := List.find?_some found
    simp only [beq_iff_eq] at named
    exact ⟨existing, List.mem_of_find?_eq_some found, named, Or.inr standing⟩

end Store

namespace World

/-- Every use of an approval by a stored envelope is answered for in the replay table. -/
structure Ledger (world : World) : Prop where
  unique : world.store.UniqueHashes
  answered : ∀ taken ∈ world.accepted, ∀ gateUse, taken.plan.gateUse = some gateUse →
    ∃ row ∈ world.store.gateRequestHashes, Store.Answers row taken.plan.id gateUse

theorem Ledger.step {world next : World} {action : Action} (ledger : Ledger world)
    (step : StepTo ext config world action next) : Ledger next := by
  cases step with
  | quiet store accepted tasks =>
      have same := store.envelopes.2.2.1
      refine ⟨?_, ?_⟩
      · unfold Store.UniqueHashes
        rw [same]
        exact ledger.unique
      · rw [same, accepted]
        exact ledger.answered
  | appends request snapshot validated waiting fresh store accepted tasks =>
      obtain ⟨gated, gate, same⟩ := store.gateRequestHashes
      refine ⟨?_, ?_⟩
      · have unique := Store.consumeGate_unique ledger.unique gate
        unfold Store.UniqueHashes at unique ⊢
        rw [same]
        exact unique
      · intro taken member gateUse uses
        rw [accepted] at member
        rcases List.mem_append.mp member with earlier | new
        · obtain ⟨row, held, answers⟩ := ledger.answered taken earlier gateUse uses
          exact ⟨row, store.grows.gateRequestHashes.subset held, answers⟩
        · rw [List.mem_singleton] at new
          subst new
          rw [same]
          exact Store.consumeGate_answers uses gate

theorem Ledger.initial : Ledger World.initial where
  unique := by intro _ member; cases member
  answered := by intro _ member; cases member

theorem ledger {world : World} (reached : (kernel ext config).Reachable world) : Ledger world :=
  World.invariant ext config Ledger .initial
    (fun _ _ _ _ known step => known.step step) reached

/-- Two envelopes that used one request used it as a standing approval. -/
theorem Ledger.shared {world : World} (known : Ledger world) {first second : Accepted}
    (firstTaken : first ∈ world.accepted) (secondTaken : second ∈ world.accepted)
    (distinct : first.plan.id ≠ second.plan.id) (firstUse secondUse : GateUse)
    (firstUses : first.plan.gateUse = some firstUse)
    (secondUses : second.plan.gateUse = some secondUse)
    (same : firstUse.requestHash = secondUse.requestHash) :
    firstUse.singleUse = false ∧ secondUse.singleUse = false := by
  obtain ⟨row, member, named, answers⟩ := known.answered first firstTaken firstUse firstUses
  obtain ⟨other, otherMember, otherNamed, otherAnswers⟩ :=
    known.answered second secondTaken secondUse secondUses
  have one : row = other :=
    known.unique row member other otherMember (named.trans (same.trans otherNamed.symm))
  subst one
  rcases answers with ⟨owner, single⟩ | ⟨standing, firstStanding⟩
  · rcases otherAnswers with ⟨otherOwner, _⟩ | ⟨standing, secondStanding⟩
    · exact absurd (owner.symm.trans otherOwner) distinct
    · exact ⟨single ▸ standing, secondStanding⟩
  · rcases otherAnswers with ⟨_, single⟩ | ⟨_, secondStanding⟩
    · exact ⟨firstStanding, single ▸ standing⟩
    · exact ⟨firstStanding, secondStanding⟩

end World

namespace Ingest

variable {store : Store} {plan next : AppendPlan} {subjectKey : KeyId} {payloads : List Value}

/-- An authorization a plan carries, and the use it makes of it. -/
structure Spends (ext : External) (env request decision : Value) (gateUse : GateUse) : Prop where
  carried : Gate.Carries env request decision
  hashed : Jcs.objectHash ext request = .ok gateUse.requestHash
  singleUse : gateUse.singleUse = Gate.singleUse decision

theorem gateUseOf_spends {env : Value} {requiresGate : Bool} {approvers : List Gate.Approver}
    {seen : List String} {ok : Gate.AuthorizationOk}
    (verified : Gate.verifyAuthorization ext env requiresGate approvers seen = .ok (some ok)) :
    ∃ request decision, Spends ext env request decision (gateUseOf env ok) := by
  obtain ⟨request, decision, _, approved, _, _, single, _⟩ := Gate.verifyAuthorization_some verified
  exact ⟨request, decision, approved.carried, approved.hashed, single⟩

theorem verifyAuthorization_absent {env : Value} {requiresGate : Bool}
    {approvers : List Gate.Approver} {seen : List String}
    (verified : Gate.verifyAuthorization ext env requiresGate approvers seen = .ok none) :
    env.get "authorization" = none := by
  unfold Gate.verifyAuthorization at verified
  split at verified
  · assumption
  · simp only [bind_eq_ok, pure_eq_ok] at verified
    obtain ⟨_, _, _, _, _, _, _, _, _, _, _, _, _, _, _, _, absurd⟩ := verified
    cases absurd

/-- A member no specification lists is not carried. -/
theorem member_absent {env : Value} (valid : Envelope.validate ext env = .ok ()) {kind name : String}
    (isKind : env.getStr "kind" = some kind)
    (unlisted : ∀ spec, Envelope.kindSpec kind = some spec →
      ¬ (name ∈ Envelope.common ∨ name ∈ spec.required ∨ name ∈ spec.optional ∨
        name ∈ Envelope.commonOptional)) : env.get name = none := by
  cases found : env.get name with
  | none => rfl
  | some value =>
      obtain ⟨other, spec, hasKind, hasSpec, listed⟩ := Envelope.admits_of_get valid found
      cases isKind.symm.trans hasKind
      exact absurd listed (unlisted spec hasSpec)

/-- A mandate envelope may not carry an authorization. -/
theorem mandate_authorization_absent {env : Value} (valid : Envelope.validate ext env = .ok ())
    (kind : env.getStr "kind" = some "mandate") : env.get "authorization" = none := by
  apply member_absent valid kind
  intro spec hasSpec
  cases hasSpec
  decide

/-- The approvers an applied envelope is checked against: the roots before a policy is in force, and
those of the rule for its class and action after. -/
inductive Consulted (ext : External) (config : Config) (store : Store) (env : Value) :
    List Gate.Approver → Prop where
  | genesis (unpublished : policyInForce ext config store = .ok none) :
      Consulted ext config store env (rootApprovers store (emittedAt env))
  | rule (policy : Policy) (published : policyInForce ext config store = .ok (some policy))
      (requests : List (String × String)) (requested : effectRequests env = .ok requests)
      (manifest : Option Manifest) (effective : String)
      (classified : classifyEnvelope ext store env policy requests = .ok (manifest, effective)) :
      Consulted ext config store env (approversOf store env
        (policy.decisionFor effective (((execution env).getStr "action").getD "")) (emittedAt env)
        (((execution env).getStr "action").getD ""))

/-- An authorization verified against the approvers consulted. -/
structure Authorized (ext : External) (config : Config) (store : Store) (env : Value)
    (approvers : List Gate.Approver) (ok : Gate.AuthorizationOk) : Prop where
  consulted : Consulted ext config store env approvers
  verified : ∃ required seen,
    Gate.verifyAuthorization ext env required approvers seen = .ok (some ok)

theorem effect_authorized {env : Value} {policy : Policy} {roots : List KeyId}
    (published : policyInForce ext config store = .ok (some policy))
    (valid : validateEffectKind ext config store env policy roots subjectKey plan payloads = .ok next)
    (applied : isApplied env = true) (carries : env.get "authorization" ≠ none) :
    ∃ approvers ok, Authorized ext config store env approvers ok ∧
      next.gateUse = some (gateUseOf env ok) := by
  obtain ⟨requests, manifest, effective, _, start, projected, gated, requested, classified, _, _, _, _, _,
    gate, collected⟩ := validateEffectKind_eq_ok valid
  rw [(collectPayloads_same collected).2.2]
  obtain ⟨_, _, _, passed⟩ := gateEffect_eq_ok gate
  generalize gated.gateUse = used at passed
  cases passed with
  | authorized spent ok verified =>
      have consulted := Consulted.rule policy published requests requested manifest effective classified
      exact ⟨_, ok, ⟨consulted, _, _, verified⟩, by rw [if_pos applied]⟩
  | open_ spent verified => exact absurd (verifyAuthorization_absent verified) carries
  | attempted attempt =>
      rw [applied] at attempt
      cases attempt

theorem KindAdmits.effect_or_unused {env : Value} {policy : Policy} {roots : List KeyId}
    {start : AppendPlan} (admits : KindAdmits ext config store env policy roots subjectKey start payloads plan) :
    validateEffectKind ext config store env policy roots subjectKey start payloads = .ok plan ∨
      ((env.getStr "kind").getD "" ∉ effectKinds ∧ plan.gateUse = start.gateUse) := by
  cases admits with
  | effect kind valid => exact Or.inl valid
  | cognition kind valid =>
      obtain ⟨_, _, _, _, _, _, same⟩ := validateCognition_eq_ok valid
      exact Or.inr ⟨by rw [kind]; decide, same⟩
  | signal kind valid => exact Or.inr ⟨by rw [kind]; decide, (collectPayloads_same valid).2.2⟩
  | mandate kind valid =>
      obtain ⟨_, _, _, _, _, _, _, _, rfl⟩ := validateMandateGrant_eq_ok valid
      exact Or.inr ⟨by rw [kind]; decide, rfl⟩
  | revocation kind valid =>
      obtain ⟨_, _, _, _, _, _, _, _, _, _, rfl⟩ := validateRevocation_eq_ok valid
      exact Or.inr ⟨by rw [kind]; decide, rfl⟩
  | gateDecision kind valid =>
      obtain ⟨_, rfl⟩ := validateGateDecision_eq_ok valid
      exact Or.inr ⟨by rw [kind]; decide, rfl⟩
  | checkpoint kind valid =>
      obtain ⟨_, _, _, _, _, _, _, _, rfl⟩ := validateCheckpoint_eq_ok valid
      exact Or.inr ⟨by rw [kind]; decide, rfl⟩

/-- The authorization an applied envelope carries was verified, and is used. -/
theorem Admitted.authorized {raw : Octets} {receivedAt : String}
    (admitted : Admitted ext config store raw receivedAt plan subjectKey payloads)
    (applied : isApplied plan.envelope = true) (carries : plan.envelope.get "authorization" ≠ none) :
    ∃ approvers ok, Authorized ext config store plan.envelope approvers ok ∧
      plan.gateUse = some (gateUseOf plan.envelope ok) := by
  cases admitted.rule with
  | genesis unpublished valid =>
      rcases validateGenesis_cases valid with ⟨_, ⟨kind, _, _⟩ | ⟨_, _, valid⟩⟩
      · exact absurd (mandate_authorization_absent admitted.valid kind) carries
      · obtain ⟨_, _, ok, _, verified, same⟩ := validateGenesisPolicy_eq_ok valid
        have use := congrArg AppendPlan.gateUse same
        exact ⟨_, ok, ⟨.genesis unpublished, true, [], verified⟩, use⟩
  | inForce policy inForce admits unauthorized =>
      rcases admits.effect_or_unused with valid | ⟨other, unused⟩
      · exact effect_authorized inForce valid applied carries
      · unfold checkNoAuthorization at unauthorized
        rw [require_eq_ok] at unauthorized
        exact absurd ⟨unused, Option.isSome_iff_ne_none.mpr carries, other⟩ unauthorized

/-- Every applied envelope that carries an authorization spends it. -/
theorem Admitted.spends {raw : Octets} {receivedAt : String}
    (admitted : Admitted ext config store raw receivedAt plan subjectKey payloads)
    (applied : isApplied plan.envelope = true) (carries : plan.envelope.get "authorization" ≠ none) :
    ∃ gateUse request decision, plan.gateUse = some gateUse ∧
      Spends ext plan.envelope request decision gateUse := by
  obtain ⟨approvers, ok, authorized, uses⟩ := admitted.authorized applied carries
  obtain ⟨required, seen, verified⟩ := authorized.verified
  obtain ⟨request, decision, spends⟩ := gateUseOf_spends verified
  exact ⟨gateUseOf plan.envelope ok, request, decision, uses, spends⟩

end Ingest

namespace World

theorem applied_spends {world : World} (reached : (kernel ext config).Reachable world)
    {taken : Accepted} (member : taken ∈ world.accepted)
    (applied : isApplied taken.plan.envelope = true)
    (carries : taken.plan.envelope.get "authorization" ≠ none) :
    ∃ gateUse request decision, taken.plan.gateUse = some gateUse ∧
      Spends ext taken.plan.envelope request decision gateUse := by
  obtain ⟨before, after, taking⟩ := (traced reached).accepted taken member
  obtain ⟨subjectKey, payloads, admitted⟩ := taking.origin.admitted
  exact admitted.spends applied carries

/-- A single-use approval backs one stored envelope: two that used one request hash both used it as a
standing approval, and every applied envelope uses the approval it carries. -/
theorem single_use_backs_one_envelope {world : World} (reached : (kernel ext config).Reachable world)
    {first second : Accepted} (firstTaken : first ∈ world.accepted)
    (secondTaken : second ∈ world.accepted) (distinct : first.plan.id ≠ second.plan.id) :
    (∀ firstUse secondUse, first.plan.gateUse = some firstUse → second.plan.gateUse = some secondUse →
        firstUse.requestHash = secondUse.requestHash →
        firstUse.singleUse = false ∧ secondUse.singleUse = false) ∧
      ∀ request decision otherRequest otherDecision hash,
        isApplied first.plan.envelope = true → isApplied second.plan.envelope = true →
        Gate.Carries first.plan.envelope request decision →
        Gate.Carries second.plan.envelope otherRequest otherDecision →
        Jcs.objectHash ext request = .ok hash → Jcs.objectHash ext otherRequest = .ok hash →
        Gate.singleUse decision = false ∧ Gate.singleUse otherDecision = false := by
  have shared := fun firstUse secondUse => (ledger reached).shared firstTaken secondTaken distinct firstUse secondUse
  refine ⟨fun firstUse secondUse => shared firstUse secondUse, ?_⟩
  intro request decision otherRequest otherDecision hash applied otherApplied carries otherCarries
    hashed otherHashed
  obtain ⟨firstUse, _, _, firstUses, spends⟩ := applied_spends reached firstTaken applied (by
    obtain ⟨_, has, _⟩ := carries
    simp [has])
  obtain ⟨secondUse, _, _, secondUses, otherSpends⟩ := applied_spends reached secondTaken otherApplied (by
    obtain ⟨_, has, _⟩ := otherCarries
    simp [has])
  obtain ⟨rfl, rfl⟩ := spends.carried.unique carries
  obtain ⟨rfl, rfl⟩ := otherSpends.carried.unique otherCarries
  have same : firstUse.requestHash = secondUse.requestHash := by
    have left := Except.ok.inj (spends.hashed.symm.trans hashed)
    have right := Except.ok.inj (otherSpends.hashed.symm.trans otherHashed)
    exact left.trans right.symm
  obtain ⟨single, otherSingle⟩ := shared firstUse secondUse firstUses secondUses same
  exact ⟨spends.singleUse ▸ single, otherSpends.singleUse ▸ otherSingle⟩

end World

end Stozher

namespace Stozher.Deployment

open Ingest

theorem founding_single_use :
    ∃ first ∈ (after founding).accepted, ∃ second ∈ (after founding).accepted,
      first.plan.id ≠ second.plan.id ∧
        ∀ firstUse secondUse, first.plan.gateUse = some firstUse → second.plan.gateUse = some secondUse →
          firstUse.requestHash = secondUse.requestHash →
          firstUse.singleUse = false ∧ secondUse.singleUse = false := by
  have taken := congrArg Observed.taken observed_eq
  dsimp only [observed] at taken
  obtain ⟨first, firstTaken, firstId⟩ := List.mem_map.mp
    (taken ▸ List.mem_cons_self : opsGrant.digest ∈ (after founding).accepted.map fun taken => taken.plan.id)
  obtain ⟨second, secondTaken, secondId⟩ := List.mem_map.mp
    (taken ▸ List.mem_cons_of_mem _ List.mem_cons_self :
      policyChange.digest ∈ (after founding).accepted.map fun taken => taken.plan.id)
  have distinct : first.plan.id ≠ second.plan.id := by
    rw [firstId, secondId]
    decide
  exact ⟨first, firstTaken, second, secondTaken, distinct,
    (World.single_use_backs_one_envelope (reachable founding) firstTaken secondTaken distinct).1⟩

end Stozher.Deployment
