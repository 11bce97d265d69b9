import Stozher.Charges
import Stozher.Deployment
import Stozher.Library.Splits

namespace Stozher

open Library Ingest

variable {ext : External} {config : Config}

namespace Store

variable (store : Store)

/-- Whether an envelope ever committed to a payload, decayed or still stored. -/
def payloadWasCommitted (payloadHash : String) : Bool :=
  store.payloadRefs.any fun row => row.payloadHash == payloadHash

end Store

/-- An envelope that commits to a payload, and until when it says that the payload is kept. -/
def CommitsTo (env : Value) (payloadHash : String) (retainUntil : Option String) : Prop :=
  ∃ name ∈ ["evidence", "signal"], ∃ section_, env.get name = some section_ ∧
    section_.getStr "payload-hash" = some payloadHash ∧ section_.getStr "retain-until" = retainUntil

/-- A plan whose payloads are kept: of a signal, or of a class whose payloads the policy in force stores. -/
inductive Kept (ext : External) (config : Config) (store : Store) (plan : AppendPlan) : Prop where
  | signal (isSignal : plan.envelope.getStr "kind" = some "signal")
  | stored (policy : Policy) (class_ : String) (published : policyInForce ext config store = .ok (some policy))
      (effective : plan.effectiveClass = some class_) (stores : policy.storesPayloads class_ = true)

/-- The reference a plan writes for one of its payloads. -/
def AppendPlan.reference (plan : AppendPlan) (row : PayloadRow) : PayloadRef where
  payloadHash := row.payloadHash
  envelopeId := plan.id
  stream := plan.stream
  retainUntil := row.retainUntil

/-- How long a payload is kept for an envelope. -/
def retentionOf (env : Value) (payloadHash : String) : String :=
  (retainUntilFor env payloadHash).getD (emittedAt env)

/-- What is collected of a submitted payload. -/
structure Collected (env payload : Value) (row : PayloadRow) : Prop where
  named : payload.getStr "payload-hash" = some row.payloadHash
  retained : row.retainUntil = retentionOf env row.payloadHash

namespace Ingest

variable {store : Store} {env : Value} {plan next : AppendPlan} {payloads : List Value}

theorem collected_of_fold (collected : foldChecked (collectPayload env (emittedAt env)) plan payloads = .ok next) :
    ∃ rows, next.payloads = plan.payloads ++ rows ∧ List.Forall₂ (Collected env) payloads rows := by
  induction payloads generalizing plan with
  | nil =>
      cases collected
      exact ⟨[], (List.append_nil _).symm, .nil⟩
  | cons payload rest ih =>
      rw [foldChecked_cons, bind_eq_ok] at collected
      obtain ⟨middle, step, later⟩ := collected
      obtain ⟨rows, grown, each⟩ := ih later
      obtain ⟨payloadHash, mediaType, bytes, named, rfl⟩ := collectPayload_eq_ok step
      refine ⟨{ payloadHash, mediaType, bytes, retainUntil := retentionOf env payloadHash } :: rows, ?_,
        .cons ⟨named, rfl⟩ each⟩
      rw [grown, List.append_assoc, List.singleton_append]
      rfl

theorem kindSpec_of_signal {kind : String} {spec : Envelope.KindSpec} (hasSpec : Envelope.kindSpec kind = some spec)
    (admits : "signal" ∈ spec.required ∨ "signal" ∈ spec.optional) : kind = "signal" := by
  unfold Envelope.kindSpec at hasSpec
  split at hasSpec <;> cases hasSpec <;> simp_all

theorem kindSpec_of_evidence {kind : String} {spec : Envelope.KindSpec} (hasSpec : Envelope.kindSpec kind = some spec)
    (admits : "evidence" ∈ spec.required ∨ "evidence" ∈ spec.optional) : kind ∈ effectKinds := by
  unfold Envelope.kindSpec at hasSpec
  split at hasSpec <;> cases hasSpec <;> simp_all [effectKinds]

/-- Only a signal has the member. -/
theorem signal_of_get (valid : Envelope.validate ext env = .ok ()) {value : Value}
    (found : env.get "signal" = some value) : env.getStr "kind" = some "signal" := by
  obtain ⟨kind, spec, isKind, hasSpec, common | required | optional | common⟩ := Envelope.admits_of_get valid found
  · exact absurd common (by decide)
  · rw [isKind, kindSpec_of_signal hasSpec (.inl required)]
  · rw [isKind, kindSpec_of_signal hasSpec (.inr optional)]
  · exact absurd common (by decide)

/-- Only an effect has evidence. -/
theorem effect_of_evidence (valid : Envelope.validate ext env = .ok ()) {value : Value}
    (found : env.get "evidence" = some value) : ∃ kind ∈ effectKinds, env.getStr "kind" = some kind := by
  obtain ⟨kind, spec, isKind, hasSpec, common | required | optional | common⟩ := Envelope.admits_of_get valid found
  · exact absurd common (by decide)
  · exact ⟨kind, kindSpec_of_evidence hasSpec (.inl required), isKind⟩
  · exact ⟨kind, kindSpec_of_evidence hasSpec (.inr optional), isKind⟩
  · exact absurd common (by decide)

/-- A submitted payload is one the envelope commits to. -/
theorem commits_of_submitted {ok : Payload.IngestOk} (verified : Payload.verifyIngest ext env payloads = .ok ok)
    {payload : Value} (member : payload ∈ payloads) {payloadHash : String}
    (named : payload.getStr "payload-hash" = some payloadHash) : ∃ retainUntil, CommitsTo env payloadHash retainUntil := by
  unfold Payload.verifyIngest at verified
  simp only [bind_eq_ok, forEach_eq_ok] at verified
  obtain ⟨_, _, _, each, _⟩ := verified
  have checked := each payload member
  unfold Payload.verifyPayload at checked
  simp only [bind_eq_ok, okOr_eq_ok, require_eq_ok] at checked
  obtain ⟨declared, isDeclared, _, _, _, _, _, _, _, _, _, _, referenced⟩ := checked
  cases named.symm.trans isDeclared
  unfold Payload.referencedHashes at referenced
  obtain ⟨name, listed, same⟩ := List.mem_filterMap.mp referenced
  obtain ⟨section_, found, isHash⟩ := Option.bind_eq_some_iff.mp same
  exact ⟨_, name, listed, section_, found, isHash, rfl⟩

/-- An effect's payloads are collected where policy stores its class, and dropped where it does not. -/
theorem collectPayloads_cases {policy : Policy} {class_ : String} {ok : Payload.IngestOk}
    (collected : collectPayloads env payloads policy (some class_) plan = .ok next) (begun : plan.payloads = [])
    (verified : Payload.verifyIngest ext env payloads = .ok ok) (noSignal : env.get "signal" = none) :
    if policy.storesPayloads class_ = true then List.Forall₂ (Collected env) payloads next.payloads
    else next.payloads = [] := by
  have folded : foldChecked (collectPayload env (emittedAt env)) plan payloads = .ok next →
      List.Forall₂ (Collected env) payloads next.payloads := by
    intro run
    obtain ⟨rows, grown, each⟩ := collected_of_fold run
    rw [grown, begun]
    exact each
  unfold collectPayloads at collected
  dsimp only at collected
  cases carried : env.get "evidence" with
  | some evidence =>
      rw [carried] at collected
      dsimp only at collected
      by_cases stores : policy.storesPayloads class_ = true
      · rw [if_pos stores] at collected ⊢
        simp only [bind_eq_ok] at collected
        obtain ⟨_, _, _, _, _, _, run⟩ := collected
        exact folded run
      · rw [if_neg stores] at collected ⊢
        cases collected
        exact begun
  | none =>
      rw [carried] at collected
      have uncommitted : payloads = [] := by
        unfold Payload.verifyIngest at verified
        simp only [bind_eq_ok, forEach_eq_ok] at verified
        obtain ⟨_, _, _, each, _⟩ := verified
        apply List.eq_nil_iff_forall_not_mem.mpr
        intro payload member
        have checked := each payload member
        unfold Payload.verifyPayload Payload.referencedHashes at checked
        simp only [bind_eq_ok, require_eq_ok] at checked
        obtain ⟨_, _, _, _, _, _, _, _, _, _, _, _, referenced⟩ := checked
        obtain ⟨name, listed, same⟩ := List.mem_filterMap.mp referenced
        simp only [List.mem_cons, List.not_mem_nil, or_false] at listed
        rcases listed with rfl | rfl
        · rw [carried] at same
          cases same
        · rw [noSignal] at same
          cases same
      have each := folded collected
      rw [uncommitted] at each ⊢
      split
      · exact each
      · exact List.forall₂_nil_left_iff.mp each

variable {subjectKey : KeyId}

/-- The payloads of an admitted plan: collected one by one where they are kept, and none elsewhere. -/
theorem Admitted.payloads_cases {raw : Octets} {receivedAt : String}
    (admitted : Admitted ext config store raw receivedAt plan subjectKey payloads) :
    (Kept ext config store plan ∧ List.Forall₂ (Collected plan.envelope) payloads plan.payloads) ∨
      (¬ Kept ext config store plan ∧ plan.payloads = []) := by
  obtain ⟨ok, verified⟩ := admitted.evidence
  have idle : ∀ kind, plan.envelope.getStr "kind" = some kind → kind ≠ "signal" → plan.effectiveClass = none →
      ¬ Kept ext config store plan := by
    intro kind isKind other unclassed kept
    cases kept with
    | signal isSignal => exact other (Option.some.inj (isKind.symm.trans isSignal))
    | stored policy class_ published effective => cases unclassed.symm.trans effective
  cases admitted.rule with
  | genesis unpublished passed =>
      have notKept : ∀ kind, plan.envelope.getStr "kind" = some kind → kind ≠ "signal" → ¬ Kept ext config store plan := by
        intro kind isKind other kept
        cases kept with
        | signal isSignal => exact other (Option.some.inj (isKind.symm.trans isSignal))
        | stored policy class_ published => cases unpublished.symm.trans published
      rcases validateGenesis_cases passed with ⟨_, ⟨kind, _, passed⟩ | ⟨kind, _, passed⟩⟩
      · obtain ⟨_, _, _, _, _, _, same⟩ := validateGenesisMandate_eq_ok passed
        exact .inr ⟨notKept _ kind (by decide), by rw [same]; rfl⟩
      · obtain ⟨changed, _, _, change, _, same⟩ := validateGenesisPolicy_eq_ok passed
        refine .inr ⟨notKept _ kind (by decide), ?_⟩
        rw [same]
        exact (validatePolicyChange_carries change).payloads
  | inForce policy published admits unauthorized =>
      cases admits with
      | effect kind passed =>
          obtain ⟨_, effective, gated, begun, isClass, collected⟩ := validateEffectKind_charged passed rfl rfl
          have noSignal : plan.envelope.get "signal" = none := by
            cases found : plan.envelope.get "signal" with
            | none => rfl
            | some value =>
                have isSignal := signal_of_get admitted.valid found
                rw [isSignal] at kind
                exact absurd kind (by decide)
          have cases_ := collectPayloads_cases collected begun verified noSignal
          by_cases stores : policy.storesPayloads effective = true
          · rw [if_pos stores] at cases_
            exact .inl ⟨.stored policy effective published isClass stores, cases_⟩
          · rw [if_neg stores] at cases_
            refine .inr ⟨?_, cases_⟩
            intro kept
            cases kept with
            | signal isSignal =>
                rw [isSignal] at kind
                exact absurd kind (by decide)
            | stored other class_ inForce isOther storesOther =>
                cases published.symm.trans inForce
                cases isClass.symm.trans isOther
                exact stores storesOther
      | cognition kind passed =>
          unfold validateCognition at passed
          simp only [bind_eq_ok, pure_eq_ok] at passed
          obtain ⟨resource, _, humanRoot, _, same⟩ := passed
          obtain ⟨unclassed, uncollected⟩ := accrueBudget_rest store plan.envelope { planOf plan with humanRoot := some humanRoot }
          rw [same] at unclassed uncollected
          exact .inr ⟨idle _ kind (by decide) unclassed, uncollected⟩
      | signal kind passed =>
          refine .inl ⟨.signal kind, ?_⟩
          unfold collectPayloads at passed
          dsimp only at passed
          obtain ⟨rows, grown, each⟩ := collected_of_fold passed
          rw [grown]
          exact each
      | mandate kind passed =>
          obtain ⟨_, _, _, _, _, _, _, _, same⟩ := validateMandateGrant_eq_ok passed
          exact .inr ⟨idle _ kind (by decide) (by rw [same]; rfl), by rw [same]; rfl⟩
      | revocation kind passed =>
          obtain ⟨_, _, _, _, _, _, _, _, _, _, same⟩ := validateRevocation_eq_ok passed
          exact .inr ⟨idle _ kind (by decide) (by rw [same]; rfl), by rw [same]; rfl⟩
      | gateDecision kind passed =>
          obtain ⟨_, same⟩ := validateGateDecision_eq_ok passed
          exact .inr ⟨idle _ kind (by decide) (by rw [same]; rfl), by rw [same]; rfl⟩
      | checkpoint kind passed =>
          obtain ⟨_, _, _, _, _, _, _, _, same⟩ := validateCheckpoint_eq_ok passed
          exact .inr ⟨idle _ kind (by decide) (by rw [same]; rfl), by rw [same]; rfl⟩

/-- A signal's payload is kept until the signal was emitted, whatever it says. -/
theorem retentionOf_signal (valid : Envelope.validate ext env = .ok ()) (isSignal : env.getStr "kind" = some "signal")
    (payloadHash : String) : retentionOf env payloadHash = emittedAt env := by
  have none : env.get "evidence" = none := by
    cases found : env.get "evidence" with
    | none => rfl
    | some value =>
        obtain ⟨kind, effect, isKind⟩ := effect_of_evidence valid found
        rw [isSignal, Option.some.injEq] at isKind
        subst isKind
        exact absurd effect (by decide)
  unfold retentionOf retainUntilFor
  rw [none]
  rfl

/-- Evidence is kept until it says. -/
theorem retentionOf_evidence (valid : Envelope.validate ext env = .ok ()) (other : env.getStr "kind" ≠ some "signal")
    {payloadHash retainUntil : String} (commits : CommitsTo env payloadHash (some retainUntil)) :
    retentionOf env payloadHash = retainUntil := by
  obtain ⟨name, listed, section_, found, isHash, retains⟩ := commits
  simp only [List.mem_cons, List.not_mem_nil, or_false] at listed
  rcases listed with rfl | rfl
  · unfold retentionOf retainUntilFor
    rw [found]
    show (if section_.getStr "payload-hash" = some payloadHash then section_.getStr "retain-until" else _).getD _ = _
    rw [if_pos isHash, retains, Option.getD_some]
  · exact absurd (signal_of_get valid found) other

/-- The payloads of a plan whose payloads are kept are collected one by one. -/
theorem Admitted.collected {raw : Octets} {receivedAt : String}
    (admitted : Admitted ext config store raw receivedAt plan subjectKey payloads) (kept : Kept ext config store plan) :
    List.Forall₂ (Collected plan.envelope) payloads plan.payloads := by
  rcases admitted.payloads_cases with ⟨_, each⟩ | ⟨unkept, _⟩
  · exact each
  · exact absurd kept unkept

end Ingest

namespace Store

variable {store next : Store} {plan : AppendPlan}

theorem Quiet.payloadRefs (quiet : Quiet ext config store next) : next.payloadRefs = store.payloadRefs := by
  cases quiet with
  | same => rfl
  | rejected input record next recorded =>
      obtain ⟨row, rfl, _⟩ := recordRejection_eq_ok recorded
      rfl
  | parked rows => rfl
  | decayed now => rfl
  | seeded rootKey subject enrolledAt =>
      unfold seedConfiguredRoot
      split <;> rfl

theorem insertPayload_payloadRefs (store : Store) (row : PayloadRow) : (insertPayload plan store row).payloadRefs =
    if (store.payloadRefs.any fun held => held.payloadHash == row.payloadHash && held.envelopeId == plan.id) = true then
      store.payloadRefs else store.payloadRefs ++ [plan.reference row] := rfl

/-- Inserted payloads are referenced from their envelope, where a payload's retention is told by its hash. -/
theorem mem_insertPayloads {told : String → String}
    (retained : ∀ row ∈ plan.payloads, row.retainUntil = told row.payloadHash)
    (fresh : ∀ reference ∈ store.payloadRefs, reference.envelopeId ≠ plan.id) (reference : PayloadRef) :
    reference ∈ (insertPayloads store plan).payloadRefs ↔
      reference ∈ store.payloadRefs ∨ ∃ row ∈ plan.payloads, reference = plan.reference row := by
  unfold insertPayloads
  generalize plan.payloads = rows at retained ⊢
  induction rows using List.reverseRecOn generalizing reference with
  | nil =>
      constructor
      · exact .inl
      · rintro (held | ⟨row, member, _⟩)
        · exact held
        · cases member
  | append_singleton front row ih =>
      have earlier := fun reference => ih reference fun row member => retained row (List.mem_append_left _ member)
      rw [List.foldl_append, List.foldl_cons, List.foldl_nil, insertPayload_payloadRefs]
      by_cases referenced : ((front.foldl (insertPayload plan) store).payloadRefs.any fun held =>
          held.payloadHash == row.payloadHash && held.envelopeId == plan.id) = true
      · rw [if_pos referenced, earlier reference]
        obtain ⟨held, member, same⟩ := List.any_eq_true.mp referenced
        rw [Bool.and_eq_true, beq_iff_eq, beq_iff_eq] at same
        constructor
        · rintro (old | ⟨other, inside, isOther⟩)
          · exact .inl old
          · exact .inr ⟨other, List.mem_append_left _ inside, isOther⟩
        · rintro (old | ⟨other, inside, isOther⟩)
          · exact .inl old
          · rcases List.mem_append.mp inside with inside | last
            · exact .inr ⟨other, inside, isOther⟩
            · rcases (earlier held).mp member with old | ⟨twin, inside, isTwin⟩
              · exact absurd same.2 (fresh held old)
              · refine .inr ⟨twin, inside, ?_⟩
                have hashes : twin.payloadHash = row.payloadHash := by
                  rw [← same.1, isTwin]
                  rfl
                rw [isOther, List.mem_singleton.mp last]
                unfold AppendPlan.reference
                rw [retained twin (List.mem_append_left _ inside),
                  retained row (List.mem_append_right _ List.mem_cons_self), hashes]
      · rw [if_neg referenced, List.mem_append, List.mem_singleton, earlier reference, or_assoc]
        refine or_congr_right ?_
        constructor
        · rintro (⟨other, inside, isOther⟩ | isLast)
          · exact ⟨other, List.mem_append_left _ inside, isOther⟩
          · exact ⟨row, List.mem_append_right _ List.mem_cons_self, isLast⟩
        · rintro ⟨other, inside, isOther⟩
          rcases List.mem_append.mp inside with inside | last
          · exact .inl ⟨other, inside, isOther⟩
          · rw [List.mem_singleton.mp last] at isOther
            exact .inr isOther

end Store

namespace World

variable {world : World}

/-- The references on record are those of the payloads of accepted envelopes. -/
structure Referenced (world : World) : Prop where
  written : ∀ taken ∈ world.accepted, ∀ row ∈ taken.plan.payloads,
    taken.plan.reference row ∈ world.store.payloadRefs
  owned : ∀ reference ∈ world.store.payloadRefs, ∃ taken ∈ world.accepted, reference.envelopeId = taken.plan.id
  own : ∀ taken ∈ world.accepted, ∀ reference ∈ world.store.payloadRefs, reference.envelopeId = taken.plan.id →
    ∃ row ∈ taken.plan.payloads, reference = taken.plan.reference row

theorem id_ne_of_fresh (traced : Traced ext config world) {id : String} (fresh : world.store.envelopeById id = none)
    {taken : Accepted} (accepted : taken ∈ world.accepted) : taken.plan.id ≠ id := by
  intro same
  obtain ⟨row, member, built⟩ := forall₂_mem_right traced.rows accepted
  exact List.find?_eq_none.mp fresh row member (beq_iff_eq.mpr ((Store.envelopeRow_eq_ok built).id.trans same))

theorem Referenced.initial : Referenced World.initial where
  written := by intro taken member; cases member
  owned := by intro reference member; cases member
  own := by intro taken member; cases member

theorem Referenced.unowned (referenced : Referenced world) {id : String}
    (apart : ∀ taken ∈ world.accepted, taken.plan.id ≠ id) :
    ∀ reference ∈ world.store.payloadRefs, reference.envelopeId ≠ id := by
  intro reference member same
  obtain ⟨taken, held, owner⟩ := referenced.owned reference member
  exact apart taken held (owner.symm.trans same)

/-- The references on record after an append. -/
theorem Referenced.references (referenced : Referenced world) (traced : Traced ext config world) {request : Submission}
    {snapshot next : Store} {validated : Validated} (waiting : Task.append request snapshot validated ∈ world.tasks)
    (fresh : world.store.envelopeById validated.plan.id = none) (appends : world.store.Appends validated.plan next)
    (reference : PayloadRef) : reference ∈ next.payloadRefs ↔ reference ∈ world.store.payloadRefs ∨
      ∃ row ∈ validated.plan.payloads, reference = validated.plan.reference row := by
  obtain ⟨subjectKey, payloads, admitted⟩ := (traced.tasks _ _ _ waiting).admitted
  have retained : ∀ row ∈ validated.plan.payloads,
      row.retainUntil = retentionOf validated.plan.envelope row.payloadHash := by
    intro row member
    rcases admitted.payloads_cases with ⟨_, each⟩ | ⟨_, none⟩
    · obtain ⟨payload, _, collected⟩ := forall₂_mem_right each member
      exact collected.retained
    · rw [none] at member
      cases member
  rw [appends.payloads.2]
  exact Store.mem_insertPayloads retained
    (referenced.unowned fun taken member => id_ne_of_fresh traced fresh member) reference

theorem Referenced.step {action : Action} {next : World} (traced : Traced ext config world)
    (referenced : Referenced world) (step : StepTo ext config world action next) : Referenced next := by
  cases step with
  | quiet store accepted tasks =>
      have same := store.payloadRefs
      constructor
      · intro taken member row inside
        rw [same]
        exact referenced.written taken (accepted ▸ member) row inside
      · intro reference member
        rw [accepted]
        exact referenced.owned reference (same ▸ member)
      · intro taken member reference inside
        exact referenced.own taken (accepted ▸ member) reference (same ▸ inside)
  | appends request snapshot validated waiting fresh store accepted tasks =>
      have apart : ∀ taken ∈ world.accepted, taken.plan.id ≠ validated.plan.id :=
        fun taken member => id_ne_of_fresh traced fresh member
      have unowned := referenced.unowned apart
      have references := referenced.references traced waiting fresh store
      constructor
      · intro taken member row inside
        rw [references]
        rcases List.mem_append.mp (accepted ▸ member) with earlier | last
        · exact .inl (referenced.written taken earlier row inside)
        · rw [List.mem_singleton] at last
          subst last
          exact .inr ⟨row, inside, rfl⟩
      · intro reference member
        rw [accepted]
        rcases (references reference).mp member with old | ⟨row, inside, rfl⟩
        · obtain ⟨taken, held, owner⟩ := referenced.owned reference old
          exact ⟨taken, List.mem_append_left _ held, owner⟩
        · exact ⟨_, List.mem_append_right _ List.mem_cons_self, rfl⟩
      · intro taken member reference inside owner
        rcases List.mem_append.mp (accepted ▸ member) with earlier | last
        · rcases (references reference).mp inside with old | ⟨row, _, rfl⟩
          · exact referenced.own taken earlier reference old owner
          · exact absurd owner.symm (apart taken earlier)
        · rw [List.mem_singleton] at last
          subst last
          rcases (references reference).mp inside with old | new
          · exact absurd owner (unowned reference old)
          · exact new

theorem referenced (reached : (kernel ext config).Reachable world) : Referenced world :=
  World.invariant ext config Referenced .initial (fun _ _ _ traced known step => known.step traced step) reached

/-- A request that brings a payload along. -/
def Submits (ext : External) (raw : Octets) (payloadHash : String) : Prop :=
  ∃ request env payloads, ext.parseOctets raw = .ok request ∧ readRequest request = .ok (env, payloads) ∧
    ∃ payload ∈ payloads, payload.getStr "payload-hash" = some payloadHash

/-- Every envelope whose payloads are kept came with what it commits to, and every signal among them says that its
payload is kept until it was emitted, if it says how long. -/
def Accompanied (ext : External) (config : Config) (world : World) : Prop :=
  ∀ taken ∈ world.accepted, Kept ext config taken.snapshot taken.plan → ∀ payloadHash retainUntil,
    CommitsTo taken.plan.envelope payloadHash retainUntil → Submits ext taken.request.raw payloadHash ∧
      ∀ until_, retainUntil = some until_ → taken.plan.envelope.getStr "kind" = some "signal" →
        until_ = emittedAt taken.plan.envelope

/-- What the reference table is for: it has every commitment of an envelope whose payloads are kept, with its retention;
what is decayed is past every retention; and what was ever committed to is told apart from what never was. -/
structure Covers (ext : External) (config : Config) (world : World) : Prop where
  covers : ∀ taken ∈ world.accepted, Kept ext config taken.snapshot taken.plan → ∀ payloadHash retainUntil,
    CommitsTo taken.plan.envelope payloadHash retainUntil → ∃ reference ∈ world.store.payloadRefs,
      reference.payloadHash = payloadHash ∧ reference.envelopeId = taken.plan.id ∧
        ∀ until_, retainUntil = some until_ → reference.retainUntil = until_
  decays : ∀ now, ∀ row ∈ world.store.payloads, row ∉ (world.store.decayPayloads now).payloads →
    ∀ taken ∈ world.accepted, Kept ext config taken.snapshot taken.plan → ∀ until_,
      CommitsTo taken.plan.envelope row.payloadHash (some until_) → until_ ≤ now
  committed : ∀ payloadHash, world.store.payloadWasCommitted payloadHash = true ↔
    ∃ taken ∈ world.accepted, Kept ext config taken.snapshot taken.plan ∧
      ∃ retainUntil, CommitsTo taken.plan.envelope payloadHash retainUntil

/-- The payloads of an accepted envelope whose payloads are kept, one for each that it came with. -/
theorem payloads_of_kept (reached : (kernel ext config).Reachable world) {taken : Accepted}
    (accepted : taken ∈ world.accepted) (kept : Kept ext config taken.snapshot taken.plan) (payloadHash : String) :
    Submits ext taken.request.raw payloadHash ↔ ∃ row ∈ taken.plan.payloads, row.payloadHash = payloadHash ∧
      row.retainUntil = retentionOf taken.plan.envelope payloadHash := by
  obtain ⟨before, after, taking⟩ := (traced reached).accepted taken accepted
  obtain ⟨subjectKey, payloads, admitted⟩ := taking.origin.admitted
  obtain ⟨request, parsed, read⟩ := admitted.request
  constructor
  · rintro ⟨other, env, submitted, isOther, isRead, payload, member, named⟩
    cases parsed.symm.trans isOther
    cases read.symm.trans isRead
    obtain ⟨row, inside, collected⟩ := forall₂_mem_left (admitted.collected kept) member
    have same : row.payloadHash = payloadHash := Option.some.inj (collected.named.symm.trans named)
    exact ⟨row, inside, same, same ▸ collected.retained⟩
  · rintro ⟨row, inside, rfl, _⟩
    obtain ⟨payload, member, collected⟩ := forall₂_mem_right (admitted.collected kept) inside
    exact ⟨request, _, payloads, parsed, read, payload, member, collected.named⟩

/-- A reference on record is of an envelope whose payloads are kept, and commits to it. -/
theorem reference_commits (reached : (kernel ext config).Reachable world) {reference : PayloadRef}
    (member : reference ∈ world.store.payloadRefs) : ∃ taken ∈ world.accepted, Kept ext config taken.snapshot taken.plan ∧
      ∃ retainUntil, CommitsTo taken.plan.envelope reference.payloadHash retainUntil := by
  obtain ⟨taken, accepted, owner⟩ := (referenced reached).owned reference member
  obtain ⟨row, inside, rfl⟩ := (referenced reached).own taken accepted reference member owner
  obtain ⟨before, after, taking⟩ := (traced reached).accepted taken accepted
  obtain ⟨subjectKey, payloads, admitted⟩ := taking.origin.admitted
  obtain ⟨ok, verified⟩ := admitted.evidence
  rcases admitted.payloads_cases with ⟨kept, each⟩ | ⟨_, none⟩
  · obtain ⟨payload, submitted, collected⟩ := forall₂_mem_right each inside
    exact ⟨taken, accepted, kept, commits_of_submitted verified submitted collected.named⟩
  · rw [none] at inside
    cases inside

/-- A table that has every commitment decays no payload early, and tells what was committed to. -/
theorem Covers.of_covers (reached : (kernel ext config).Reachable world)
    (covers : ∀ taken ∈ world.accepted, Kept ext config taken.snapshot taken.plan → ∀ payloadHash retainUntil,
      CommitsTo taken.plan.envelope payloadHash retainUntil → ∃ reference ∈ world.store.payloadRefs,
        reference.payloadHash = payloadHash ∧ reference.envelopeId = taken.plan.id ∧
          ∀ until_, retainUntil = some until_ → reference.retainUntil = until_) : Covers ext config world := by
  refine ⟨covers, ?_, ?_⟩
  · intro now row held gone taken accepted kept until_ commits
    obtain ⟨reference, member, hash, _, retains⟩ := covers taken accepted kept row.payloadHash (some until_) commits
    by_contra later
    refine gone (List.mem_filter.mpr ⟨held, List.any_eq_true.mpr ⟨reference, member, ?_⟩⟩)
    rw [hash, beq_self_eq_true, retains until_ rfl, Bool.true_and, decide_eq_true_iff]
    exact lt_of_not_ge later
  · intro payloadHash
    unfold Store.payloadWasCommitted
    rw [List.any_eq_true]
    constructor
    · rintro ⟨reference, member, same⟩
      rw [← beq_iff_eq.mp same]
      exact reference_commits reached member
    · rintro ⟨taken, accepted, kept, retainUntil, commits⟩
      obtain ⟨reference, member, hash, _⟩ := covers taken accepted kept payloadHash retainUntil commits
      exact ⟨reference, member, beq_iff_eq.mpr hash⟩

end World

end Stozher

namespace Stozher.Deployment

open Library Library.Text Recorded Ingest

/-- A signal whose payload is a call without arguments, kept until an instant. -/
def signalForm (seq : Nat) (prev : Option String) (payloadHash retainUntil : String) (sig : Members) : Value :=
  .object ([("emitted-at", .string nine), ("identity", opsIdentity), ("kind", .string "signal"),
    ("prev-hash", .ofOption prev), ("seq", .ofNat seq)] ++ sig ++
    [("signal", .object [("media-type", .string "application/json"), ("payload-hash", .string payloadHash),
      ("received-at", .string nine), ("retain-until", .string retainUntil), ("sender-verified", .bool true),
      ("source", .string "github")]),
    ("stream", .string "ops:signals"), ("v", .string "stozher/0.1")])

def promptSignal : Recorded where
  form := signalForm 0 none noArguments.digest nine
  sealed := some (opsKey, signatureText
    0x0b0de1a2263f635863e9fb0cfccfa0cefcc551dc5717328e9ae3762ab5387fb7
    0xe89a5cefbba988d89b1594d8cf4e38e5c25144581945b4c214e8ca6da485900c)
  digest := hex 64 0x4facfa126e76ef6bf3b76bdd2f4bfb572d3317360d02ee1ec551cc9974cdce94

def keptSignal : Recorded where
  form := signalForm 1 (some promptSignal.digest) noArguments.digest nextYear
  sealed := some (opsKey, signatureText
    0xfc3a281959766562fd3d850a1903f0a6dc41ac74b4c019e0b0543833b6f26981
    0x92377b23cee112ca6b7c5f2264a6eb19e8cde3d27c8e2dafa6bdf53df8b6520a)
  digest := hex 64 0xb0f1acbdcd003923eed87925a29fd20f084582e65dd3f9d2270b712b79b6be21

def signalsExt : External :=
  external (records ++ [promptSignal, keptSignal])

def signalling : List Action :=
  founding ++ enter (submission promptSignal.document [noArguments]) nine

@[irreducible] def promptWorld : World :=
  (kernel signalsExt config).run .initial signalling

@[irreducible] def signalledWorld : World :=
  (kernel signalsExt config).run promptWorld (enter (submission keptSignal.document [noArguments]) nine)

theorem promptWorld_reachable : (kernel signalsExt config).Reachable promptWorld := by
  unfold promptWorld
  exact ⟨.initial, signalling, rfl, rfl⟩

theorem signalledWorld_reachable : (kernel signalsExt config).Reachable signalledWorld := by
  unfold signalledWorld
  exact promptWorld_reachable.run _

/-- What a request brings along. -/
def submittedHashes (raw : Octets) : List (Option String) :=
  match signalsExt.parseOctets raw >>= readRequest with
  | .ok (_, payloads) => payloads.map (·.getStr "payload-hash")
  | .error _ => []

/-- A signal that asks for its payload to be kept until it was emitted, and brings it along, or a step of the genesis. -/
def accompanies (taken : Accepted) : Bool :=
  let env := taken.plan.envelope
  if env.getStr "kind" = some "signal" then
    (env.get "evidence").isNone && (env.index "signal").getStr "retain-until" == some (emittedAt env) &&
      submittedHashes taken.request.raw == [(env.index "signal").getStr "payload-hash"]
  else taken.snapshot.currentPolicy.isNone

structure SignalsSeen : Prop where
  prompt : promptWorld.accepted.all accompanies = true
  kept : (signalledWorld.accepted.map fun taken => (taken.plan.envelope.getStr "kind",
    (taken.plan.envelope.get "signal").map fun signal =>
      (signal.getStr "payload-hash", signal.getStr "retain-until"))).getLast? =
        some (some "signal", some (some noArguments.digest, some nextYear))
  references : signalledWorld.store.payloadRefs.map PayloadRef.retainUntil = [nine, nine]

theorem signals_seen : SignalsSeen := by
  constructor <;> decide +kernel

theorem submits_of_hashes {raw : Octets} {payloadHash : Option String} (brings : submittedHashes raw = [payloadHash])
    {name : String} (isName : payloadHash = some name) : World.Submits signalsExt raw name := by
  unfold submittedHashes at brings
  split at brings
  · rename_i env payloads read
    rw [bind_eq_ok] at read
    obtain ⟨request, parsed, read⟩ := read
    obtain ⟨payload, rest, rfl, named, _⟩ := List.map_eq_cons_iff.mp brings
    exact ⟨request, env, _, parsed, read, payload, List.mem_cons_self, named.trans isName⟩
  · cases brings

end Stozher.Deployment
