import Stozher.ChainedApprovals
import Stozher.FoldedActions
import Stozher.Gateway.Windows
import Stozher.Deployment

namespace Stozher

open Library

variable {ext : External}

/-- The refusals that say an approval is missing or is not the right person's. -/
def approvalRefusals : List String :=
  ["gate-authorization-missing", "gate-approver-not-permitted", "gate-self-approval"]

/-- A refusal that says something else. -/
def Elsewhere (e : Error) : Prop :=
  e.code ∉ approvalRefusals

theorem elsewhere {code detail : String} (other : code ∉ approvalRefusals) : Elsewhere (err code detail) :=
  other

namespace Clock

theorem parseTimestamp_elsewhere (text : String) : Refuses Elsewhere (parseTimestamp text) := by
  have bad : Elsewhere (err "encoding-bad-timestamp" (debug text)) := elsewhere (by decide)
  have field : ∀ start stop : Nat, Refuses Elsewhere (do
      let digits := ((Text.octets text).take stop).drop start
      require (digits.all Text.isAsciiDigit) (err "encoding-bad-timestamp" (debug text))
      return (Text.decimalValue digits : Int)) :=
    fun _ _ => refuses_bind (refuses_require bad) fun _ => refuses_pure _
  unfold parseTimestamp
  refine refuses_bind (refuses_require bad) fun _ => refuses_bind (refuses_require bad) fun _ => ?_
  refine refuses_bind (field _ _) fun _ => refuses_bind (field _ _) fun _ => refuses_bind (field _ _) fun _ =>
    refuses_bind (field _ _) fun _ => refuses_bind (field _ _) fun _ => refuses_bind (field _ _) fun _ =>
      refuses_bind (field _ _) fun _ => ?_
  exact refuses_bind (refuses_require bad) fun _ => refuses_bind (refuses_require bad) fun _ => refuses_pure _

end Clock

namespace GateQueue

theorem text_elsewhere (map : Members) (name : String) : Refuses Elsewhere (text map name) := by
  unfold text
  exact refuses_bind (refuses_okOr (elsewhere (by decide))) fun _ => refuses_okOr (elsewhere (by decide))

theorem validate_elsewhere (request : Value) (at_ : String) : Refuses Elsewhere (validate ext request at_) := by
  have read := text_elsewhere
  have dated := Clock.parseTimestamp_elsewhere
  have nonce : ∀ value, Refuses Elsewhere (checkNonce value) := by
    intro value
    unfold checkNonce
    exact refuses_bind (refuses_require (elsewhere (by decide))) fun _ =>
      refuses_require (elsewhere (by decide))
  have key : ∀ value, Refuses Elsewhere (KeyId.parse value) := by
    intro value
    unfold KeyId.parse
    refine refuses_ite (refuses_error (elsewhere (by decide))) ?_
    split
    · exact refuses_ok _
    · exact refuses_error (elsewhere (by decide))
  unfold validate
  refine refuses_bind (refuses_okOr (elsewhere (by decide))) fun map => ?_
  refine refuses_bind (refuses_forEach (fun _ => refuses_require (elsewhere (by decide))) _) fun _ => ?_
  refine refuses_bind (read _ _) fun _ => refuses_bind (refuses_require (elsewhere (by decide))) fun _ => ?_
  refine refuses_bind (read _ _) fun _ => refuses_bind (refuses_require (elsewhere (by decide))) fun _ => ?_
  refine refuses_bind (read _ _) fun _ => refuses_bind (refuses_require (elsewhere (by decide))) fun _ => ?_
  refine refuses_bind (read _ _) fun _ => refuses_bind (key _) fun _ => ?_
  refine refuses_bind (read _ _) fun _ => refuses_bind (refuses_require (elsewhere (by decide))) fun _ => ?_
  refine refuses_bind (read _ _) fun _ => refuses_bind (read _ _) fun _ => ?_
  refine refuses_bind (refuses_forEach (fun _ => refuses_require (elsewhere (by decide))) _) fun _ => ?_
  refine refuses_bind (read _ _) fun _ => refuses_bind (nonce _) fun _ => ?_
  refine refuses_bind (read _ _) fun _ => refuses_bind (read _ _) fun _ => ?_
  refine refuses_bind (read _ _) fun _ => refuses_bind (read _ _) fun _ => ?_
  refine refuses_bind (refuses_forEach (fun _ => refuses_require (elsewhere (by decide))) _) fun _ => ?_
  refine refuses_bind (read _ _) fun _ => refuses_bind (read _ _) fun _ => ?_
  refine refuses_bind (dated _) fun _ => refuses_bind (dated _) fun _ => ?_
  refine refuses_bind (refuses_require (elsewhere (by decide))) fun _ => ?_
  refine refuses_bind (refuses_require (elsewhere (by decide))) fun _ => ?_
  exact refuses_bind (Jcs.objectHash_refuses ext (elsewhere (by decide)) _) fun _ => refuses_pure _

theorem validateEmbedded_elsewhere (authorization : Value) :
    Refuses Elsewhere (validateEmbedded ext authorization) := by
  have decision : ∀ value, Refuses Elsewhere (validateEmbeddedDecision value) := by
    intro value
    unfold validateEmbeddedDecision
    refine refuses_bind (refuses_okOr (elsewhere (by decide))) fun map => ?_
    refine refuses_bind (refuses_forEach (fun _ => refuses_require (elsewhere (by decide))) _) fun _ => ?_
    refine refuses_bind (refuses_require (elsewhere (by decide))) fun _ => ?_
    refine refuses_bind (refuses_require (elsewhere (by decide))) fun _ => ?_
    refine refuses_bind (refuses_forEach (fun _ => refuses_bind (refuses_okOr (elsewhere (by decide)))
      fun _ => refuses_require (elsewhere (by decide))) _) fun _ => ?_
    refine refuses_bind (refuses_require (elsewhere (by decide))) fun _ => ?_
    refine refuses_bind (Clock.parseTimestamp_elsewhere _) fun _ => ?_
    exact refuses_bind (Clock.parseTimestamp_elsewhere _) fun _ => refuses_pure _
  unfold validateEmbedded
  refine refuses_bind (refuses_okOr (elsewhere (by decide))) fun request => ?_
  refine refuses_bind (refuses_okOr (elsewhere (by decide))) fun _ => ?_
  refine refuses_bind (refuses_forEach (fun _ => refuses_require (elsewhere (by decide))) _) fun _ => ?_
  refine refuses_bind (refuses_okOr (elsewhere (by decide))) fun requestedAt => ?_
  exact refuses_bind (validate_elsewhere request requestedAt) fun _ => decision _

end GateQueue

namespace Gate

variable {env authorization request decision : Value} {approvers : List Approver} {seen : List String}

/-- A key listed among the approvers, and first under a name that is not the requester's. -/
def Listed (approvers : List Approver) (key : KeyId) (requester : String) : Prop :=
  ∃ approver, approvers.find? (fun candidate => candidate.key == key) = some approver ∧
    approver.subject ≠ some requester

theorem verifyApprover_iff {key : KeyId} {requesterKey requester : String}
    (hasKey : request.getStr "key" = some requesterKey) (otherKey : key.text ≠ requesterKey)
    (hasSubject : request.getStr "subject" = some requester) :
    verifyApprover request key approvers = .ok () ↔ Listed approvers key requester := by
  unfold verifyApprover Listed
  simp only [bind_eq_ok, okOr_eq_ok, require_eq_ok, hasKey, hasSubject, Option.some.injEq,
    exists_eq_left', exists_const]
  cases found : approvers.find? (fun candidate => candidate.key == key) with
  | none => simp
  | some approver =>
      cases named : approver.subject with
      | none => simp [checkActingAs, named, otherKey]
      | some subject => simp [checkActingAs, named, otherKey, require_eq_ok]

theorem verifyApprover_refuses {key : KeyId} {requesterKey : String}
    (hasKey : request.getStr "key" = some requesterKey) :
    Refuses (fun e => e.code ∈ approvalRefusals) (verifyApprover request key approvers) := by
  have about : ∀ code detail, code ∈ approvalRefusals → (err code detail).code ∈ approvalRefusals :=
    fun _ _ listed => listed
  unfold verifyApprover
  rw [hasKey]
  refine refuses_bind (refuses_ok _) fun _ => ?_
  refine refuses_bind (refuses_require (about _ _ (by decide))) fun _ => ?_
  refine refuses_bind ?_ fun _ => refuses_require (about _ _ (by decide))
  unfold checkActingAs
  split
  · exact refuses_require (about _ _ (by decide))
  · exact refuses_ok _

theorem verifyWindow_elsewhere : Refuses Elsewhere (verifyWindow env request decision) := by
  unfold verifyWindow
  refine refuses_bind (refuses_okOr (elsewhere (by decide))) fun _ => ?_
  refine refuses_bind (refuses_okOr (elsewhere (by decide))) fun _ => ?_
  refine refuses_bind (refuses_okOr (elsewhere (by decide))) fun _ => ?_
  refine refuses_bind (refuses_okOr (elsewhere (by decide))) fun _ => ?_
  refine refuses_bind (refuses_forEach (fun _ => refuses_require (elsewhere (by decide))) _) fun _ => ?_
  refine refuses_bind (refuses_require (elsewhere (by decide))) fun _ => ?_
  exact refuses_require (elsewhere (by decide))

theorem get_of_isObject {value : Value} {name : String} (object : (value.index name).isObject = true) :
    value.get name = some (value.index name) := by
  unfold Value.index at object ⊢
  cases found : value.get name with
  | some member => rfl
  | none =>
      rw [found] at object
      cases object

/-- What is left to check of an approval that was endorsed and that binds what was performed. -/
theorem verifyAuthorization_endorsed {others : List Approver} {ok : AuthorizationOk} {requiresGate : Bool}
    (carried : env.get "authorization" = some authorization)
    (endorsed : Gateway.Endorsed ext others (authorization.index "request") (authorization.index "decision") ok)
    (binds : ∀ entry ∈ bound, checkBound (authorization.index "request") env entry = .ok ()) :
    verifyAuthorization ext env requiresGate approvers seen = (do
      verifyApprover (authorization.index "request") ok.decidedBy approvers
      verifyWindow env (authorization.index "request") (authorization.index "decision")
      require (singleUse (authorization.index "decision") = true → ok.requestHash ∉ seen)
        (err "gate-authorization-replayed" s!"request {ok.requestHash} was already used")
      return some { ok with singleUse := singleUse (authorization.index "decision") }) := by
  have decided : verifyDecision ext (authorization.index "request") (authorization.index "decision") =
      .ok (ok.requestHash, ok.decidedBy) := by
    unfold verifyDecision
    simp only [bind_eq_ok, okOr_eq_ok, require_eq_ok, mapError_eq_ok, pure_eq_ok]
    exact ⟨_, endorsed.hashed, _, endorsed.covers, (), rfl, _, endorsed.signed, rfl⟩
  have verdict : verifyVerdict (authorization.index "decision") ok.decidedBy = .ok () := by
    unfold verifyVerdict
    rw [endorsed.approves]
    rfl
  have bound_ : forEach (checkBound (authorization.index "request") env) bound = .ok () :=
    forEach_eq_ok.mpr binds
  unfold verifyAuthorization
  rw [carried]
  dsimp only
  rw [get_of_isObject endorsed.objects.1, get_of_isObject endorsed.objects.2]
  unfold okOr
  dsimp only
  rw [ok_bind, ok_bind, decided, ok_bind]
  dsimp only
  rw [verdict, bound_]
  rfl

/-- The window of the kernel, past what an endorsed approval already is. -/
theorem verifyWindow_iff {others : List Approver} {ok : AuthorizationOk} {now : String}
    (endorsed : Gateway.Endorsed ext others request decision ok)
    (emittedAt : env.getStr "emitted-at" = some now) :
    verifyWindow env request decision = .ok () ↔ Gateway.Within decision now := by
  obtain ⟨decidedAt, notAfter, requestNotAfter, hasDecided, hasNotAfter, hasRequest, isDecided, isNotAfter,
    isRequest, early⟩ := endorsed.inTime
  unfold verifyWindow Gateway.Within
  simp only [bind_eq_ok, okOr_eq_ok, forEach_eq_ok, require_eq_ok, List.forall_mem_cons, hasDecided,
    hasNotAfter, hasRequest, emittedAt, Option.some.injEq, exists_eq_left', isDecided, isNotAfter, isRequest,
    early, List.not_mem_nil, false_implies, implies_true, and_true, true_and, exists_const, exists_and_left]

end Gate

namespace Ingest

variable {store : Store} {env : Value} {policy : Policy} {effective : String} {plan : AppendPlan}

/-- What the policy decides of an envelope's action, judged as of a class. -/
def decisionOf (policy : Policy) (effective : String) (env : Value) : Decision :=
  policy.decisionFor effective (((execution env).getStr "action").getD "")

/-- The gate rule neither refuses an envelope for want of the right approval nor flags it as denied. -/
structure Upheld (ext : External) (store : Store) (env : Value) (policy : Policy) (effective : String)
    (plan : AppendPlan) : Prop where
  unrefused : ∀ e, gateEffect ext store env policy effective plan = .error e → e.code ∉ approvalRefusals
  unflagged : ∀ next, gateEffect ext store env policy effective plan = .ok next →
    next.policyViolation = some "policy-denied-applied" → plan.policyViolation = some "policy-denied-applied"

theorem nameSpender_code {spent : Option (String × String)} {e : Error} : (nameSpender spent e).code = e.code := by
  unfold nameSpender
  split
  · split <;> rfl
  · rfl

theorem applyGate_applied {next : AppendPlan} {verified : Result (Option Gate.AuthorizationOk)} :
    applyGate env true plan verified = .ok next → next.policyViolation = plan.policyViolation := by
  intro passed
  unfold applyGate at passed
  split at passed
  · cases passed
    rfl
  · cases passed
    rfl
  · simp at passed

theorem applyGate_refuses {e : Error} {verified : Result (Option Gate.AuthorizationOk)} :
    applyGate env true plan verified = .error e ↔ verified = .error e := by
  unfold applyGate
  split <;> simp

theorem applyGate_isOk {verified : Result (Option Gate.AuthorizationOk)} :
    isOk (applyGate env true plan verified) = isOk verified := by
  unfold applyGate
  split <;> simp

theorem flagDenied_violation {decision : Decision} (applied : isApplied env = true) :
    ((flagDenied env decision plan).policyViolation = some "policy-denied-applied" →
      plan.policyViolation = some "policy-denied-applied") ↔ (decision = .deny → plan.policyViolation ≠ none) := by
  unfold flagDenied flagViolation
  by_cases denies : decision = .deny
  · rw [if_pos ⟨denies, applied⟩]
    cases plan.policyViolation <;> simp [denies]
  · rw [if_neg fun both => denies both.1]
    simp [denies]

/-- An envelope of the right shape is upheld where its authorization is not refused for want of the right
approval, and is not verified for a denied action. -/
theorem upheld_iff (applied : isApplied env = true)
    (shaped : Envelope.whenPresent (env.get "authorization") (GateQueue.validateEmbedded ext) = .ok ()) :
    Upheld ext store env policy effective plan ↔
      Refuses Elsewhere (authorize ext store env (decisionOf policy effective env) (spentBy store env plan.id)) ∧
      (isOk (authorize ext store env (decisionOf policy effective env) (spentBy store env plan.id)) = true →
        decisionOf policy effective env = .deny → plan.policyViolation ≠ none) := by
  have gated : gateEffect ext store env policy effective plan = applyGate env true
      (flagDenied env (decisionOf policy effective env) plan)
      ((authorize ext store env (decisionOf policy effective env) (spentBy store env plan.id)).mapError
        (nameSpender (spentBy store env plan.id))) := by
    unfold gateEffect decisionOf
    rw [shaped, applied]
    rfl
  have flag : ((flagDenied env (decisionOf policy effective env) plan).policyViolation =
      some "policy-denied-applied" → plan.policyViolation = some "policy-denied-applied") ↔
        (decisionOf policy effective env = .deny → plan.policyViolation ≠ none) := flagDenied_violation applied
  generalize authorize ext store env _ _ = verified at gated ⊢
  constructor
  · intro upheld
    constructor
    · intro e refused
      have other := upheld.unrefused (nameSpender (spentBy store env plan.id) e) (by
        rw [gated, applyGate_refuses, refused]
        rfl)
      rwa [nameSpender_code] at other
    · intro passed
      apply flag.mp
      obtain ⟨ok, verified_⟩ := isOk_iff.mp passed
      have through : isOk (gateEffect ext store env policy effective plan) = true := by
        rw [gated, applyGate_isOk, verified_]
        rfl
      obtain ⟨next, done⟩ := isOk_iff.mp through
      have same := applyGate_applied (gated.symm.trans done)
      have unflagged := upheld.unflagged next done
      rwa [same] at unflagged
  · intro ⟨elsewhere_, unflagged⟩
    constructor
    · intro e refused
      rw [gated, applyGate_refuses] at refused
      cases verified with
      | ok ok => cases refused
      | error other =>
          cases refused
          rw [nameSpender_code]
          exact elsewhere_ other rfl
    · intro next done
      have same := applyGate_applied (gated.symm.trans done)
      rw [same]
      apply flag.mpr
      apply unflagged
      have through : isOk (gateEffect ext store env policy effective plan) = true := by
        rw [done]
        rfl
      rw [gated, applyGate_isOk] at through
      cases verified with
      | ok ok => rfl
      | error e => cases through

/-- An approval of the wrong shape is refused for that. -/
theorem upheld_of_misshapen {e : Error}
    (misshapen : Envelope.whenPresent (env.get "authorization") (GateQueue.validateEmbedded ext) = .error e) :
    Upheld ext store env policy effective plan := by
  have gated : gateEffect ext store env policy effective plan = .error e := by
    unfold gateEffect
    rw [misshapen]
    rfl
  constructor
  · intro other refused
    cases gated.symm.trans refused
    cases carried : env.get "authorization" with
    | none =>
        rw [carried] at misshapen
        cases misshapen
    | some authorization =>
        rw [carried] at misshapen
        exact GateQueue.validateEmbedded_elsewhere authorization e misshapen
  · intro next done
    rw [gated] at done
    cases done

/-- The kernel's rule backs what the envelope says was let through. Without an approval the rule for the
kernel's class and the recorded action allows it, and no root has to. With one the rule does not deny it,
and the kernel lists the signer, first under another name than the requester's. -/
def Backed (ext : External) (store : Store) (env : Value) (decision : Decision) (plan : AppendPlan) : Prop :=
  let action := ((execution env).getStr "action").getD ""
  let emittedAt := (env.getStr "emitted-at").getD ""
  match env.get "authorization" with
  | none => action ∉ rootApprovedActions ∧
      (decision = .allow ∨ decision = .deny ∧ plan.policyViolation ≠ none)
  | some authorization =>
      isOk (GateQueue.validateEmbedded ext authorization) = false ∨
      (∃ key requester, Signed.verifySignedObject ext (authorization.index "decision") = .ok key ∧
        (env.index "identity").getStr "subject" = some requester ∧
        Gate.Listed (approversOf store env decision emittedAt action) key requester) ∧
      (decision = .deny → plan.policyViolation ≠ none ∨
        ¬ Gateway.Within (authorization.index "decision") emittedAt)

theorem needsRoot_eq (kind : env.getStr "kind" ≠ some "policy-change") :
    needsRoot env = rootApprovedActions.contains (((execution env).getStr "action").getD "") := by
  unfold needsRoot
  have other : (env.getStr "kind" == some "policy-change") = false := beq_eq_false_iff_ne.mpr kind
  rw [other, Bool.or_false]

theorem upheld_open_iff (applied : isApplied env = true) (kind : env.getStr "kind" ≠ some "policy-change")
    (open_ : env.get "authorization" = none) :
    Upheld ext store env policy effective plan ↔
      Backed ext store env (decisionOf policy effective env) plan := by
  have shaped : Envelope.whenPresent (env.get "authorization") (GateQueue.validateEmbedded ext) = .ok () := by
    rw [open_]
    rfl
  have authorized : ∀ decision spent, authorize ext store env decision spent =
      if requiresGate decision (needsRoot env) true = false then .ok none
      else .error (err "gate-authorization-missing" "a gated action carries no approval signature") := by
    intro decision spent
    unfold authorize Gate.verifyAuthorization require
    rw [open_, applied]
    dsimp only
    split <;> rfl
  rw [upheld_iff applied shaped, authorized]
  unfold Backed
  rw [open_]
  dsimp only
  have unlisted : needsRoot env = false ↔
      ((execution env).getStr "action").getD "" ∉ rootApprovedActions := by
    rw [needsRoot_eq kind, List.contains_eq_mem, decide_eq_false_iff_not]
  have missing : ¬ Elsewhere
      (err "gate-authorization-missing" "a gated action carries no approval signature") :=
    fun other => other (by decide)
  rw [← unlisted]
  generalize decisionOf policy effective env = decision
  by_cases required : requiresGate decision (needsRoot env) true = false
  · rw [if_pos required]
    cases decision with
    | allow => simpa [requiresGate, refuses_ok] using required
    | gate approvers => simp [requiresGate] at required
    | deny =>
        have rootless : needsRoot env = false := by simpa [requiresGate] using required
        simp [refuses_ok, rootless]
  · rw [if_neg required]
    constructor
    · intro ⟨elsewhere_, _⟩
      exact absurd (elsewhere_ _ rfl) missing
    · intro ⟨rootless, decided⟩
      apply absurd _ required
      rcases decided with rfl | ⟨rfl, _⟩
      · rw [rootless]
        rfl
      · rw [rootless]
        rfl

theorem upheld_approved_iff {authorization : Value} {others : List Gate.Approver} {ok : Gate.AuthorizationOk}
    {requester now : String} (applied : isApplied env = true)
    (carried : env.get "authorization" = some authorization)
    (endorsed : Gateway.Endorsed ext others (authorization.index "request") (authorization.index "decision") ok)
    (binds : ∀ entry ∈ Gate.bound, Gate.checkBound (authorization.index "request") env entry = .ok ())
    (requested : (authorization.index "request").getStr "subject" = some requester)
    (performed : (env.index "identity").getStr "subject" = some requester)
    (emittedAt : env.getStr "emitted-at" = some now) (unspent : spentBy store env plan.id = none) :
    Upheld ext store env policy effective plan ↔
      Backed ext store env (decisionOf policy effective env) plan := by
  cases shape : GateQueue.validateEmbedded ext authorization with
  | error e =>
      have misshapen : Envelope.whenPresent (env.get "authorization") (GateQueue.validateEmbedded ext) =
          .error e := by
        rw [carried]
        exact shape
      refine iff_of_true (upheld_of_misshapen misshapen) ?_
      unfold Backed
      rw [carried]
      dsimp only
      rw [shape]
      exact Or.inl rfl
  | ok u =>
      have shaped : Envelope.whenPresent (env.get "authorization") (GateQueue.validateEmbedded ext) =
          .ok () := by
        rw [carried]
        exact shape
      obtain ⟨requesterKey, hasKey, otherKey⟩ := endorsed.requester
      rw [upheld_iff applied shaped]
      unfold Backed
      rw [carried, unspent]
      dsimp only
      rw [shape, isOk_ok, performed, emittedAt, Option.getD_some]
      have authorized : authorize ext store env (decisionOf policy effective env) none = (do
          Gate.verifyApprover (authorization.index "request") ok.decidedBy
            (approversOf store env (decisionOf policy effective env) now
              (((execution env).getStr "action").getD ""))
          Gate.verifyWindow env (authorization.index "request") (authorization.index "decision")
          require (Gate.singleUse (authorization.index "decision") = true → ok.requestHash ∉ [])
            (err "gate-authorization-replayed" s!"request {ok.requestHash} was already used")
          return some { ok with singleUse := Gate.singleUse (authorization.index "decision") }) := by
        unfold authorize
        dsimp only
        rw [emittedAt, Option.getD_some]
        exact Gate.verifyAuthorization_endorsed carried endorsed binds
      rw [authorized]
      generalize approversOf store env (decisionOf policy effective env) now _ = approvers
      have listed : Gate.verifyApprover (authorization.index "request") ok.decidedBy approvers = .ok () ↔
          Gate.Listed approvers ok.decidedBy requester := Gate.verifyApprover_iff hasKey otherKey requested
      have refuses : Refuses (fun e => e.code ∈ approvalRefusals)
          (Gate.verifyApprover (authorization.index "request") ok.decidedBy approvers) :=
        Gate.verifyApprover_refuses hasKey
      have signer : (∃ key other, Signed.verifySignedObject ext (authorization.index "decision") = .ok key ∧
          some requester = some other ∧ Gate.Listed approvers key other) ↔
            Gate.Listed approvers ok.decidedBy requester := by
        rw [endorsed.signed]
        simp only [Except.ok.injEq, Option.some.injEq, exists_and_left, exists_eq_left']
      rw [signer, ← listed]
      cases permitted : Gate.verifyApprover (authorization.index "request") ok.decidedBy approvers with
      | error e =>
          have about := refuses e permitted
          rw [error_bind]
          constructor
          · intro ⟨elsewhere_, _⟩
            exact absurd about (elsewhere_ e rfl)
          · intro backed
            rcases backed with shapeless | ⟨absent, _⟩
            · cases shapeless
            · cases absent
      | ok u =>
          rw [ok_bind, ← Gate.verifyWindow_iff endorsed emittedAt]
          have replay : require (Gate.singleUse (authorization.index "decision") = true →
              ok.requestHash ∉ ([] : List String))
              (err "gate-authorization-replayed" s!"request {ok.requestHash} was already used") = .ok () :=
            if_pos fun _ => List.not_mem_nil
          rw [replay]
          cases window : Gate.verifyWindow env (authorization.index "request")
              (authorization.index "decision") with
          | error e =>
              have other : Elsewhere e := Gate.verifyWindow_elsewhere e window
              simp [refuses_error other]
          | ok u =>
              simp [refuses_ok]

end Ingest

namespace Gateway

variable {checkShape : Value → Result Unit} {config : GatewayConfig} {classifier : Classifier}

/-- The envelope that records a call which was let through under a policy: its own, or the one of the
window it was folded into. -/
inductive Records (ext : External) (config : GatewayConfig) (document : Value) : Task → Value → Prop
  | effect {work : Work} {authorization : Option Value} {startedAt intent now : String} {body : Members}
      {payloads : List Value} {env : Value} (under : work.policy.document = document)
      (written : effectBody ext config work "applied" authorization (some startedAt) now =
        .ok (body, payloads)) (carries : Carries env body) :
      Records ext config document (.forwarding work authorization startedAt intent) env
  | window {work : Work} {startedAt openedAt now : String} {maxSamples : Nat}
      {reads : List (String × String × String)} {env : Value} (under : work.policy.document = document)
      (isRead : work.classification.classification = "read")
      (counted : ∃ at_, (work.classification.action, work.argsHash, at_) ∈ reads)
      (carries : Carries env (windowBody config work.session.subject
        (reads.foldl Window.add (.opened work.session work.policy.version openedAt maxSamples)) now)) :
      Records ext config document (.folding work startedAt) env

/-- A rule that neither denies nor gates allows. -/
theorem allows_of_allowed {document : Value} (checked : Stozher.Policy.Checked document) {class_ : String}
    (allowed : (Policy.decisionFor { document } class_).kind ∉ ["deny", "gate"]) :
    (Policy.decisionFor { document } class_).kind = "allow" := by
  have valid := checked.gateRules
  unfold Stozher.Policy.validateGateRules at valid
  simp only [bind_eq_ok, okOr_eq_ok, forEach_eq_ok] at valid
  obtain ⟨rules, isRules, each⟩ := valid
  unfold Policy.decisionFor at allowed ⊢
  rw [isRules, Option.getD_some] at allowed ⊢
  cases found : rules.find? (Policy.ruleApplies class_ "*") with
  | none =>
      rw [found] at allowed
      exact absurd (List.mem_cons_self) allowed
  | some rule =>
      rw [found] at allowed
      have ruled := each rule (List.mem_of_find?_eq_some found)
      unfold Stozher.Policy.validateGateRule Stozher.Policy.validateRuleDecision at ruled
      simp only [bind_eq_ok, okOr_eq_ok] at ruled
      obtain ⟨map, object, _, _, _, _, classes, _, _, _, ruled⟩ := ruled
      dsimp only at allowed ⊢
      rw [Stozher.Policy.get_of_asObject object] at allowed ⊢
      have text : ∀ answer, (map.get "decision").bind Value.asStr = some answer →
          ((map.get "decision").map str).getD "deny" = answer := by
        intro answer isAnswer
        obtain ⟨value, present, isText⟩ := Option.bind_eq_some_iff.mp isAnswer
        rw [present, Option.map_some, Option.getD_some]
        unfold str
        rw [isText, Option.getD_some]
      split at ruled
      · rename_i answer
        rcases answer with allow | deny
        · exact text "allow" allow
        · rw [text "deny" deny] at allowed
          exact absurd (by decide) allowed
      · split at ruled
        · rename_i gate
          rw [text "gate" gate] at allowed
          exact absurd (by decide) allowed
        · cases ruled

/-- What the gateway let through without an approval its own reading of the rules allows, and whatever it
let through the kernel's gate rule upholds exactly where its own reading backs it. -/
theorem let_through_upheld_iff {enforcer : Enforcer}
    (reached : (enforcement ext checkShape config classifier).Reachable enforcer) {task : Task}
    (pending : task ∈ enforcer.tasks) {document : Value} {policyKey : KeyId} {policy : Stozher.Policy}
    (parsed : Stozher.Policy.parse ext document policyKey = .ok policy) {env : Value}
    (records : Records ext config document task env) {store : Store} {effective : String}
    {plan : AppendPlan} (unspent : Ingest.spentBy store env plan.id = none) :
    (env.get "authorization" = none →
      (Policy.decisionFor { document } ((env.getStr "classification").getD "")).kind = "allow") ∧
    (Ingest.Upheld ext store env policy effective plan ↔
      Ingest.Backed ext store env (Ingest.decisionOf policy effective env) plan) := by
  obtain ⟨_, actions, rfl, rfl⟩ := reached
  obtain ⟨_, checked⟩ := Stozher.Policy.parse_eq_ok parsed
  have sound : Sound ext config ((enforcement ext checkShape config classifier).run .initial actions) :=
    run_sound actions
  have passed := sound.tasks task pending
  cases records with
  | @effect work authorization startedAt intent now body payloads _ under written carries =>
      subst under
      have spells := effectBody_eq_ok written
      obtain ⟨kind, emittedAt, subject, _, classification, _, _, outcome⟩ := spells.read carries
      have carried : env.get "authorization" = authorization := by
        rw [carries "authorization" (by decide), spells.authorization]
      have applied : Ingest.isApplied env = true := by
        unfold Ingest.isApplied
        rw [outcome]
        rfl
      cases authorization with
      | none =>
          refine ⟨fun _ => ?_, Ingest.upheld_open_iff applied (by rw [kind]; decide) carried⟩
          rw [classification, Option.getD_some]
          exact allows_of_allowed checked passed
      | some given =>
          refine ⟨fun absent => ?_, ?_⟩
          · rw [carried] at absent
            cases absent
          · have granted : Granted ext config work given := passed
            obtain ⟨approvers, ok, _, endorsed⟩ := granted.approved
            refine Ingest.upheld_approved_iff applied carried endorsed ?_ ?_ subject emittedAt unspent
            · intro entry member
              obtain ⟨value, asked, performed⟩ := spells.bound carries granted.binds member
              exact require_eq_ok.mpr (asked.trans performed.symm)
            · exact beq_iff_eq.mp
                (List.all_eq_true.mp granted.binds ("subject", work.session.subject) List.mem_cons_self)
  | @window work startedAt openedAt now maxSamples reads _ under isRead counted carries =>
      subst under
      obtain ⟨kind, _, classification, open_, _⟩ := windowBody_read carries
      have applied : Ingest.isApplied env = true := by
        unfold Ingest.isApplied
        rw [kind]
        simp
      refine ⟨fun _ => ?_, Ingest.upheld_open_iff applied (by rw [kind]; decide) open_⟩
      have allowed : Allowed work := passed
      unfold Allowed at allowed
      rw [isRead] at allowed
      rw [classification, Option.getD_some]
      exact allows_of_allowed checked allowed

end Gateway

end Stozher

namespace Stozher.Deployment

open Library Ingest Gateway

/-- The request to star, as the gateway works on it. -/
def starWork : Work where
  session := opsSession
  call := toolCall "star"
  classification := {
    action := "github.star", classification := "benign", tier := .shipped, proposed := "benign"
    policyNamed := true }
  target := "mcp:github"
  argsHash := noArguments.digest
  policy := inForce

/-- A call the rules allow goes on its way. -/
theorem call_forwards {enforcer : Enforcer} {classifier : Classifier} {session : Session} {call : Call}
    {policy : Gateway.Policy} {classification : Classification} {argsHash : String}
    (hashed : Jcs.objectHash ext call.arguments = .ok argsHash)
    (classified : Gateway.classify policy { classifier with orgSeeded := enforcer.store.catalogEntry }
      session.subject call = classification)
    (lighter : classification.classification ≠ "prohibited")
    (allows : (policy.decisionFor classification.classification).kind = "allow")
    (known : (!classification.known && !classification.policyNamed) = false) :
    enforcer.call ext gatewayConfig classifier session call policy true = enforcer.push (.forward {
      session, call, classification, target := Gateway.target call, argsHash, policy } none) := by
  subst classified
  have open_ : ¬ ((policy.decisionFor (Gateway.classify policy { classifier with
      orgSeeded := enforcer.store.catalogEntry } session.subject call).classification).kind = "gate" ∨
        (!(Gateway.classify policy { classifier with orgSeeded := enforcer.store.catalogEntry }
          session.subject call).known && !(Gateway.classify policy { classifier with
          orgSeeded := enforcer.store.catalogEntry } session.subject call).policyNamed) = true) := by
    rw [allows, known]
    decide
  unfold Enforcer.call
  rw [hashed]
  dsimp only
  rw [if_neg lighter, if_neg (by rw [allows]; decide), if_neg open_]

theorem call_star :
    (holding [] []).call ext gatewayConfig (tiers []) opsSession (toolCall "star") inForce true =
      holding [] [.forward starWork none] := by
  have hashed : Jcs.objectHash ext (toolCall "star").arguments = .ok noArguments.digest := by decide +kernel
  have classified : Gateway.classify inForce (tiers []) opsSession.subject (toolCall "star") =
      starWork.classification := by decide +kernel
  have allows : (inForce.decisionFor starWork.classification.classification).kind = "allow" := by
    decide +kernel
  have called := @call_forwards (holding [] []) (tiers []) _ _ _ _ _ hashed classified
    (by decide) allows rfl
  exact called

theorem star_written (outcome : String) (isOutcome : outcome ∈ ["attempted", "applied"]) :
    ∃ body payloads, effectBody ext gatewayConfig starWork outcome none (some nine) nine =
      .ok (body, payloads) := by
  have written : ∀ outcome ∈ ["attempted", "applied"],
      isOk (effectBody ext gatewayConfig starWork outcome none (some nine) nine) = true := by decide +kernel
  obtain ⟨⟨body, payloads⟩, done⟩ := isOk_iff.mp (written outcome isOutcome)
  exact ⟨body, payloads, done⟩

/-- The gateway lets the star through, without an approval. -/
theorem star_under_way :
    ∃ enforcer, (enforcement ext shapeless gatewayConfig (tiers [])).Reachable enforcer ∧
      .forwarding starWork none nine (readAt nine).fresh ∈ enforcer.tasks := by
  refine ⟨_, ⟨.initial, [.call opsSession (toolCall "star") inForce true, .perform 0 (readAt nine)], rfl, rfl⟩, ?_⟩
  have start : Enforcer.initial = holding [] [] := rfl
  have called : (enforcement ext shapeless gatewayConfig (tiers [])).step (holding [] [])
      (.call opsSession (toolCall "star") inForce true) = holding [] [.forward starWork none] := call_star
  have performed : (enforcement ext shapeless gatewayConfig (tiers [])).step
      (holding [] [.forward starWork none]) (.perform 0 (readAt nine)) =
        (holding [] []).forward ext gatewayConfig starWork none (readAt nine) := rfl
  rw [System.run_cons, System.run_cons, System.run_nil, start, called, performed]
  obtain ⟨body, payloads, written⟩ := star_written "attempted" (by decide)
  unfold Enforcer.forward
  rw [if_neg (by decide)]
  dsimp only [readAt] at written ⊢
  rw [written]
  exact List.mem_cons_self

/-- The envelope that records the star, and what the kernel's policy makes of it. -/
theorem star_recorded :
    ∃ env policy, Records ext gatewayConfig Deployment.policy.document
        (.forwarding starWork none nine (readAt nine).fresh) env ∧
      Policy.parse ext Deployment.policy.document orgId = .ok policy ∧
      isApplied env = true ∧ env.getStr "kind" = some "effect" ∧ env.get "authorization" = none ∧
      policy.classify {
        subject := "agent:ops", action := "github.star", resource := "mcp:github", manifestClass := none } =
          "benign" ∧ decisionOf policy "benign" env = .gate ["human:ana"] := by
  obtain ⟨body, payloads, written⟩ := star_written "applied" (by decide)
  have carries : Carries (.object body) body := fun _ _ => rfl
  have spells := effectBody_eq_ok written
  obtain ⟨kind, _, _, _, _, action, _, outcome⟩ := spells.read carries
  have parsed : (Policy.parse ext Deployment.policy.document orgId).toOption.map (fun policy =>
      (policy.classify {
        subject := "agent:ops", action := "github.star", resource := "mcp:github", manifestClass := none },
        policy.decisionFor "benign" "github.star")) = some ("benign", .gate ["human:ana"]) := by decide +kernel
  cases result : Policy.parse ext Deployment.policy.document orgId with
  | error e =>
      rw [result] at parsed
      cases parsed
  | ok policy =>
      rw [result] at parsed
      have parts := Option.some.inj parsed
      rw [Prod.mk.injEq] at parts
      refine ⟨.object body, policy, .effect rfl written carries, rfl, ?_, kind, ?_, parts.1, ?_⟩
      · unfold isApplied
        rw [outcome]
        rfl
      · rw [carries "authorization" (by decide), spells.authorization]
      · unfold decisionOf
        rw [action]
        exact parts.2

theorem star_upheld_iff :
    ∃ env policy, (env.get "authorization" = none →
        (Gateway.Policy.decisionFor { document := Deployment.policy.document }
          ((env.getStr "classification").getD "")).kind = "allow") ∧
      (Upheld ext .empty env policy "benign" (initialPlan env "" { tree := env } nine) ↔
        Backed ext .empty env (decisionOf policy "benign" env) (initialPlan env "" { tree := env } nine)) := by
  obtain ⟨enforcer, reached, pending⟩ := star_under_way
  obtain ⟨env, policy, records, parsed, _, _, open_, _⟩ := star_recorded
  refine ⟨env, policy, let_through_upheld_iff reached pending parsed records ?_⟩
  unfold spentBy Value.index
  rw [open_]
  rfl

/-- The gateway forwards a benign action by a rule narrowed to another one, and the kernel's gate refuses
its record whatever else is on record. -/
theorem star_not_upheld :
    ∃ enforcer task env policy, (enforcement ext shapeless gatewayConfig (tiers [])).Reachable enforcer ∧
      task ∈ enforcer.tasks ∧ Records ext gatewayConfig Deployment.policy.document task env ∧
      Policy.parse ext Deployment.policy.document orgId = .ok policy ∧
      policy.classify {
        subject := "agent:ops", action := "github.star", resource := "mcp:github", manifestClass := none } =
          "benign" ∧ ∀ store plan, ¬ Upheld ext store env policy "benign" plan := by
  obtain ⟨enforcer, reached, pending⟩ := star_under_way
  obtain ⟨env, policy, records, parsed, applied, kind, open_, class_, decided⟩ := star_recorded
  refine ⟨enforcer, _, env, policy, reached, pending, records, parsed, class_, ?_⟩
  intro store plan upheld
  have backed := (upheld_open_iff applied (by rw [kind]; decide) open_).mp upheld
  unfold Backed at backed
  rw [open_, decided] at backed
  rcases backed.2 with allows | ⟨denies, _⟩
  · cases allows
  · cases denies

end Stozher.Deployment
