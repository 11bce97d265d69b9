import Stozher.Gateway.Approval
import Stozher.Gateway.Envelopes
import Stozher.Deployment

namespace Stozher.Gateway

open Library

variable {ext : External} {checkShape : Value → Result Unit} {config : GatewayConfig}
  {classifier : Classifier}

/-- A list of approvers this component comes to for a gate rule or for a first call. -/
def Resolves (config : GatewayConfig) (approvers : List Gate.Approver) : Prop :=
  approvers = config.rootApprovers ∨ ∃ subjects, approvers = config.approvers subjects

/-- The steps of the authorization algorithm hold of an envelope at its own instant, for approvers this
component resolves. -/
def Verified (ext : External) (config : GatewayConfig) (envelope : Value) : Prop :=
  ∃ approvers ok, Resolves config approvers ∧
    verifyAuthorization ext envelope true approvers [] none = .ok (some ok)

def approves (authorization : Value) : Prop :=
  (authorization.index "decision").getStr "decision" = some "approve"

/-- An approval, by someone this component resolves, of what a request says. -/
def Approved (ext : External) (config : GatewayConfig) (request decision : Value) : Prop :=
  ∃ approvers ok, Resolves config approvers ∧ Endorsed ext approvers request decision ok

/-- An approval of this very call. -/
structure Granted (ext : External) (config : GatewayConfig) (work : Work) (authorization : Value) :
    Prop where
  approved : Approved ext config (authorization.index "request") (authorization.index "decision")
  binds : Local.describes (work.ask config).fields (authorization.index "request") = true

/-- Past the window and the members an approval binds, an approved request leaves nothing to check. -/
theorem verified_iff {envelope request decision : Value} {now : String}
    (isRequest : (envelope.index "authorization").index "request" = request)
    (isDecision : (envelope.index "authorization").index "decision" = decision)
    (emittedAt : envelope.index "emitted-at" = .string now)
    (approved : Approved ext config request decision) :
    Verified ext config envelope ↔
      Within decision now ∧ Gate.bound.all (agrees request envelope) = true := by
  constructor
  · intro ⟨approvers, ok, _, passed⟩
    obtain ⟨_, ⟨when_, isWhen, within_⟩, bound, _⟩ :=
      (verifyAuthorization_some isRequest isDecision).mp passed
    have same : some now = some when_ := by
      rw [← isWhen, Option.map_none, Option.getD_none, emittedAt]
      rfl
    cases same
    exact ⟨within_, bound⟩
  · intro ⟨within_, bound⟩
    obtain ⟨approvers, ok, resolves, endorsed⟩ := approved
    refine ⟨approvers, ok, resolves, (verifyAuthorization_some isRequest isDecision).mpr
      ⟨endorsed, ⟨now, ?_, within_⟩, bound, by simp⟩⟩
    rw [Option.map_none, Option.getD_none, emittedAt]
    rfl

theorem same_string {value : Value} {text : String} :
    value.same (.string text) = true ↔ value = .string text := by
  cases value <;> simp [Value.same]

theorem index_of_getStr {value : Value} {name text : String} (named : value.getStr name = some text) :
    value.index name = .string text := by
  rw [← Value.index_asStr] at named
  exact Value.asStr_eq_some named

theorem foldl_index_of_performedAt {envelope : Value} {path : List String} {text : String}
    (performed : Gate.performedAt envelope path = some text) :
    path.foldl Value.index envelope = .string text := by
  have walks : ∀ (path : List String) (cursor : Option Value) (value : Value),
      path.foldl (fun cursor key => cursor.bind (·.get key)) cursor = some value →
        path.foldl Value.index (cursor.getD .null) = value := by
    intro path
    induction path with
    | nil =>
        intro cursor value found
        rw [List.foldl_nil] at found ⊢
        rw [found, Option.getD_some]
    | cons name rest ih =>
        intro cursor value found
        rw [List.foldl_cons] at found ⊢
        have next := ih _ _ found
        cases cursor with
        | none => exact next
        | some inner => exact next
  unfold Gate.performedAt at performed
  obtain ⟨value, found, isText⟩ := Option.bind_eq_some_iff.mp performed
  have reached := walks path (some envelope) value found
  rw [Option.getD_some] at reached
  rw [reached]
  exact Value.asStr_eq_some isText

/-- An approved call's envelope is verified exactly where it is emitted inside the approval's window. -/
theorem effect_verified_iff {work : Work} {outcome now : String} {authorization : Value} {body : Members}
    {env : Value} (spells : EffectBody config work outcome (some authorization) now body)
    (carries : Carries env body) (granted : Granted ext config work authorization) :
    Verified ext config env ↔ Within (authorization.index "decision") now := by
  have given : env.index "authorization" = authorization := by
    rw [carries.index (by decide), spells.authorization, Option.getD_some]
  have emittedAt : env.index "emitted-at" = .string now := by
    rw [carries.index (by decide), spells.emittedAt, Option.getD_some]
  rw [verified_iff (by rw [given]) (by rw [given]) emittedAt granted.approved]
  refine and_iff_left (List.all_eq_true.mpr ?_)
  intro entry member
  obtain ⟨value, asked, performed⟩ := spells.bound carries granted.binds member
  unfold agrees
  rw [index_of_getStr asked, foldl_index_of_performedAt performed]
  exact same_string.mpr rfl

/-- What the envelope that puts a catalog entry in force says. -/
structure SeedBody (config : GatewayConfig) (session : Session) (policy : Policy) (seed : Seed)
    (decision : Value) (now : String) (body : Members) : Prop where
  emittedAt : body.get "emitted-at" = some (.string now)
  identity : body.get "identity" = some (identity config session)
  mandateRef : body.get "mandate-ref" = some (.string session.mandateRef)
  policyVersion : body.get "policy-version" = some (.string policy.version)
  classification : body.get "classification" = some (seed.request.index "classification")
  execution : ∃ members, body.get "execution" = some (.object members) ∧
    Members.get members "action" = some (seed.request.index "action") ∧
    Members.get members "target" = some (seed.request.index "target") ∧
    Members.get members "args-hash" = some (seed.request.index "args-hash")
  authorization : body.get "authorization" = some (authorizationOf seed.request decision)

theorem seedBody_eq_ok {session : Session} {policy : Policy} {parked : Parked} {seed : Seed}
    {decision : Value} {now : String} {body : Members} {payloads : List Value}
    (written : seedBody ext config session policy parked seed decision now = .ok (body, payloads)) :
    SeedBody config session policy seed decision now body := by
  unfold seedBody at written
  simp only [bind_eq_ok, pure_eq_ok, Prod.mk.injEq] at written
  obtain ⟨_, _, _, _, rfl, rfl⟩ := written
  constructor
  case execution => exact ⟨_, rfl, rfl, rfl, rfl⟩
  all_goals rfl

/-- The seed was asked for by this caller, through this component and under this policy. -/
structure SameCaller (config : GatewayConfig) (session : Session) (policy : Policy) (request : Value) :
    Prop where
  subject : request.getStr "subject" = some session.subject
  key : request.getStr "key" = some session.key.id.text
  component : request.getStr "component" = some config.component
  mandateRef : request.getStr "mandate-ref" = some session.mandateRef
  policyVersion : request.getStr "policy-version" = some policy.version

/-- A value that agrees with itself: what an approval that verified bound. -/
structure SelfAgrees (request : Value) : Prop where
  classification : (request.index "classification").same (request.index "classification") = true
  action : (request.index "action").same (request.index "action") = true
  target : (request.index "target").same (request.index "target") = true
  argsHash : (request.index "args-hash").same (request.index "args-hash") = true

theorem getStr_of_index {value : Value} {name text : String} (named : value.index name = .string text) :
    value.getStr name = some text := by
  rw [← Value.index_asStr, named]
  rfl

/-- An approved seed's envelope is verified exactly where it is emitted inside the approval's window,
by the caller and under the policy the seed was asked for. -/
theorem seed_verified_iff {session : Session} {policy : Policy} {seed : Seed} {decision : Value}
    {now : String} {body : Members} {env : Value}
    (spells : SeedBody config session policy seed decision now body) (carries : Carries env body)
    (approved : Approved ext config seed.request decision) (agrees_ : SelfAgrees seed.request) :
    Verified ext config env ↔ Within decision now ∧ SameCaller config session policy seed.request := by
  have given : env.index "authorization" = authorizationOf seed.request decision := by
    rw [carries.index (by decide), spells.authorization, Option.getD_some]
  have emittedAt : env.index "emitted-at" = .string now := by
    rw [carries.index (by decide), spells.emittedAt, Option.getD_some]
  rw [verified_iff (by rw [given]; rfl) (by rw [given]; rfl) emittedAt approved]
  refine and_congr_right fun _ => ?_
  obtain ⟨members, execution, action, target, argsHash⟩ := spells.execution
  have performed : env.index "execution" = .object members := by
    rw [carries.index (by decide), execution, Option.getD_some]
  have who : env.index "identity" = identity config session := by
    rw [carries.index (by decide), spells.identity, Option.getD_some]
  have mandateRef : env.index "mandate-ref" = .string session.mandateRef := by
    rw [carries.index (by decide), spells.mandateRef, Option.getD_some]
  have policyVersion : env.index "policy-version" = .string policy.version := by
    rw [carries.index (by decide), spells.policyVersion, Option.getD_some]
  have classification : env.index "classification" = seed.request.index "classification" := by
    rw [carries.index (by decide), spells.classification, Option.getD_some]
  have inside : ∀ name value, Members.get members name = some value →
      (Value.object members).index name = value := by
    intro name value found
    unfold Value.index Value.get
    rw [Value.asObject, Option.bind_some, found, Option.getD_some]
  unfold Gate.bound agrees
  simp only [List.all_cons, List.all_nil, List.foldl_cons, List.foldl_nil, Bool.and_true, Bool.and_eq_true,
    who, performed, mandateRef, policyVersion, classification, inside _ _ action, inside _ _ target,
    inside _ _ argsHash, identity_subject, identity_key, identity_component, same_string,
    agrees_.classification, agrees_.action, agrees_.target, agrees_.argsHash]
  constructor
  · rintro ⟨subject, key, component, mandate, version⟩
    exact ⟨getStr_of_index subject, getStr_of_index key, getStr_of_index component,
      getStr_of_index mandate, getStr_of_index version⟩
  · intro same
    exact ⟨index_of_getStr same.subject, index_of_getStr same.key, index_of_getStr same.component,
      index_of_getStr same.mandateRef, index_of_getStr same.policyVersion⟩

/-- A record chained on recovery is the record that was kept, at the instant of the recovery. -/
theorem recoveredBody_effect {work : Work} {outcome at_ now : String} {authorization : Option Value}
    {body : Members} (spells : EffectBody config work outcome authorization at_ body) :
    EffectBody config work outcome authorization now (recoveredBody body now) := by
  obtain ⟨members, execution, action, target, argsHash, isOutcome⟩ := spells.execution
  have kept : ∀ name, name ≠ "execution" → name ≠ "emitted-at" →
      (recoveredBody body now).get name = body.get name := by
    intro name first second
    unfold recoveredBody
    rw [Members.get_insert_of_ne (Ne.symm first), Members.get_insert_of_ne (Ne.symm second)]
  have finished : ∀ name, name ≠ "finished-at" →
      (Members.insert members "finished-at" (.string now)).get name = Members.get members name :=
    fun name other => Members.get_insert_of_ne (Ne.symm other) members _
  constructor
  · rw [kept _ (by decide) (by decide), spells.kind]
  · unfold recoveredBody
    rw [Members.get_insert_of_ne (by decide), Members.get_insert_self]
  · rw [kept _ (by decide) (by decide), spells.identity]
  · rw [kept _ (by decide) (by decide), spells.mandateRef]
  · rw [kept _ (by decide) (by decide), spells.policyVersion]
  · rw [kept _ (by decide) (by decide), spells.classification]
  · refine ⟨Members.insert members "finished-at" (.string now), ?_, ?_, ?_, ?_, ?_⟩
    · unfold recoveredBody
      rw [Members.get_insert_self, execution]
      rfl
    · rw [finished _ (by decide), action]
    · rw [finished _ (by decide), target]
    · rw [finished _ (by decide), argsHash]
    · rw [finished _ (by decide), isOutcome]
  · rw [kept _ (by decide) (by decide), spells.authorization]

theorem index_of_get {value member : Value} {name : String} (found : value.get name = some member) :
    value.index name = member := by
  unfold Value.index
  rw [found, Option.getD_some]

/-- The probe says what the request says. -/
theorem probe_eq_ok {request authorization envelope : Value} {at_ : String}
    (built : probe request authorization at_ = .ok envelope) :
    envelope.index "authorization" = authorization ∧
      envelope.index "classification" = request.index "classification" ∧
      (envelope.index "execution").index "action" = request.index "action" ∧
      (envelope.index "execution").index "target" = request.index "target" ∧
      (envelope.index "execution").index "args-hash" = request.index "args-hash" := by
  unfold probe at built
  simp only [bind_eq_ok, okOr_eq_ok, pure_eq_ok] at built
  obtain ⟨subject, _, key, _, component, _, mandateRef, _, policyVersion, _, classification, isClass, action,
    isAction, target, isTarget, argsHash, isArgs, rfl⟩ := built
  rw [index_of_get isClass, index_of_get isAction, index_of_get isTarget, index_of_get isArgs]
  exact ⟨rfl, rfl, rfl, rfl, rfl⟩

theorem verifyAuthorization_required {envelope : Value} {approvers : List Gate.Approver}
    {seen : List String} {at_ : Option String}
    (passed : verifyAuthorization ext envelope true approvers seen at_ = .ok none) : False := by
  unfold verifyAuthorization at passed
  dsimp only at passed
  split at passed
  · simp only [require_bind_eq_ok, Bool.true_eq_false, false_and] at passed
  · simp only [bind_eq_ok, pure_eq_ok, reduceCtorEq, and_false, exists_false] at passed

/-- A probe that verifies leaves the request approved. -/
theorem approved_of_probe {request decision envelope : Value} {at_ : String} {approvers : List Gate.Approver}
    {seen : List String} {ok : Gate.AuthorizationOk} (resolves : Resolves config approvers)
    (built : probe request (authorizationOf request decision) at_ = .ok envelope)
    (passed : verifyAuthorization ext envelope true approvers seen (some at_) = .ok (some ok)) :
    Approved ext config request decision ∧ SelfAgrees request := by
  obtain ⟨carried, classification, action, target, argsHash⟩ := probe_eq_ok built
  have isRequest : (envelope.index "authorization").index "request" = request := by
    rw [carried]
    rfl
  have isDecision : (envelope.index "authorization").index "decision" = decision := by
    rw [carried]
    rfl
  obtain ⟨endorsed, _, bound, _⟩ := (verifyAuthorization_some isRequest isDecision).mp passed
  refine ⟨⟨approvers, ok, resolves, endorsed⟩, ?_⟩
  unfold Gate.bound agrees at bound
  simp only [List.all_cons, List.all_nil, List.foldl_cons, List.foldl_nil, Bool.and_true, Bool.and_eq_true,
    classification, action, target, argsHash] at bound
  obtain ⟨_, _, _, _, _, isClass, isAction, isTarget, isArgs⟩ := bound
  exact ⟨isClass, isAction, isTarget, isArgs⟩

/-- If there is an approval, it is of this call. -/
def AuthorizationSound (ext : External) (config : GatewayConfig) (work : Work)
    (authorization : Option Value) : Prop :=
  ∀ given, authorization = some given → approves given → Granted ext config work given

/-- The first gate rule for the class of the call, whatever the action, neither denies nor gates it. -/
def Allowed (work : Work) : Prop :=
  (work.policy.decisionFor work.classification.classification).kind ∉ ["deny", "gate"]

/-- What lets a call through: a rule, or an approval of this call. -/
def Passed (ext : External) (config : GatewayConfig) (work : Work) : Option Value → Prop
  | none => Allowed work
  | some given => Granted ext config work given

/-- A kept record is the body of an effect, and carries no approval but of that effect's call. -/
def RecordSound (ext : External) (config : GatewayConfig) (body : Members) : Prop :=
  ∃ work outcome authorization at_, EffectBody config work outcome authorization at_ body ∧
    AuthorizationSound ext config work authorization

def AfterSound (ext : External) (config : GatewayConfig) : After → Prop
  | .claim work _ authorization _ => Granted ext config work authorization
  | .seeds _ _ _ => True

def SeedSound (ext : External) (config : GatewayConfig) (seed : Seed) (decision : Value) : Prop :=
  Approved ext config seed.request decision ∧ SelfAgrees seed.request

/-- Every approval a task holds on to is of what the task is about. -/
def TaskSound (ext : External) (config : GatewayConfig) : Task → Prop
  | .gate _ approvers _ => Resolves config approvers
  | .parkSeed _ _ => True
  | .consume work approvers parked =>
      Resolves config approvers ∧ Local.describes (work.ask config).fields parked.request = true
  | .verifySeed _ _ approvers _ after => Resolves config approvers ∧ AfterSound ext config after
  | .claimSeed _ _ _ seed decision after => SeedSound ext config seed decision ∧ AfterSound ext config after
  | .chainSeed _ _ _ seed decision _ after =>
      SeedSound ext config seed decision ∧ AfterSound ext config after
  | .recordSeed _ after => AfterSound ext config after
  | .seeds _ _ _ => True
  | .claim work _ authorization _ => Granted ext config work authorization
  | .settle work _ authorization => Granted ext config work authorization
  | .forward work authorization => Passed ext config work authorization
  | .forwarding work authorization _ _ => Passed ext config work authorization
  | .folding work _ => Passed ext config work none
  | .chain work _ authorization _ _ => AuthorizationSound ext config work authorization
  | .recover _ _ rest => ∀ intent ∈ rest, RecordSound ext config intent.body

structure Sound (ext : External) (config : GatewayConfig) (enforcer : Enforcer) : Prop where
  tasks : ∀ task ∈ enforcer.tasks, TaskSound ext config task
  intents : ∀ intent ∈ enforcer.store.intents, RecordSound ext config intent.body

variable {enforcer : Enforcer}

theorem AuthorizationSound.none {work : Work} : AuthorizationSound ext config work none := by
  intro given absent
  cases absent

theorem Passed.sound {work : Work} {authorization : Option Value}
    (passed : Passed ext config work authorization) : AuthorizationSound ext config work authorization := by
  intro given same _
  cases same
  exact passed

theorem AfterSound.task {after : After} (sound : AfterSound ext config after) :
    TaskSound ext config after.task := by
  cases after with
  | claim => exact sound
  | seeds => trivial

theorem Sound.push (sound : Sound ext config enforcer) {task : Task} (isSound : TaskSound ext config task) :
    Sound ext config (enforcer.push task) := by
  refine ⟨?_, sound.intents⟩
  intro other member
  rcases List.mem_append.mp member with held | new
  · exact sound.tasks other held
  · rw [List.mem_singleton] at new
    subst new
    exact isSound

/-- The records are all that matters of the store. -/
theorem Sound.store (sound : Sound ext config enforcer) {store : Local}
    (same : store.intents = enforcer.store.intents) : Sound ext config { enforcer with store } := by
  refine ⟨sound.tasks, ?_⟩
  intro intent member
  exact sound.intents intent (same ▸ member)

theorem claimGateUse_intents {store next : Local} {requestHash : String} {won : Bool}
    (claimed : store.claimGateUse requestHash = (next, won)) :
    next.intents = store.intents ∧ next.chain = store.chain := by
  unfold Local.claimGateUse at claimed
  split at claimed <;> cases claimed <;> exact ⟨rfl, rfl⟩

theorem parkUnique_intents {store next : Local} {row : Parked} {fields : List (String × String)}
    {now : String} {held : Option Parked} (parked : store.parkUnique row fields now = (next, held)) :
    next.intents = store.intents ∧ next.chain = store.chain := by
  unfold Local.parkUnique at parked
  split at parked <;> cases parked <;> exact ⟨rfl, rfl⟩

/-- What has to hold for the envelope a task chains: its instant is inside the approval's window and,
where it puts a catalog entry in force, it is the asking caller's and under the policy asked under. -/
def TaskFits (config : GatewayConfig) (reading : Reading) : Task → Prop
  | .chain _ _ authorization _ _ =>
      ∀ given, authorization = some given → Within (given.index "decision") reading.now
  | .chainSeed session policy _ seed decision now _ =>
      Within decision now ∧ SameCaller config session policy seed.request
  | .recover _ now (intent :: _) =>
      ∀ given, intent.body.get "authorization" = some given → Within (given.index "decision") now
  | _ => True

/-- What a step leaves: sound tasks and records, and at most one more row, verified where it fits. -/
structure Kept (ext : External) (config : GatewayConfig) (fits : Prop) (before after : Enforcer) : Prop where
  sound : Sound ext config after
  rows : after.store.chain.envelopes = before.store.chain.envelopes ∨
    ∃ row, after.store.chain.envelopes = before.store.chain.envelopes ++ [row] ∧
      (approves (row.envelope.index "authorization") → (Verified ext config row.envelope ↔ fits))

variable {fits : Prop} {before after : Enforcer}

theorem Kept.quiet (sound : Sound ext config after)
    (same : after.store.chain.envelopes = before.store.chain.envelopes) : Kept ext config fits before after :=
  ⟨sound, Or.inl same⟩

theorem Kept.push (kept : Kept ext config fits before after) {task : Task}
    (isSound : TaskSound ext config task) : Kept ext config fits before (after.push task) :=
  ⟨kept.sound.push isSound, kept.rows⟩

/-- What an emission leaves behind. -/
theorem emit_eq_ok {session : Session} {written : Result (Members × List Value)}
    {resolves : Option String} {reading : Reading} {next : Enforcer} {id : String}
    (sound : Sound ext config enforcer)
    (done : enforcer.emit ext checkShape session written resolves reading = .ok (next, id)) :
    ∃ row body payloads, written = .ok (body, payloads) ∧ Sound ext config next ∧
      next.store.chain.envelopes = enforcer.store.chain.envelopes ++ [row] ∧ Carries row.envelope body := by
  unfold Enforcer.emit at done
  simp only [bind_eq_ok, pure_eq_ok, Prod.mk.injEq] at done
  obtain ⟨⟨body, payloads⟩, isBody, ⟨store, _⟩, appended, rfl, _⟩ := done
  obtain ⟨row, rows, carries, _, _, _, intents⟩ := Local.append_eq_ok appended
  refine ⟨row, body, payloads, isBody, ⟨sound.tasks, ?_⟩, rows, carries⟩
  intro intent member
  obtain ⟨earlier, held, same⟩ := intents intent member
  exact same ▸ sound.intents earlier held

theorem gate_kept {work : Work} {approvers : List Gate.Approver} {firstCall : Bool} {reading : Reading}
    (sound : Sound ext config enforcer) (resolves : Resolves config approvers) :
    Kept ext config fits enforcer (enforcer.gate ext config work approvers firstCall reading) := by
  unfold Enforcer.gate
  dsimp only
  split
  · rename_i parked decided
    have described : Local.describes (work.ask config).fields parked.request = true := by
      unfold Local.decidedFor at decided
      have found := List.find?_some decided
      exact found
    exact .push (.quiet sound rfl) ⟨resolves, described⟩
  · split
    · exact .quiet sound rfl
    · split
      · exact .quiet sound rfl
      · split
        · rename_i held
          obtain ⟨intents, chain⟩ := parkUnique_intents held
          exact .quiet (sound.store intents) (congrArg GatewayStore.envelopes chain)
        · rename_i held
          obtain ⟨intents, chain⟩ := parkUnique_intents held
          have quiet : Kept ext config fits enforcer { enforcer with store := _ } :=
            .quiet (sound.store intents) (congrArg GatewayStore.envelopes chain)
          split
          · exact quiet.push trivial
          · exact quiet

theorem parkSeed_kept {work : Work} {requestHash : String} {reading : Reading}
    (sound : Sound ext config enforcer) :
    Kept ext config fits enforcer (enforcer.parkSeed ext config work requestHash reading) := by
  unfold Enforcer.parkSeed
  dsimp only
  split
  · exact .quiet (sound.store rfl) rfl
  · exact .quiet sound rfl

theorem consume_kept {work : Work} {approvers : List Gate.Approver} {parked : Parked} {reading : Reading}
    (sound : Sound ext config enforcer) (resolves : Resolves config approvers)
    (described : Local.describes (work.ask config).fields parked.request = true) :
    Kept ext config fits enforcer (enforcer.consume ext work approvers parked reading) := by
  unfold Enforcer.consume
  dsimp only
  split
  · exact .quiet sound rfl
  · rename_i built
    split
    · exact .quiet sound rfl
    · rename_i passed
      obtain ⟨approved, _⟩ := approved_of_probe resolves built passed
      have granted : Granted ext config work
          (authorizationOf parked.request (parked.decision.getD .null)) := ⟨approved, described⟩
      split
      · exact .push (.quiet sound rfl) ⟨resolves, granted⟩
      · exact .push (.quiet sound rfl) granted
    · rename_i refused
      have quiet : Kept ext config fits enforcer { enforcer with
          store := enforcer.store.consume parked.requestHash reading.later } :=
        .quiet (sound.store rfl) rfl
      split
      · rename_i code
        refine quiet.push ?_
        intro given same answer
        cases same
        have denied := denied_of_refused refused code
        rw [(probe_eq_ok built).1] at denied
        exact absurd answer denied
      · exact quiet

theorem verifySeed_kept {session : Session} {policy : Policy} {approvers : List Gate.Approver}
    {parked : Parked} {after : After} {reading : Reading} (sound : Sound ext config enforcer)
    (resolves : Resolves config approvers) (goesOn : AfterSound ext config after) :
    Kept ext config fits enforcer
      (enforcer.verifySeed ext session policy approvers parked after reading) := by
  have quiet : Kept ext config fits enforcer enforcer := .quiet sound rfl
  unfold Enforcer.verifySeed
  split
  · split
    · exact quiet.push goesOn.task
    · split
      · rename_i built _
        split
        · rename_i ok passed
          cases ok with
          | none => exact (verifyAuthorization_required passed).elim
          | some ok => exact quiet.push ⟨approved_of_probe resolves built passed, goesOn⟩
        · exact quiet.push goesOn.task
      · exact quiet
  · exact quiet.push goesOn.task

theorem claimSeed_kept {session : Session} {policy : Policy} {parked : Parked} {seed : Seed}
    {decision : Value} {after : After} {reading : Reading} (sound : Sound ext config enforcer)
    (seedSound : SeedSound ext config seed decision) (goesOn : AfterSound ext config after) :
    Kept ext config fits enforcer
      (enforcer.claimSeed session policy parked seed decision after reading) := by
  unfold Enforcer.claimSeed
  split
  · rename_i claimed
    obtain ⟨intents, chain⟩ := claimGateUse_intents claimed
    exact .push (.quiet (sound.store intents) (congrArg GatewayStore.envelopes chain)) ⟨seedSound, goesOn⟩
  · exact .push (.quiet sound rfl) goesOn.task

theorem chainSeed_kept {session : Session} {policy : Policy} {parked : Parked} {seed : Seed}
    {decision : Value} {now : String} {after : After} {reading : Reading}
    (sound : Sound ext config enforcer) (seedSound : SeedSound ext config seed decision)
    (goesOn : AfterSound ext config after) :
    Kept ext config (TaskFits config reading (.chainSeed session policy parked seed decision now after))
      enforcer (enforcer.chainSeed ext checkShape config classifier session policy parked seed decision now
        after reading) := by
  unfold Enforcer.chainSeed
  split
  · exact .quiet sound rfl
  · rename_i done
    obtain ⟨row, body, payloads, written, kept, rows, carries⟩ := emit_eq_ok sound done
    refine Kept.push ⟨kept, Or.inr ⟨row, rows, fun _ => ?_⟩⟩ goesOn
    exact seed_verified_iff (seedBody_eq_ok written) carries seedSound.1 seedSound.2

theorem claim_kept {work : Work} {parked : Parked} {authorization : Value} {requestHash : String}
    {reading : Reading} (sound : Sound ext config enforcer)
    (granted : Granted ext config work authorization) :
    Kept ext config fits enforcer (enforcer.claim work parked authorization requestHash reading) := by
  unfold Enforcer.claim
  split
  · rename_i claimed
    obtain ⟨intents, chain⟩ := claimGateUse_intents claimed
    exact .push (.quiet (sound.store intents) (congrArg GatewayStore.envelopes chain)) granted
  · exact .quiet (sound.store rfl) rfl

theorem forward_kept {work : Work} {authorization : Option Value} {reading : Reading}
    (sound : Sound ext config enforcer) (passed : Passed ext config work authorization) :
    Kept ext config fits enforcer (enforcer.forward ext config work authorization reading) := by
  unfold Enforcer.forward
  split
  · rename_i folds
    have open_ : authorization = none := by
      unfold Work.folded at folds
      simp only [Bool.and_eq_true, Option.isNone_iff_eq_none] at folds
      exact folds.2
    subst open_
    have goesOn : TaskSound ext config (.folding work reading.now) := passed
    exact .push (.quiet sound rfl) goesOn
  · split
    · exact .quiet sound rfl
    · rename_i body payloads written
      split
      · exact .quiet sound rfl
      · rename_i store recorded
        unfold Local.recordIntent at recorded
        simp only [require_bind_eq_ok, pure_eq_ok] at recorded
        obtain ⟨_, rfl⟩ := recorded
        have kept : Sound ext config { enforcer with store := { enforcer.store with
            intents := enforcer.store.intents ++ [{
              intentId := reading.fresh, stream := work.session.stream
              subjectKey := work.session.key.id.text, body, payloads, createdAt := reading.createdAt
              resolvedAt := none }] } } := by
          refine ⟨sound.tasks, ?_⟩
          intro intent member
          rcases List.mem_append.mp member with earlier | new
          · exact sound.intents intent earlier
          · rw [List.mem_singleton] at new
            subst new
            exact ⟨work, _, authorization, _, effectBody_eq_ok written, passed.sound⟩
        have goesOn : TaskSound ext config (.forwarding work authorization reading.now reading.fresh) := passed
        exact ⟨kept.push goesOn, Or.inl rfl⟩

theorem returned_kept {work : Work} {authorization : Option Value} {startedAt : String}
    {intent : Option String} {reading : Reading} (sound : Sound ext config enforcer)
    (held : AuthorizationSound ext config work authorization) :
    Kept ext config fits enforcer
      (enforcer.returned work authorization startedAt intent reading) := by
  unfold Enforcer.returned
  split
  · exact .quiet sound rfl
  · exact .push (.quiet sound rfl) held
  · split
    · exact .quiet sound rfl
    · exact .push (.quiet sound rfl) held

/-- The row of an effect is verified exactly inside the window of the approval it carries. -/
theorem effect_row {work : Work} {outcome now : String} {authorization : Option Value} {body : Members}
    {env : Value} (spells : EffectBody config work outcome authorization now body)
    (carries : Carries env body) (held : AuthorizationSound ext config work authorization)
    (approving : approves (env.index "authorization")) :
    Verified ext config env ↔
      ∀ given, authorization = some given → Within (given.index "decision") now := by
  have carried : env.index "authorization" = authorization.getD .null := by
    rw [carries.index (by decide), spells.authorization]
  rw [carried] at approving
  cases authorization with
  | none => cases approving
  | some given =>
      rw [effect_verified_iff spells carries (held given rfl approving)]
      simp only [Option.some.injEq, forall_eq']

theorem chain_kept {work : Work} {outcome : String} {authorization : Option Value}
    {startedAt intent : Option String} {reading : Reading} (sound : Sound ext config enforcer)
    (held : AuthorizationSound ext config work authorization) :
    Kept ext config (TaskFits config reading (.chain work outcome authorization startedAt intent)) enforcer
      (enforcer.chain ext checkShape config work outcome authorization startedAt intent reading) := by
  unfold Enforcer.chain
  split
  · exact .quiet sound rfl
  · rename_i done
    obtain ⟨row, body, payloads, written, kept, rows, carries⟩ := emit_eq_ok sound done
    exact ⟨kept, Or.inr ⟨row, rows, effect_row (effectBody_eq_ok written) carries held⟩⟩

theorem recover_kept {session : Session} {now : String} {rest : List Intent} {reading : Reading}
    (sound : Sound ext config enforcer)
    (recorded : ∀ intent ∈ rest, RecordSound ext config intent.body) :
    Kept ext config (TaskFits config reading (.recover session now rest)) enforcer
      (enforcer.recover ext checkShape session now rest reading) := by
  cases rest with
  | nil => exact .quiet sound rfl
  | cons intent rest =>
      have others : TaskSound ext config (.recover session now rest) :=
        fun other member => recorded other (List.mem_cons_of_mem _ member)
      unfold Enforcer.recover
      dsimp only
      split
      · exact .push (.quiet sound rfl) others
      · rename_i done
        obtain ⟨row, body, payloads, written, kept, rows, carries⟩ := emit_eq_ok sound done
        cases written
        obtain ⟨work, outcome, authorization, at_, spells, held⟩ := recorded intent List.mem_cons_self
        refine Kept.push ⟨kept, Or.inr ⟨row, rows, fun approving => ?_⟩⟩ others
        rw [effect_row (recoveredBody_effect spells) carries held approving, ← spells.authorization]
        rfl

theorem seeds_kept {session : Session} {policy : Policy} {rest : List Parked}
    (sound : Sound ext config enforcer) :
    Kept ext config fits enforcer (enforcer.seeds config session policy rest) := by
  cases rest with
  | nil => exact .quiet sound rfl
  | cons parked rest =>
      unfold Enforcer.seeds
      dsimp only
      split
      · exact .push (.quiet sound rfl) ⟨Or.inl rfl, trivial⟩
      · exact .push (.quiet sound rfl) trivial

theorem performTask_kept {task : Task} {reading : Reading} (sound : Sound ext config enforcer)
    (taskSound : TaskSound ext config task) :
    Kept ext config (TaskFits config reading task) enforcer
      (enforcer.performTask ext checkShape config classifier task reading) := by
  cases task with
  | gate => exact gate_kept sound taskSound
  | parkSeed => exact parkSeed_kept sound
  | consume => exact consume_kept sound taskSound.1 taskSound.2
  | verifySeed => exact verifySeed_kept sound taskSound.1 taskSound.2
  | claimSeed => exact claimSeed_kept sound taskSound.1 taskSound.2
  | chainSeed => exact chainSeed_kept sound taskSound.1 taskSound.2
  | recordSeed row after =>
      have stored : Kept ext config (TaskFits config reading (.recordSeed row after)) enforcer
          { enforcer with store := enforcer.store.seedCatalog row } := ⟨sound.store rfl, Or.inl rfl⟩
      exact stored.push (AfterSound.task taskSound)
  | seeds => exact seeds_kept sound
  | claim => exact claim_kept sound taskSound
  | settle work parked authorization =>
      have stored : Kept ext config (TaskFits config reading (.settle work parked authorization)) enforcer
          { enforcer with store := enforcer.store.consume parked.requestHash reading.now } :=
        ⟨sound.store rfl, Or.inl rfl⟩
      have goesOn : TaskSound ext config (.forward work (some authorization)) := taskSound
      exact stored.push goesOn
  | forward => exact forward_kept sound taskSound
  | forwarding => exact returned_kept sound (Passed.sound taskSound)
  | folding => exact returned_kept sound .none
  | chain => exact chain_kept sound taskSound
  | recover session now rest =>
      have kept : Kept ext config (TaskFits config reading (.recover session now rest)) enforcer
          (enforcer.recover ext checkShape session now rest reading) := recover_kept sound taskSound
      exact kept

theorem call_kept {session : Session} {call : Call} {policy : Policy} {required : Bool}
    (sound : Sound ext config enforcer) :
    Kept ext config fits enforcer (enforcer.call ext config classifier session call policy required) := by
  have quiet : Kept ext config fits enforcer enforcer := .quiet sound rfl
  have open_ : ∀ work outcome startedAt intent,
      Kept ext config fits enforcer (enforcer.push (.chain work outcome none startedAt intent)) :=
    fun work _ _ _ => quiet.push (@AuthorizationSound.none _ _ work)
  unfold Enforcer.call
  dsimp only
  split
  · split
    · exact quiet
    · exact open_ _ _ _ _
  · split
    · exact open_ _ _ _ _
    · split
      · exact open_ _ _ _ _
      · split
        · split
          · rename_i approvers named
            refine quiet.push ?_
            unfold approversFor at named
            split at named
            · cases named
              exact Or.inl rfl
            · split at named
              · cases named
              · cases named
                exact Or.inr ⟨_, rfl⟩
          · exact open_ _ _ _ _
        · rename_i _ open_ ungated
          refine quiet.push ?_
          intro listed
          simp only [List.mem_cons, List.not_mem_nil, or_false] at listed
          rcases listed with denies | gates
          · exact open_ (Or.inr denies)
          · exact ungated (Or.inl gates)

/-- What has to hold of a step for the approval it chains to verify. -/
def Fits (config : GatewayConfig) (enforcer : Enforcer) : Action → Prop
  | .perform index reading => ∀ task, enforcer.tasks[index]? = some task → TaskFits config reading task
  | _ => True

/-- The step chains an envelope that carries an approval. -/
def ChainsApproval (before after : Enforcer) : Prop :=
  ∃ row, after.store.chain.envelopes = before.store.chain.envelopes ++ [row] ∧
    approves (row.envelope.index "authorization")

theorem Sound.erase (sound : Sound ext config enforcer) (index : Nat) :
    Sound ext config { enforcer with tasks := enforcer.tasks.eraseIdx index } :=
  ⟨fun task member => sound.tasks task (List.mem_of_mem_eraseIdx member), sound.intents⟩

theorem openIntents_mem {store : Local} {stream subjectKey : String} {intent : Intent}
    (member : intent ∈ store.openIntents stream subjectKey) : intent ∈ store.intents := by
  unfold Local.openIntents at member
  rw [List.mem_mergeSort] at member
  exact List.mem_of_mem_filter member

/-- A step keeps every approval sound and chains at most one envelope, whose approval verifies exactly
where the step fits. -/
theorem step_kept (sound : Sound ext config enforcer) (action : Action) :
    Kept ext config (Fits config enforcer action) enforcer
      (enforcer.step ext checkShape config classifier action) := by
  cases action with
  | call session call policy required => exact call_kept sound
  | perform index reading =>
      unfold Enforcer.step
      dsimp only
      split
      · exact .quiet sound rfl
      · rename_i task found
        have erased : Kept ext config (TaskFits config reading task)
            { enforcer with tasks := enforcer.tasks.eraseIdx index }
            (Enforcer.performTask ext checkShape config classifier
              { enforcer with tasks := enforcer.tasks.eraseIdx index } task reading) :=
          performTask_kept (sound.erase index) (sound.tasks task (List.mem_of_getElem? found))
        refine ⟨erased.sound, ?_⟩
        rcases erased.rows with same | ⟨row, rows, fits⟩
        · exact Or.inl same
        · refine Or.inr ⟨row, rows, fun approving => (fits approving).trans ?_⟩
          unfold Fits
          simp only [found, Option.some.injEq, forall_eq']
  | abandon index => exact .quiet (sound.erase index) rfl
  | decide requestHash decision => exact .quiet (sound.store rfl) rfl
  | decideSeed requestHash decision => exact .quiet (sound.store rfl) rfl
  | record requestHash decision catalogClass seed => exact .quiet (sound.store rfl) rfl
  | applySeeds session policy =>
      have quiet : Kept ext config (Fits config enforcer (.applySeeds session policy)) enforcer enforcer :=
        .quiet sound rfl
      exact quiet.push trivial
  | recoverIntents session now =>
      have quiet : Kept ext config (Fits config enforcer (.recoverIntents session now)) enforcer enforcer :=
        .quiet sound rfl
      exact quiet.push fun intent member => sound.intents intent (openIntents_mem member)

theorem initial_sound : Sound ext config Enforcer.initial := by
  constructor
  · intro task member
    cases member
  · intro intent member
    cases member

theorem run_sound (actions : List Action) :
    Sound ext config ((enforcement ext checkShape config classifier).run .initial actions) :=
  (enforcement ext checkShape config classifier).run_invariant (Sound ext config)
    (fun _ action sound => (step_kept sound action).sound) initial_sound actions

/-- An envelope once chained stays. -/
theorem run_rows (sound : Sound ext config enforcer) (actions : List Action) {row : LocalEnvelope}
    (held : row ∈ enforcer.store.chain.envelopes) :
    row ∈ ((enforcement ext checkShape config classifier).run enforcer actions).store.chain.envelopes := by
  refine ((enforcement ext checkShape config classifier).run_invariant
    (fun state => Sound ext config state ∧ row ∈ state.store.chain.envelopes) ?_ ⟨sound, held⟩ actions).2
  intro state action ⟨sound, held⟩
  have kept : Kept ext config (Fits config _ action) _ (Enforcer.step ext checkShape config classifier _ action) :=
    step_kept sound action
  refine ⟨kept.sound, ?_⟩
  change row ∈ (state.step ext checkShape config classifier action).store.chain.envelopes
  rcases kept.rows with same | ⟨new, rows, _⟩
  · rw [same]
    exact held
  · rw [rows]
    exact List.mem_append_left _ held

structure AllVerified (ext : External) (config : GatewayConfig) (enforcer : Enforcer) : Prop where
  sound : Sound ext config enforcer
  rows : ∀ row ∈ enforcer.store.chain.envelopes,
    approves (row.envelope.index "authorization") → Verified ext config row.envelope

/-- Every approval the gateway ever chained verifies at its own instant exactly where every step that
chained one fitted. -/
theorem chained_approvals_verify_iff (actions : List Action) :
    (∀ row ∈ ((enforcement ext checkShape config classifier).run .initial actions).store.chain.envelopes,
        approves (row.envelope.index "authorization") → Verified ext config row.envelope) ↔
      ∀ before action after, actions = before ++ action :: after →
        ChainsApproval ((enforcement ext checkShape config classifier).run .initial before)
          (((enforcement ext checkShape config classifier).run .initial before).step ext checkShape config
            classifier action) →
        Fits config ((enforcement ext checkShape config classifier).run .initial before) action := by
  constructor
  · intro verified before action after split ⟨row, appended, approving⟩
    have sound : Sound ext config ((enforcement ext checkShape config classifier).run .initial before) :=
      run_sound before
    have kept : Kept ext config (Fits config _ action) _ (Enforcer.step ext checkShape config classifier _ action) :=
      step_kept sound action
    rcases kept.rows with same | ⟨new, rows, fits⟩
    · rw [same] at appended
      exact absurd appended (by simp)
    · have isRow : new = row := by
        rw [rows] at appended
        exact List.singleton_injective (List.append_cancel_left appended)
      subst isRow
      refine (fits approving).mp (verified new ?_ approving)
      rw [split, System.run_append, System.run_cons]
      refine run_rows kept.sound after ?_
      rw [rows]
      exact List.mem_append_right _ (List.mem_singleton_self new)
  · intro each
    have keeps : ∀ state action,
        (ChainsApproval state (state.step ext checkShape config classifier action) → Fits config state action) →
        AllVerified ext config state →
        AllVerified ext config (state.step ext checkShape config classifier action) := by
      intro state action fitting ⟨sound, verified⟩
      have kept : Kept ext config (Fits config state action) state
          (state.step ext checkShape config classifier action) := step_kept sound action
      refine ⟨kept.sound, ?_⟩
      intro row member approving
      rcases kept.rows with same | ⟨new, rows, fits⟩
      · rw [same] at member
        exact verified row member approving
      · rw [rows] at member
        rcases List.mem_append.mp member with earlier | last
        · exact verified row earlier approving
        · rw [List.mem_singleton] at last
          subst last
          exact (fits approving).mpr (fitting ⟨row, rows, approving⟩)
    have starts : AllVerified ext config Enforcer.initial := by
      refine ⟨initial_sound, ?_⟩
      intro row member
      cases member
    have all := (enforcement ext checkShape config classifier).run_invariant_of
      (AllVerified ext config) keeps starts actions each
    exact all.rows

end Stozher.Gateway

namespace Stozher.Deployment

open Library Gateway

/-- The request to merge, as the gateway works on it. -/
def mergeWork : Work where
  session := opsSession
  call := toolCall "merge"
  classification := {
    action := "github.merge", classification := "consequential", tier := .shipped, proposed := "consequential" }
  target := "mcp:github"
  argsHash := noArguments.digest
  policy := inForce

def humans : List Gate.Approver :=
  [.named anaId "human:ana", .named miraId "human:mira"]

def mergeParked : Parked where
  requestHash := gatewayRequest.digest
  request := gatewayRequest.document
  server := "github"
  tool := "merge"
  proposedClass := "consequential"
  firstCall := false
  createdAt := nine
  decision := none
  catalogClass := none
  seed := none
  consumedAt := none

def mergeApproved : Parked :=
  { mergeParked with decision := some gatewayApproval.document }

/-- The gateway with requests parked and nothing else on record. -/
def holding (parked : List Parked) (tasks : List Gateway.Task) : Enforcer where
  store := { Local.empty with parked }
  tasks := tasks

/-- A call the rules gate goes to the gate. -/
theorem call_gates {enforcer : Enforcer} {classifier : Classifier} {session : Session} {call : Call}
    {policy : Gateway.Policy} {classification : Classification} {argsHash : String}
    {approvers : List Gate.Approver}
    (hashed : Jcs.objectHash ext call.arguments = .ok argsHash)
    (classified : Gateway.classify policy { classifier with orgSeeded := enforcer.store.catalogEntry }
      session.subject call = classification)
    (lighter : classification.classification ≠ "prohibited")
    (gates : (policy.decisionFor classification.classification).kind = "gate")
    (resolved : approversFor gatewayConfig (policy.decisionFor classification.classification).approvers =
      some approvers) :
    enforcer.call ext gatewayConfig classifier session call policy true = enforcer.push (.gate {
      session, call, classification, target := Gateway.target call, argsHash, policy } approvers
        (!classification.known && !classification.policyNamed)) := by
  subst classified
  unfold Enforcer.call
  rw [hashed]
  dsimp only
  rw [if_neg lighter, if_neg (by rw [gates]; decide), if_pos (Or.inl gates), resolved]

/-- A merge is parked, approved for five minutes and asked for again. -/
def approvedMerge : List Gateway.Action :=
  [.call opsSession (toolCall "merge") inForce true, .perform 0 (readAt nine),
    .decide gatewayRequest.digest gatewayApproval.document,
    .call opsSession (toolCall "merge") inForce true, .perform 0 (readAt nine)]

/-- The approval is spent, and the call to the upstream server takes an hour. -/
def slowCall : List Gateway.Action :=
  [.perform 0 (readAt nine), .perform 0 (readAt nine), .perform 0 (readAt nine), .perform 0 (readAt nine),
    .perform 0 (readAt nine), .perform 0 (readAt ten), .perform 0 (readAt ten)]

/-- What the gateway reads off a merge, from the call to the chained envelope. -/
structure MergeSeen : Prop where
  hashed : Jcs.objectHash ext (toolCall "merge").arguments = .ok noArguments.digest
  classified : Gateway.classify inForce (tiers []) opsSession.subject (toolCall "merge") =
    mergeWork.classification
  gates : (inForce.decisionFor mergeWork.classification.classification).kind = "gate"
  resolved : approversFor gatewayConfig
    (inForce.decisionFor mergeWork.classification.classification).approvers = some humans
  shifted : Clock.shift nine 3600 = .ok ten
  asked : actionRequest (mergeWork.ask gatewayConfig) nine (readAt nine).fresh ten = gatewayRequest.document
  identified : Jcs.objectHash ext gatewayRequest.document = .ok gatewayRequest.digest
  described : Local.describes (mergeWork.ask gatewayConfig).fields mergeApproved.request = true
  chained : (((enforcement ext shapeless gatewayConfig (tiers [])).run
    (holding [mergeApproved] [.consume mergeWork humans mergeApproved]) slowCall).store.chain.envelopes.map
      LocalEnvelope.envelope) = [gatewayEffect.document]
  approved : ((gatewayEffect.document.index "authorization").index "decision").getStr "decision" =
    some "approve"
  late : (gatewayEffect.document.index "emitted-at").asStr = some ten
  until_ : ((gatewayEffect.document.index "authorization").index "decision").getStr "not-after" =
    some fivePast
  past : ¬ ten ≤ fivePast

theorem merge_seen : MergeSeen := by
  constructor <;> decide +kernel

theorem call_merge (parked : List Parked) :
    (holding parked []).call ext gatewayConfig (tiers []) opsSession (toolCall "merge") inForce true =
      holding parked [.gate mergeWork humans false] := by
  have called := @call_gates (holding parked []) (tiers []) _ _ _ _ _ _ merge_seen.hashed
    merge_seen.classified (by decide) merge_seen.gates merge_seen.resolved
  exact called

theorem gate_parks :
    (holding [] []).gate ext gatewayConfig mergeWork humans false (readAt nine) = holding [mergeParked] [] := by
  have undecided : ∀ fields, (holding [] []).store.decidedFor fields = none := by
    intro fields
    simp [holding, Local.decidedFor, Local.byCreation, Local.empty]
  have unasked : ∀ fields now, (holding [] []).store.outstandingFor fields now = none := by
    intro fields now
    simp [holding, Local.outstandingFor, Local.byCreation, Local.empty]
  unfold Enforcer.gate
  dsimp only
  rw [undecided]
  dsimp only
  rw [show (readAt nine).now = nine from rfl, merge_seen.shifted]
  dsimp only
  rw [merge_seen.asked, merge_seen.identified]
  dsimp only [Local.parkUnique]
  rw [unasked]
  rfl

theorem gate_finds :
    (holding [mergeApproved] []).gate ext gatewayConfig mergeWork humans false (readAt nine) =
      holding [mergeApproved] [.consume mergeWork humans mergeApproved] := by
  have decided : (holding [mergeApproved] []).store.decidedFor (mergeWork.ask gatewayConfig).fields =
      some mergeApproved := by
    have answered : [mergeApproved].filter (fun row => row.decision.isSome && row.consumedAt.isNone) =
        [mergeApproved] := rfl
    unfold Local.decidedFor Local.byCreation holding
    dsimp only
    rw [answered, List.mergeSort_singleton]
    simp only [List.find?_cons, merge_seen.described]
  unfold Enforcer.gate
  dsimp only
  rw [decided]
  rfl

theorem step_call_merge (parked : List Parked) :
    (enforcement ext shapeless gatewayConfig (tiers [])).step (holding parked [])
        (.call opsSession (toolCall "merge") inForce true) = holding parked [.gate mergeWork humans false] :=
  call_merge parked

theorem step_gate_parks :
    (enforcement ext shapeless gatewayConfig (tiers [])).step (holding [] [.gate mergeWork humans false])
        (.perform 0 (readAt nine)) = holding [mergeParked] [] :=
  gate_parks

theorem step_gate_finds :
    (enforcement ext shapeless gatewayConfig (tiers [])).step
        (holding [mergeApproved] [.gate mergeWork humans false]) (.perform 0 (readAt nine)) =
      holding [mergeApproved] [.consume mergeWork humans mergeApproved] :=
  gate_finds

theorem run_approvedMerge :
    (enforcement ext shapeless gatewayConfig (tiers [])).run .initial approvedMerge =
      holding [mergeApproved] [.consume mergeWork humans mergeApproved] := by
  have start : Enforcer.initial = holding [] [] := rfl
  have decided : (enforcement ext shapeless gatewayConfig (tiers [])).step (holding [mergeParked] [])
      (.decide gatewayRequest.digest gatewayApproval.document) = holding [mergeApproved] [] := rfl
  unfold approvedMerge
  rw [System.run_cons, System.run_cons, System.run_cons, System.run_cons, System.run_cons, System.run_nil,
    start, step_call_merge, step_gate_parks, decided, step_call_merge, step_gate_finds]

theorem slow_merge_chained :
    (((enforcement ext shapeless gatewayConfig (tiers [])).run .initial
      (approvedMerge ++ slowCall)).store.chain.envelopes.map LocalEnvelope.envelope) =
        [gatewayEffect.document] := by
  rw [System.run_append, run_approvedMerge]
  exact merge_seen.chained

/-- The chained envelope of an approved call was emitted after its approval ran out. -/
theorem slow_merge_unverified :
    ∃ row ∈ ((enforcement ext shapeless gatewayConfig (tiers [])).run .initial
        (approvedMerge ++ slowCall)).store.chain.envelopes,
      approves (row.envelope.index "authorization") ∧ ¬ Verified ext gatewayConfig row.envelope := by
  have inside := List.mem_cons_self (a := gatewayEffect.document) (l := [])
  rw [← slow_merge_chained] at inside
  obtain ⟨row, member, envelope⟩ := List.mem_map.mp inside
  refine ⟨row, member, ?_, ?_⟩
  · rw [envelope]
    exact merge_seen.approved
  · rw [envelope]
    intro verified
    obtain ⟨approvers, ok, _, passed⟩ := verified
    obtain ⟨_, ⟨instant, isInstant, within_⟩, _⟩ := (verifyAuthorization_some rfl rfl).mp passed
    obtain ⟨_, decidedAt, notAfter, _, isNotAfter, _, before⟩ := within_
    have isTen : some ten = some instant := merge_seen.late.symm.trans isInstant
    rw [merge_seen.until_] at isNotAfter
    rw [← Option.some.inj isTen, ← Option.some.inj isNotAfter] at before
    exact absurd before merge_seen.past

end Stozher.Deployment
