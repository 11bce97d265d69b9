import Stozher.Gateway.Enforcement

namespace Stozher.Gateway

open Library

variable {ext : External} {checkShape : Value → Result Unit} {config : GatewayConfig}

/-- The members the chain and the signature add to a body. -/
def placeMembers : List String :=
  ["stream", "seq", "prev-hash", "sig"]

/-- An envelope with a body, whatever its place in a chain. -/
def Carries (env : Value) (body : Members) : Prop :=
  ∀ name ∉ placeMembers, env.get name = body.get name

theorem Carries.index {env : Value} {body : Members} (carries : Carries env body) {name : String}
    (other : name ∉ placeMembers) : env.index name = (body.get name).getD .null := by
  unfold Value.index
  rw [carries name other]

theorem Carries.getStr {env : Value} {body : Members} (carries : Carries env body) {name : String}
    (other : name ∉ placeMembers) : env.getStr name = (body.get name).bind Value.asStr := by
  unfold Value.getStr
  rw [carries name other]

theorem build_carries {key : Signed.SigningKey} {stream id : String} {body : Members} {seq : Nat}
    {prev : Option String} {envelope : Value}
    (built : build ext checkShape key stream body seq prev = .ok (id, envelope)) :
    Carries envelope body := by
  obtain ⟨done, _, _⟩ := build_eq_ok built
  intro name outside
  simp only [placeMembers, List.mem_cons, List.not_mem_nil, or_false, not_or] at outside
  rw [signObject_get done outside.2.2.2, Members.get_insert_of_ne (Ne.symm outside.2.2.1),
    Members.get_insert_of_ne (Ne.symm outside.2.1), Members.get_insert_of_ne (Ne.symm outside.1)]

/-- An emission chains one row, which carries the body. -/
theorem Local.append_eq_ok {store next : Local} {emission : Emission} {resolves : Option String}
    {id : String} (done : store.append ext checkShape emission resolves = .ok (next, id)) :
    ∃ row, next.chain.envelopes = store.chain.envelopes ++ [row] ∧ Carries row.envelope emission.body ∧
      next.parked = store.parked ∧ next.catalog = store.catalog ∧ next.gateSeen = store.gateSeen ∧
      ∀ intent ∈ next.intents, ∃ before ∈ store.intents, before.body = intent.body := by
  unfold Local.append at done
  simp only [bind_eq_ok, pure_eq_ok, Prod.mk.injEq] at done
  obtain ⟨⟨chain, other⟩, appended, rfl, rfl⟩ := done
  obtain ⟨_, envelope, _, built, _, rows⟩ := append_built appended
  refine ⟨_, rows, build_carries built, rfl, rfl, rfl, ?_⟩
  intro intent member
  obtain ⟨before, held, rfl⟩ := List.mem_map.mp member
  refine ⟨before, held, ?_⟩
  split <;> rfl

theorem identity_subject {session : Session} :
    (identity config session).index "subject" = .string session.subject := rfl

theorem identity_key {session : Session} :
    (identity config session).index "key" = .string session.key.id.text := rfl

theorem identity_component {session : Session} :
    (identity config session).index "component" = .string config.component := rfl

/-- What the envelope of an effect says. -/
structure EffectBody (config : GatewayConfig) (work : Work) (outcome : String)
    (authorization : Option Value) (now : String) (body : Members) : Prop where
  kind : body.get "kind" = some (.string "effect")
  emittedAt : body.get "emitted-at" = some (.string now)
  identity : body.get "identity" = some (identity config work.session)
  mandateRef : body.get "mandate-ref" = some (.string work.session.mandateRef)
  policyVersion : body.get "policy-version" = some (.string work.policy.version)
  classification : body.get "classification" = some (.string work.classification.classification)
  execution : ∃ members, body.get "execution" = some (.object members) ∧
    Members.get members "action" = some (.string work.classification.action) ∧
    Members.get members "target" = some (.string work.target) ∧
    Members.get members "args-hash" = some (.string work.argsHash) ∧
    Members.get members "outcome" = some (.string outcome)
  authorization : body.get "authorization" = authorization

theorem effectBody_eq_ok {work : Work} {outcome now : String} {authorization : Option Value}
    {startedAt : Option String} {body : Members} {payloads : List Value}
    (written : effectBody ext config work outcome authorization startedAt now = .ok (body, payloads)) :
    EffectBody config work outcome authorization now body := by
  unfold effectBody at written
  simp only [bind_eq_ok, pure_eq_ok, Prod.mk.injEq] at written
  obtain ⟨_, _, _, _, rfl, rfl⟩ := written
  constructor
  case execution => exact ⟨_, rfl, rfl, rfl, rfl, rfl⟩
  case authorization =>
      cases authorization with
      | none => cases config.correlationRef <;> rfl
      | some given => rfl
  all_goals rfl

/-- What the kernel reads of the envelope of an effect. -/
theorem EffectBody.read {work : Work} {outcome now : String} {authorization : Option Value}
    {body : Members} {env : Value} (spells : EffectBody config work outcome authorization now body)
    (carries : Carries env body) :
    env.getStr "kind" = some "effect" ∧ env.getStr "emitted-at" = some now ∧
      (env.index "identity").getStr "subject" = some work.session.subject ∧
      (env.index "identity").getStr "component" = some config.component ∧
      env.getStr "classification" = some work.classification.classification ∧
      (Ingest.execution env).getStr "action" = some work.classification.action ∧
      (Ingest.execution env).getStr "target" = some work.target ∧
      (Ingest.execution env).getStr "outcome" = some outcome := by
  obtain ⟨members, execution, action, target, _, isOutcome⟩ := spells.execution
  have body_ : Ingest.execution env = .object members := by
    unfold Ingest.execution
    rw [carries.index (by decide), execution, Option.getD_some]
  have who : env.index "identity" = Gateway.identity config work.session := by
    rw [carries.index (by decide), spells.identity, Option.getD_some]
  rw [carries.getStr (by decide), carries.getStr (by decide), carries.getStr (by decide), who, body_,
    spells.kind, spells.emittedAt, spells.classification]
  unfold Value.getStr Value.get
  dsimp only [Value.asObject, Option.bind_some]
  rw [action, target, isOutcome]
  exact ⟨rfl, rfl, rfl, rfl, rfl, rfl, rfl, rfl⟩

/-- What an approval binds, the envelope of an effect performs as the call asked for it. -/
theorem EffectBody.performs {work : Work} {outcome now : String} {authorization : Option Value}
    {body : Members} {env : Value} (spells : EffectBody config work outcome authorization now body)
    (carries : Carries env body) :
    Gate.bound.map (fun entry => (entry.1, Gate.performedAt env entry.2)) =
      (work.ask config).fields.map fun field => (field.1, some field.2) := by
  obtain ⟨members, execution, action, target, argsHash, _⟩ := spells.execution
  have pair : ∀ parent child, Gate.performedAt env [parent, child] =
      ((env.get parent).bind (·.get child)).bind Value.asStr := fun _ _ => rfl
  have single : ∀ name, Gate.performedAt env [name] = (env.get name).bind Value.asStr := fun _ => rfl
  have inside : ∀ name, (Value.object members).get name = Members.get members name := fun _ => rfl
  unfold Gate.bound ActionRequest.fields Work.ask
  simp only [List.map_cons, List.map_nil, pair, single]
  rw [carries "identity" (by decide), carries "execution" (by decide), carries "mandate-ref" (by decide),
    carries "policy-version" (by decide), carries "classification" (by decide), spells.identity, execution,
    spells.mandateRef, spells.policyVersion, spells.classification]
  simp only [Option.bind_some, inside, action, target, argsHash]
  rfl

/-- A request that describes the call says, of what an approval binds, what the envelope performs. -/
theorem EffectBody.bound {work : Work} {outcome now : String} {authorization : Option Value}
    {body : Members} {env request : Value} (spells : EffectBody config work outcome authorization now body)
    (carries : Carries env body) (described : Local.describes (work.ask config).fields request = true)
    {entry : String × List String} (member : entry ∈ Gate.bound) :
    ∃ value, request.getStr entry.1 = some value ∧ Gate.performedAt env entry.2 = some value := by
  have performed : (entry.1, Gate.performedAt env entry.2) ∈
      (work.ask config).fields.map fun field => (field.1, some field.2) := by
    rw [← spells.performs carries]
    exact List.mem_map_of_mem member
  obtain ⟨field, listed, same⟩ := List.mem_map.mp performed
  rw [Prod.mk.injEq] at same
  refine ⟨field.2, ?_, same.2.symm⟩
  have asked := List.all_eq_true.mp described field listed
  rw [beq_iff_eq] at asked
  rw [← same.1]
  exact asked

end Stozher.Gateway
