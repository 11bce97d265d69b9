import Stozher.Ingest.Plans
import Stozher.SafeInteger

namespace Stozher

open Library

namespace Envelope

variable {ext : External} {env : Value}

/-- What an envelope that passes validation is known to be. -/
structure Valid (ext : External) (env : Value) (map : Members) (kind : String) (spec : KindSpec) :
    Prop where
  object : env = .object map
  hasKind : env.getStr "kind" = some kind
  hasSpec : kindSpec kind = some spec
  members : validateMembers kind map spec = .ok ()
  subObjects : ∀ member ∈ map, validateSubObject member = .ok ()
  numbers : checkNumbers ext env "" = .ok ()
  digests : validateDigests map = .ok ()
  timestamps : validateTimestamps map = .ok ()
  position : validatePosition map = .ok ()
  identity : validateIdentity map = .ok ()
  classification : whenPresent (map.get "classification") validateClassification = .ok ()
  execution : whenPresent (map.get "execution") validateExecution = .ok ()
  counts : validateCounts kind map = .ok ()

theorem asObject_eq_some {value : Value} {map : Members} (object : value.asObject = some map) :
    value = .object map := by
  cases value with
  | object members =>
      cases object
      rfl
  | _ => cases object

theorem validate_eq_ok (valid : validate ext env = .ok ()) :
    ∃ map kind spec, Valid ext env map kind spec := by
  unfold validate at valid
  simp only [bind_eq_ok, okOr_eq_ok, require_eq_ok, forEach_eq_ok] at valid
  obtain ⟨map, object, v, _, text, _, _, _, kindValue, hasKind, kind, isKind, spec, hasSpec, _, members,
    _, subObjects, _, numbers, _, digests, _, timestamps, _, position, _, identity, _, classification,
    _, execution, _, counts, _⟩ := valid
  have same := asObject_eq_some object
  subst same
  refine ⟨map, kind, spec, rfl, ?_, hasSpec, members, subObjects, numbers, digests, timestamps,
    position, identity, classification, execution, counts⟩
  simp [Value.getStr, Value.get, Value.asObject, hasKind, isKind]

theorem get_object (map : Members) (name : String) : (Value.object map).get name = map.get name :=
  rfl

theorem mem_of_get {map : Members} {name : String} {value : Value} (found : map.get name = some value) :
    (name, value) ∈ map := by
  unfold Members.get at found
  rw [Option.map_eq_some_iff] at found
  obtain ⟨member, isFound, rfl⟩ := found
  have named := List.find?_some isFound
  simp only [beq_iff_eq] at named
  subst named
  exact List.mem_of_find?_eq_some isFound

/-- A member an envelope has is one its kind may have. -/
theorem admits_of_get (valid : validate ext env = .ok ()) {name : String} {value : Value}
    (found : env.get name = some value) : ∃ kind spec, env.getStr "kind" = some kind ∧ kindSpec kind = some spec ∧
      (name ∈ common ∨ name ∈ spec.required ∨ name ∈ spec.optional ∨ name ∈ commonOptional) := by
  obtain ⟨map, kind, spec, known⟩ := validate_eq_ok valid
  have object := known.object
  subst object
  have members := known.members
  unfold validateMembers at members
  simp only [bind_eq_ok, forEach_eq_ok, require_eq_ok] at members
  obtain ⟨_, _, _, admitted, _⟩ := members
  refine ⟨kind, spec, known.hasKind, known.hasSpec, ?_⟩
  have listed := admitted name (List.mem_map_of_mem (mem_of_get found))
  simpa only [List.mem_append, or_assoc] using listed

theorem checkNumbers_of_mem {map : Members} {path : String}
    (checked : checkMembers ext map path = .ok ()) {member : String × Value} (inside : member ∈ map) :
    ∃ inner, checkNumbers ext member.2 inner = .ok () := by
  induction map with
  | nil => cases inside
  | cons first rest ih =>
      rw [checkMembers, bind_eq_ok] at checked
      obtain ⟨_, head, tail⟩ := checked
      rcases List.mem_cons.mp inside with rfl | later
      · exact ⟨_, head⟩
      · exact ih tail later

/-- The members of what is checked are checked. -/
theorem checkNumbers_of_get {value item : Value} {name path : String}
    (checked : checkNumbers ext value path = .ok ()) (found : value.get name = some item) :
    ∃ inner, checkNumbers ext item inner = .ok () := by
  obtain ⟨members, isObject, held⟩ := Option.bind_eq_some_iff.mp found
  rw [asObject_eq_some isObject, checkNumbers] at checked
  exact checkNumbers_of_mem checked (mem_of_get held)

variable {map : Members} {kind : String} {spec : KindSpec}

theorem Valid.canonical (valid : Valid ext env map kind spec) :
    Jcs.canonicalize env = .ok { tree := env } :=
  canonicalize_of_checked ext valid.numbers

theorem Valid.small_u64 (valid : Valid ext env map kind spec) {name : String} {n : Nat}
    (found : env.getU64 name = some n) : n < 2 ^ 53 := by
  have object := valid.object
  subst object
  unfold Value.getU64 at found
  rw [get_object, Option.bind_eq_some_iff] at found
  obtain ⟨value, member, isNat⟩ := found
  have checked := valid.numbers
  rw [checkNumbers] at checked
  obtain ⟨path, checkedValue⟩ := checkNumbers_of_mem checked (mem_of_get member)
  cases value with
  | number number =>
      cases number with
      | posInt k fits =>
          have safe : k < 2 ^ 53 := isSafe_of_checked ext checkedValue
          have same : k = n := by simpa [Value.asU64, Number.asU64] using isNat
          omega
      | negInt i fits => simp [Value.asU64, Number.asU64] at isNat
      | float bits => simp [Value.asU64, Number.asU64] at isNat
  | _ => simp [Value.asU64] at isNat

theorem requireDigest_eq_ok {value : Value} {what : String} :
    requireDigest value what = .ok () ↔ ∃ text, value = .string text ∧ Crypto.isDigestHex text = true := by
  unfold requireDigest
  simp only [bind_eq_ok, okOr_eq_ok, require_eq_ok]
  constructor
  · rintro ⟨text, isText, digest⟩
    cases value with
    | string other =>
        cases isText
        exact ⟨text, rfl, digest⟩
    | _ => cases isText
  · rintro ⟨text, rfl, digest⟩
    exact ⟨text, rfl, digest⟩

theorem whenPresent_eq_ok {value : Option Value} {check : Value → Result Unit} :
    whenPresent value check = .ok () ↔ ∀ v, value = some v → check v = .ok () := by
  unfold whenPresent
  cases value <;> simp

/-- What a valid envelope says of its place in the chain. -/
structure Placed (env : Value) (stream : String) (seq : Nat) : Prop where
  hasStream : env.getStr "stream" = some stream
  hasSeq : env.getU64 "seq" = some seq
  small : seq < 2 ^ 53
  first : seq = 0 → env.getStr "prev-hash" = none
  later : 0 < seq → ∃ hash, env.getStr "prev-hash" = some hash

theorem Valid.placed (valid : Valid ext env map kind spec) : ∃ stream seq, Placed env stream seq := by
  have position := valid.position
  unfold validatePosition at position
  simp only [bind_eq_ok, okOr_eq_ok, require_eq_ok] at position
  obtain ⟨stream, hasStream, _, _, seq, hasSeq, _, first, later⟩ := position
  have digests := valid.digests
  unfold validateDigests at digests
  simp only [bind_eq_ok, forEach_eq_ok, whenPresent_eq_ok] at digests
  obtain ⟨_, hashes, _⟩ := digests
  have prevHash := hashes "prev-hash" (by simp)
  have object := valid.object
  have small : ∀ n, env.getU64 "seq" = some n → n < 2 ^ 53 := fun n found => valid.small_u64 found
  subst object
  refine ⟨stream, seq, hasStream, hasSeq, small seq hasSeq, ?_, ?_⟩
  · intro zero
    have isNull := first zero
    unfold Value.getStr
    rw [get_object]
    cases found : map.get "prev-hash" with
    | none => rfl
    | some value =>
        rw [found] at isNull
        cases value <;> simp_all [Value.isNull, Value.asStr]
  · intro positive
    have present := later positive
    unfold Value.getStr
    rw [get_object]
    cases found : map.get "prev-hash" with
    | none =>
        rw [found] at present
        cases present
    | some value =>
        rw [found] at present prevHash
        have digest := prevHash value (by simpa using present)
        obtain ⟨text, rfl, _⟩ := requireDigest_eq_ok.mp digest
        exact ⟨text, rfl⟩

end Envelope

namespace Ingest

variable {ext : External} {config : Config} {store : Store}

def emittedAt (env : Value) : String :=
  (env.getStr "emitted-at").getD ""

def rootKeysAt (store : Store) (at_ : String) : List KeyId :=
  (store.rootsAt at_).map Prod.fst

/-- The plan validation starts from. -/
def planOf (plan : AppendPlan) : AppendPlan :=
  initialPlan plan.envelope plan.id plan.canonicalJson plan.receivedAt

/-- The rule an accepted envelope passed: one of the bootstrap ceremony, or the one of its kind. -/
inductive Ruled (ext : External) (config : Config) (store : Store) (plan : AppendPlan)
    (subjectKey : KeyId) (payloads : List Value) : Prop where
  | genesis (unpublished : policyInForce ext config store = .ok none)
      (valid : validateGenesis ext config store plan.envelope
        (rootKeysAt store (emittedAt plan.envelope)) subjectKey (planOf plan) payloads = .ok plan)
  | inForce (policy : Policy) (published : policyInForce ext config store = .ok (some policy))
      (admits : KindAdmits ext config store plan.envelope policy
        (rootKeysAt store (emittedAt plan.envelope)) subjectKey (planOf plan) payloads plan)
      (unauthorized : checkNoAuthorization plan.envelope plan = .ok ())

/-- What is known of a plan validation ended with. -/
structure Admitted (ext : External) (config : Config) (store : Store) (raw : Octets)
    (receivedAt : String) (plan : AppendPlan) (subjectKey : KeyId) (payloads : List Value) : Prop where
  request : ∃ request, ext.parseOctets raw = .ok request ∧
    readRequest request = .ok (plan.envelope, payloads)
  hasId : Signed.objectId ext plan.envelope = .ok plan.id
  canonical : plan.canonicalJson = { tree := plan.envelope }
  received : plan.receivedAt = receivedAt
  streamKind : plan.streamKind = (planOf plan).streamKind
  signed : Signed.verifySignedObject ext plan.envelope = .ok subjectKey
  valid : Envelope.validate ext plan.envelope = .ok ()
  evidence : ∃ ok, Payload.verifyIngest ext plan.envelope payloads = .ok ok
  rule : Ruled ext config store plan subjectKey payloads

theorem validateGenesis_cases {env : Value} {roots : List KeyId} {subjectKey : KeyId}
    {plan next : AppendPlan} {payloads : List Value}
    (valid : validateGenesis ext config store env roots subjectKey plan payloads = .ok next) :
    env.getStr "stream" = some config.kernelCoreStream ∧
      ((env.getStr "kind" = some "mandate" ∧ env.getU64 "seq" = some 0 ∧
          validateGenesisMandate ext config env roots plan = .ok next) ∨
        (env.getStr "kind" = some "policy-change" ∧ env.getU64 "seq" = some 1 ∧
          validateGenesisPolicy ext config store env roots subjectKey plan payloads = .ok next)) := by
  unfold validateGenesis at valid
  rw [require_bind_eq_ok] at valid
  obtain ⟨stream, valid⟩ := valid
  refine ⟨stream, ?_⟩
  split at valid
  · rename_i first
    exact Or.inl ⟨first.1, first.2, valid⟩
  split at valid
  · rename_i second
    exact Or.inr ⟨second.1, second.2, valid⟩
  · cases valid

theorem validateGenesis_same {env : Value} {roots : List KeyId} {subjectKey : KeyId}
    {plan next : AppendPlan} {payloads : List Value}
    (valid : validateGenesis ext config store env roots subjectKey plan payloads = .ok next) :
    plan.SameRecord next := by
  obtain ⟨_, ⟨_, _, valid⟩ | ⟨_, _, valid⟩⟩ := validateGenesis_cases valid
  · obtain ⟨_, _, _, _, _, _, rfl⟩ := validateGenesisMandate_eq_ok valid
    exact ⟨rfl, rfl, rfl, rfl, rfl⟩
  · obtain ⟨changed, _, _, change, _, rfl⟩ := validateGenesisPolicy_eq_ok valid
    exact (validatePolicyChange_same change).trans ⟨rfl, rfl, rfl, rfl, rfl⟩

theorem planEnvelope_eq_ok {env : Value} {payloads : List Value} {id : String}
    {canonicalJson : Jcs.Canonical} {receivedAt : String} {plan : AppendPlan}
    (planned : planEnvelope ext config store env payloads id canonicalJson receivedAt = .ok plan) :
    ∃ subjectKey, (initialPlan env id canonicalJson receivedAt).SameRecord plan ∧
      Signed.verifySignedObject ext env = .ok subjectKey ∧ Envelope.validate ext env = .ok () ∧
      (∃ ok, Payload.verifyIngest ext env payloads = .ok ok) ∧
      ((policyInForce ext config store = .ok none ∧
          validateGenesis ext config store env (rootKeysAt store (emittedAt env)) subjectKey
            (initialPlan env id canonicalJson receivedAt) payloads = .ok plan) ∨
        ∃ policy, policyInForce ext config store = .ok (some policy) ∧
          KindAdmits ext config store env policy (rootKeysAt store (emittedAt env)) subjectKey
            (initialPlan env id canonicalJson receivedAt) payloads plan ∧
          checkNoAuthorization env plan = .ok ()) := by
  unfold planEnvelope at planned
  simp only [bind_eq_ok] at planned
  obtain ⟨subjectKey, signed, _, valid, horizon, _, _, _, ok, evidence, policy, inForce, planned⟩ := planned
  cases policy with
  | none =>
      exact ⟨subjectKey, validateGenesis_same planned, signed, valid, ⟨ok, evidence⟩,
        Or.inl ⟨inForce, planned⟩⟩
  | some policy =>
      simp only [bind_eq_ok, pure_eq_ok] at planned
      obtain ⟨next, kind, _, unauthorized, rfl⟩ := planned
      have admits := validateKind_eq_ok kind
      exact ⟨subjectKey, admits.same, signed, valid, ⟨ok, evidence⟩,
        Or.inr ⟨policy, inForce, admits, unauthorized⟩⟩

theorem receive_eq_ok {raw : Octets} {received : Received} (opened : receive ext raw = .ok received) :
    ∃ request, ext.parseOctets raw = .ok request ∧
      readRequest request = .ok (received.env, received.payloads) ∧
      Signed.objectId ext received.env = .ok received.id ∧
      Jcs.canonicalize received.env = .ok received.canonicalJson := by
  unfold receive at opened
  simp only [bind_eq_ok, pure_eq_ok] at opened
  obtain ⟨request, parsed, ⟨env, payloads⟩, read, id, hashed, canonicalJson, canonical, rfl⟩ := opened
  exact ⟨request, parsed, read, hashed, canonical⟩

theorem assess_admitted {raw : Octets} {received : Received} {receivedAt : String}
    {validated : Validated} (opened : receive ext raw = .ok received)
    (assessed : assess ext config store received receivedAt = .ok validated) :
    (∃ subjectKey payloads,
      Admitted ext config store raw receivedAt validated.plan subjectKey payloads) ∧
      validated.claims = {
        stream := some validated.plan.stream
        seq := some validated.plan.seq
        kind := some ((validated.plan.envelope.getStr "kind").getD "") } := by
  obtain ⟨request, parsed, read, hashed, canonical⟩ := receive_eq_ok opened
  obtain ⟨env, payloads, id, canonicalJson⟩ := received
  unfold assess at assessed
  simp only [bind_eq_ok, pure_eq_ok] at assessed
  obtain ⟨plan, planned, rfl⟩ := assessed
  obtain ⟨subjectKey, same, signed, valid, evidence, rule⟩ := planEnvelope_eq_ok planned
  have envelope : plan.envelope = env := same.envelope
  have hasId : plan.id = id := same.id
  have form : plan.canonicalJson = canonicalJson := same.canonicalJson
  have at_ : plan.receivedAt = receivedAt := same.receivedAt
  subst envelope hasId form at_
  obtain ⟨map, kind, spec, known⟩ := Envelope.validate_eq_ok valid
  have tree : plan.canonicalJson = { tree := plan.envelope } :=
    Except.ok.inj (canonical.symm.trans known.canonical)
  refine ⟨⟨subjectKey, payloads, ⟨request, parsed, read⟩, hashed, tree, rfl, same.streamKind,
    signed, valid, evidence, ?_⟩, rfl⟩
  rcases rule with ⟨unpublished, genesis⟩ | ⟨policy, inForce, admits, unauthorized⟩
  · exact .genesis unpublished genesis
  · exact .inForce policy inForce admits unauthorized

/-- What validation admits is what the bytes of the request carry. -/
theorem Admitted.of_received {raw : Octets} {receivedAt : String} {plan : AppendPlan}
    {subjectKey : KeyId} {payloads : List Value} {received : Received}
    (admitted : Admitted ext config store raw receivedAt plan subjectKey payloads)
    (opened : receive ext raw = .ok received) : plan.envelope = received.env ∧ plan.id = received.id := by
  obtain ⟨parsed, isParsed, isRead⟩ := admitted.request
  obtain ⟨other, otherParsed, otherRead, hashed, _⟩ := receive_eq_ok opened
  rw [isParsed] at otherParsed
  cases otherParsed
  rw [isRead] at otherRead
  have env : plan.envelope = received.env := congrArg Prod.fst (Except.ok.inj otherRead)
  have known := admitted.hasId
  rw [env, hashed] at known
  exact ⟨env, (Except.ok.inj known).symm⟩

theorem validate_eq_idempotent {raw : Octets} {receivedAt : String} {appended : Appended}
    (known : validate ext config store raw receivedAt = .ok (.idempotent appended)) :
    ∃ received row, receive ext raw = .ok received ∧ store.envelopeById received.id = some row := by
  unfold validate at known
  simp only [bind_eq_ok] at known
  obtain ⟨received, opened, known⟩ := known
  unfold resubmitted at known
  cases held : store.envelopeById received.id with
  | some existing => exact ⟨received, existing, opened, held⟩
  | none =>
      rw [held] at known
      simp only [Option.map_none, bind_eq_ok, pure_eq_ok] at known
      obtain ⟨_, _, other⟩ := known
      cases other

theorem validate_eq_fresh {raw : Octets} {receivedAt : String} {validated : Validated}
    (accepted : validate ext config store raw receivedAt = .ok (.fresh validated)) :
    ∃ received, receive ext raw = .ok received ∧ store.envelopeById received.id = none ∧
      assess ext config store received receivedAt = .ok validated := by
  unfold validate at accepted
  simp only [bind_eq_ok] at accepted
  obtain ⟨received, opened, accepted⟩ := accepted
  refine ⟨received, opened, ?_⟩
  unfold resubmitted at accepted
  cases held : store.envelopeById received.id with
  | some existing =>
      rw [held] at accepted
      cases accepted
  | none =>
      rw [held] at accepted
      simp only [Option.map_none, bind_eq_ok, pure_eq_ok] at accepted
      obtain ⟨other, assessed, same⟩ := accepted
      cases same
      exact ⟨rfl, assessed⟩

theorem validate_fresh {raw : Octets} {receivedAt : String} {validated : Validated}
    (accepted : validate ext config store raw receivedAt = .ok (.fresh validated)) :
    (∃ subjectKey payloads,
      Admitted ext config store raw receivedAt validated.plan subjectKey payloads) ∧
      validated.claims = {
        stream := some validated.plan.stream
        seq := some validated.plan.seq
        kind := some ((validated.plan.envelope.getStr "kind").getD "") } := by
  obtain ⟨received, opened, _, assessed⟩ := validate_eq_fresh accepted
  exact assess_admitted opened assessed

/-- Which rule wrote the mandate, the revocation or the checkpoint of a plan, if any did. -/
inductive Ceremony (ext : External) (config : Config) (store : Store) (plan : AppendPlan) : Prop where
  | genesisMandate (valid : validateGenesisMandate ext config plan.envelope
      (rootKeysAt store (emittedAt plan.envelope)) (planOf plan) = .ok plan)
  | grant (policy : Policy) (valid : validateMandateGrant ext store plan.envelope policy
      (rootKeysAt store (emittedAt plan.envelope)) (planOf plan) = .ok plan)
  | revocation (valid : validateRevocation ext store plan.envelope
      (rootKeysAt store (emittedAt plan.envelope)) (planOf plan) = .ok plan)
  | checkpoint (valid : validateCheckpoint ext config store plan.envelope (planOf plan) = .ok plan)
  | other (mandate : plan.projections.mandate = none) (revocation : plan.projections.revocation = none)
      (checkpoint : plan.projections.checkpoint = none)

theorem Ceremony.of_same {plan : AppendPlan}
    (same : SameOther (planOf plan).projections plan.projections) : Ceremony ext config store plan :=
  .other same.mandate same.revocation same.checkpoint

theorem Ruled.ceremony {plan : AppendPlan} {subjectKey : KeyId} {payloads : List Value}
    (rule : Ruled ext config store plan subjectKey payloads) : Ceremony ext config store plan := by
  cases rule with
  | genesis unpublished valid =>
      rcases validateGenesis_cases valid with ⟨_, ⟨_, _, valid⟩ | ⟨_, _, valid⟩⟩
      · exact .genesisMandate valid
      · obtain ⟨changed, _, _, change, _, same⟩ := validateGenesisPolicy_eq_ok valid
        obtain ⟨_, _, _, _, _, _, _, _, rfl⟩ := validatePolicyChange_eq_ok change
        rw [same]
        exact .other rfl rfl rfl
  | inForce policy published admits unauthorized =>
      cases admits with
      | effect kind valid => exact .of_same (validateEffectKind_other valid)
      | cognition kind valid =>
          obtain ⟨_, _, _, _, _, same, _⟩ := validateCognition_eq_ok valid
          exact .of_same (same ▸ ⟨rfl, rfl, rfl, rfl⟩)
      | signal kind valid =>
          have same := (collectPayloads_same valid).2.1
          exact .of_same (same ▸ ⟨rfl, rfl, rfl, rfl⟩)
      | mandate kind valid => exact .grant policy valid
      | revocation kind valid => exact .revocation valid
      | gateDecision kind valid =>
          obtain ⟨row, same⟩ := validateGateDecision_eq_ok valid
          rw [same]
          exact .other rfl rfl rfl
      | checkpoint kind valid => exact .checkpoint valid

namespace Ceremony

variable {plan : AppendPlan} {id : String}

/-- A mandate is written by one of the two rules for grants. -/
theorem grants (ceremony : Ceremony ext config store plan) {mandate : Value}
    (projected : plan.projections.mandate = some (id, mandate)) :
    validateGenesisMandate ext config plan.envelope (rootKeysAt store (emittedAt plan.envelope)) (planOf plan) =
        .ok plan ∨
      ∃ policy, validateMandateGrant ext store plan.envelope policy
        (rootKeysAt store (emittedAt plan.envelope)) (planOf plan) = .ok plan := by
  cases ceremony with
  | genesisMandate valid => exact .inl valid
  | grant policy valid => exact .inr ⟨policy, valid⟩
  | revocation valid =>
      obtain ⟨_, _, _, _, _, _, _, _, _, _, same⟩ := validateRevocation_eq_ok valid
      rw [same] at projected
      cases projected
  | checkpoint valid =>
      obtain ⟨_, _, _, _, _, _, _, _, same⟩ := validateCheckpoint_eq_ok valid
      rw [same] at projected
      cases projected
  | other none _ _ =>
      rw [none] at projected
      cases projected

theorem revokes (ceremony : Ceremony ext config store plan) {object : Value}
    (projected : plan.projections.revocation = some (id, object)) :
    validateRevocation ext store plan.envelope (rootKeysAt store (emittedAt plan.envelope)) (planOf plan) =
      .ok plan := by
  cases ceremony with
  | genesisMandate valid =>
      obtain ⟨_, _, _, _, _, _, same⟩ := validateGenesisMandate_eq_ok valid
      rw [same] at projected
      cases projected
  | grant policy valid =>
      obtain ⟨_, _, _, _, _, _, _, _, same⟩ := validateMandateGrant_eq_ok valid
      rw [same] at projected
      cases projected
  | revocation valid => exact valid
  | checkpoint valid =>
      obtain ⟨_, _, _, _, _, _, _, _, same⟩ := validateCheckpoint_eq_ok valid
      rw [same] at projected
      cases projected
  | other _ none _ =>
      rw [none] at projected
      cases projected

theorem attests (ceremony : Ceremony ext config store plan) {claim : CheckpointClaim}
    (projected : plan.projections.checkpoint = some claim) :
    validateCheckpoint ext config store plan.envelope (planOf plan) = .ok plan := by
  cases ceremony with
  | genesisMandate valid =>
      obtain ⟨_, _, _, _, _, _, same⟩ := validateGenesisMandate_eq_ok valid
      rw [same] at projected
      cases projected
  | grant policy valid =>
      obtain ⟨_, _, _, _, _, _, _, _, same⟩ := validateMandateGrant_eq_ok valid
      rw [same] at projected
      cases projected
  | revocation valid =>
      obtain ⟨_, _, _, _, _, _, _, _, _, _, same⟩ := validateRevocation_eq_ok valid
      rw [same] at projected
      cases projected
  | checkpoint valid => exact valid
  | other _ _ none =>
      rw [none] at projected
      cases projected

end Ceremony

end Ingest

end Stozher
