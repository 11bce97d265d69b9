import Stozher.ChainShape
import Stozher.Classification
import Stozher.RootApproval
import Stozher.SweepCover

namespace Stozher

open Library Ingest

variable {ext : External} {config : Config}

namespace Store

variable (store : Store)

/-- A version resolves forever once it is published. -/
def policyVersion (version : String) : Option Value :=
  (store.policies.find? fun row => row.policyVersion == version).map fun row => row.documentJson.tree

def getPolicyVersion (version : String) : Result Value :=
  okOr (store.policyVersion version)
    (err "policy-not-published" "that policy version has never been published here")

/-- An envelope that stands before a place in the audit published the version. -/
def PublishedBefore (place : Nat) (version : String) : Prop :=
  ∃ policy ∈ store.policies, policy.policyVersion = version ∧
    ∃ earlier < place, (store.envelopes[earlier]?).map EnvelopeRow.id = some policy.envelopeId

/-- Every envelope of an effect kind after the first policy names a version that was published by the time it was
accepted, and whose document is served. -/
def VersionsResolve : Prop :=
  ∀ place row, store.envelopes[place]? = some row → row.kind ∈ effectKinds →
    (∃ first, store.PublishedBefore place first) →
    ∃ version, row.canonicalJson.tree.getStr "policy-version" = some version ∧
      store.PublishedBefore (place + 1) version ∧
      ∃ document, store.getPolicyVersion version = .ok document ∧ document.getStr "policy-version" = some version

/-- What is to be appended under a policy names a version that is published, or that it publishes itself. -/
def CitesPublished (plan : AppendPlan) : Prop :=
  (plan.envelope.getStr "kind").getD "" ∈ effectKinds → store.policies ≠ [] →
    ∃ version, plan.envelope.getStr "policy-version" = some version ∧
      (store.policyVersionExists version = true ∨ plan.projections.policy.map Prod.fst = some version)

/-- Every policy was published by an envelope of the audit, as the version its document says it is. -/
def PoliciesPublished : Prop :=
  ∀ policy ∈ store.policies, (∃ row ∈ store.envelopes, row.id = policy.envelopeId) ∧
    policy.documentJson.tree.getStr "policy-version" = some policy.policyVersion

end Store

theorem Policy.parse_version {document : Value} {policyKey : KeyId} {policy : Policy}
    (parsed : Policy.parse ext document policyKey = .ok policy) :
    document.getStr "policy-version" = some policy.version := by
  obtain ⟨map, isMap, header⟩ := (Policy.parse_parsed parsed).header
  unfold Policy.validateHeader Policy.stringMember at header
  simp only [bind_eq_ok, okOr_eq_ok] at header
  obtain ⟨named, found, _, _, _, _, _, _, _, _, _, _, _, _, _, _, last⟩ := header
  have same : policy.version = named := by
    split at last
    · simp only [bind_eq_ok, pure_eq_ok] at last
      obtain ⟨_, _, _, _, same⟩ := last
      exact same.symm
    · exact (Except.ok.inj last).symm
  rw [Value.getStr_of_asObject isMap, found, same]

namespace Ingest

variable {store : Store} {plan : AppendPlan} {subjectKey : KeyId} {payloads : List Value}

/-- An admitted envelope publishes a policy as the version its document says it is. -/
theorem Admitted.publishes {raw : Octets} {receivedAt version hash : String} {document : Value}
    (admitted : Admitted ext config store raw receivedAt plan subjectKey payloads)
    (projected : plan.projections.policy = some (version, document, hash)) :
    document.getStr "policy-version" = some version := by
  cases admitted.rule with
  | genesis unpublished valid =>
      rcases validateGenesis_cases valid with ⟨_, ⟨_, _, grants⟩ | ⟨_, _, publishes⟩⟩
      · obtain ⟨_, _, _, _, _, _, same⟩ := validateGenesisMandate_eq_ok grants
        rw [same] at projected
        cases projected
      · obtain ⟨changed, _, _, change, _, same⟩ := validateGenesisPolicy_eq_ok publishes
        obtain ⟨_, _, incoming, _, _, _, parsed, _, rfl⟩ := validatePolicyChange_eq_ok change
        rw [same] at projected
        cases projected
        exact Policy.parse_version parsed
  | inForce policy inForce admits unauthorized =>
      have published : policyInForce ext config store ≠ .ok none := by
        rw [inForce]
        intro same
        cases same
      have changes : changesPermissions plan.projections := by
        left
        rw [projected]
        rfl
      obtain ⟨_, _, _, _, _, _, determined⟩ := admitted.approved published changes
      obtain ⟨_, incoming, _, _, parsed, rfl, _⟩ := determined.policy _ _ _ projected
      exact Policy.parse_version parsed

end Ingest

namespace Store

variable {store next : Store} {plan : AppendPlan} {version : String}

/-- The policies of the store after an append, by version. -/
theorem versionExists_append (appends : Appends store plan next) : next.policyVersionExists version = true ↔
    store.policyVersionExists version = true ∨ plan.projections.policy.map Prod.fst = some version := by
  obtain ⟨rows, policies, written, some_⟩ := appends.policies
  unfold policyVersionExists
  rw [policies, List.any_append, Bool.or_eq_true]
  apply or_congr_right
  rw [List.any_eq_true]
  constructor
  · rintro ⟨row, member, same⟩
    obtain ⟨document, writes⟩ := written row member
    rw [writes.projected, Option.map_some, beq_iff_eq.mp same]
  · intro projected
    have isSome_ : plan.projections.policy.isSome = true := by
      rw [← Option.isSome_map, projected]
      rfl
    obtain ⟨row, member⟩ := List.exists_mem_of_ne_nil rows (some_ isSome_)
    obtain ⟨document, writes⟩ := written row member
    rw [writes.projected, Option.map_some, Option.some.injEq] at projected
    exact ⟨row, member, beq_iff_eq.mpr projected⟩

/-- What was published before a place stays so. -/
theorem publishedBefore_append (appends : Appends store plan next) {place : Nat}
    (inside : place ≤ store.envelopes.length) :
    next.PublishedBefore place version ↔ store.PublishedBefore place version := by
  obtain ⟨row, built, _, apart, envelopes⟩ := appends.envelopes
  obtain ⟨rows, policies, written, _⟩ := appends.policies
  have held : ∀ earlier < place, next.envelopes[earlier]? = store.envelopes[earlier]? := by
    intro earlier before
    rw [envelopes]
    exact List.getElem?_append_left (lt_of_lt_of_le before inside)
  unfold PublishedBefore
  constructor
  · rintro ⟨policy, member, isVersion, earlier, before, publisher⟩
    rw [held earlier before] at publisher
    rw [policies] at member
    rcases List.mem_append.mp member with old | new
    · exact ⟨policy, old, isVersion, earlier, before, publisher⟩
    · exfalso
      obtain ⟨other, found, isId⟩ := Option.map_eq_some_iff.mp publisher
      obtain ⟨document, writes⟩ := written policy new
      have id := (envelopeRow_eq_ok built).id
      exact (apart other (List.mem_of_getElem? found)).2 (isId.trans (writes.envelope.trans id.symm))
  · rintro ⟨policy, member, isVersion, earlier, before, publisher⟩
    refine ⟨policy, ?_, isVersion, earlier, before, ?_⟩
    · rw [policies]
      exact List.mem_append_left _ member
    · rw [held earlier before]
      exact publisher

/-- Every version that exists was published before the end of the audit. -/
theorem publishedBefore_length (published : store.PoliciesPublished) :
    store.PublishedBefore store.envelopes.length version ↔ store.policyVersionExists version = true := by
  unfold PublishedBefore policyVersionExists
  rw [List.any_eq_true]
  constructor
  · rintro ⟨policy, member, isVersion, _⟩
    exact ⟨policy, member, beq_iff_eq.mpr isVersion⟩
  · rintro ⟨policy, member, isVersion⟩
    obtain ⟨⟨row, listed, isId⟩, _⟩ := published policy member
    obtain ⟨earlier, found⟩ := List.mem_iff_getElem?.mp listed
    refine ⟨policy, member, beq_iff_eq.mp isVersion, earlier, (List.getElem?_eq_some_iff.mp found).1, ?_⟩
    rw [found, ← isId]
    rfl

/-- What exists is served, as the document of that version. -/
theorem getPolicyVersion_of_exists (published : store.PoliciesPublished)
    (exists_ : store.policyVersionExists version = true) :
    ∃ document, store.getPolicyVersion version = .ok document ∧
      document.getStr "policy-version" = some version := by
  unfold policyVersionExists at exists_
  obtain ⟨policy, found⟩ := Option.isSome_iff_exists.mp (List.find?_isSome.mpr (List.any_eq_true.mp exists_))
  have isVersion : policy.policyVersion = version :=
    beq_iff_eq.mp (@List.find?_some PolicyRow (fun row => row.policyVersion == version) _ _ found)
  refine ⟨policy.documentJson.tree, ?_, ?_⟩
  · unfold getPolicyVersion policyVersion
    rw [found]
    rfl
  · rw [← isVersion]
    exact (published policy (List.mem_of_find?_eq_some found)).2

theorem exists_of_publishedBefore {place : Nat} (published : store.PublishedBefore place version) :
    store.policyVersionExists version = true := by
  obtain ⟨policy, member, isVersion, _⟩ := published
  exact List.any_eq_true.mpr ⟨policy, member, beq_iff_eq.mpr isVersion⟩

/-- Whatever names a published version is served its document. -/
theorem versionsResolve_iff (published : store.PoliciesPublished) : store.VersionsResolve ↔
    ∀ place row, store.envelopes[place]? = some row → row.kind ∈ effectKinds →
      (∃ first, store.PublishedBefore place first) →
      ∃ version, row.canonicalJson.tree.getStr "policy-version" = some version ∧
        store.PublishedBefore (place + 1) version := by
  constructor
  · intro resolves place row found kind governed
    obtain ⟨version, named, before, _⟩ := resolves place row found kind governed
    exact ⟨version, named, before⟩
  · intro names place row found kind governed
    obtain ⟨version, named, before⟩ := names place row found kind governed
    exact ⟨version, named, before, getPolicyVersion_of_exists published (exists_of_publishedBefore before)⟩

theorem policiesPublished_append (published : store.PoliciesPublished) (appends : Appends store plan next)
    (names : ∀ version document hash, plan.projections.policy = some (version, document, hash) →
      document.getStr "policy-version" = some version) : next.PoliciesPublished := by
  obtain ⟨row, built, _, _, envelopes⟩ := appends.envelopes
  obtain ⟨rows, policies, written, _⟩ := appends.policies
  unfold PoliciesPublished
  rw [policies, envelopes]
  intro policy member
  rcases List.mem_append.mp member with old | new
  · obtain ⟨⟨publisher, listed, isId⟩, isVersion⟩ := published policy old
    exact ⟨⟨publisher, List.mem_append_left _ listed, isId⟩, isVersion⟩
  · obtain ⟨document, writes⟩ := written policy new
    refine ⟨⟨row, List.mem_append_right _ List.mem_cons_self, ?_⟩, ?_⟩
    · exact (envelopeRow_eq_ok built).id.trans writes.envelope.symm
    · have canonical := writes.document
      unfold Jcs.canonicalize at canonical
      simp only [bind_eq_ok, pure_eq_ok] at canonical
      obtain ⟨tree, writesTree, same⟩ := canonical
      rw [← same]
      apply Sweep.Head.getStr_of_writeValue "policy-version" writesTree
      exact Value.getStr_eq_some (names _ _ _ writes.projected)

/-- After an append every version resolves exactly when they did before it and the envelope names one. -/
theorem versionsResolve_append (published : store.PoliciesPublished) (later : next.PoliciesPublished)
    (appends : Appends store plan next) (canonical : plan.canonicalJson = { tree := plan.envelope }) :
    next.VersionsResolve ↔ store.VersionsResolve ∧ store.CitesPublished plan := by
  rw [versionsResolve_iff published, versionsResolve_iff later]
  obtain ⟨row, built, _, _, envelopes⟩ := appends.envelopes
  have columns := envelopeRow_columns built
  have text : row.canonicalJson.tree = plan.envelope := by
    rw [(envelopeRow_eq_ok built).canonicalJson, canonical]
  have size : next.envelopes.length = store.envelopes.length + 1 := by
    rw [envelopes, List.length_append, List.length_singleton]
  have last : next.envelopes[store.envelopes.length]? = some row := by
    rw [envelopes]
    exact List.getElem?_concat_length
  have whole : ∀ version, next.PublishedBefore (store.envelopes.length + 1) version ↔
      store.policyVersionExists version = true ∨ plan.projections.policy.map Prod.fst = some version := by
    intro version
    rw [← size, publishedBefore_length later, versionExists_append appends]
  have governed : (∃ first, next.PublishedBefore store.envelopes.length first) ↔ store.policies ≠ [] := by
    constructor
    · rintro ⟨first, before⟩ none_
      obtain ⟨policy, member, _⟩ := (publishedBefore_append appends (le_refl _)).mp before
      rw [none_] at member
      cases member
    · intro some_
      obtain ⟨policy, member⟩ := List.exists_mem_of_ne_nil _ some_
      refine ⟨policy.policyVersion, (publishedBefore_append appends (le_refl _)).mpr ?_⟩
      exact (publishedBefore_length published).mpr (List.any_eq_true.mpr ⟨policy, member, beq_self_eq_true _⟩)
  constructor
  · intro resolves
    constructor
    · intro place other found kind first
      have inside := (List.getElem?_eq_some_iff.mp found).1
      have still : next.envelopes[place]? = some other := by
        rw [envelopes, List.getElem?_append_left inside]
        exact found
      have before : ∃ first, next.PublishedBefore place first := by
        obtain ⟨version, known⟩ := first
        exact ⟨version, (publishedBefore_append appends (Nat.le_of_lt inside)).mpr known⟩
      obtain ⟨version, named, known⟩ := resolves place other still kind before
      exact ⟨version, named, (publishedBefore_append appends inside).mp known⟩
    · intro kind some_
      have isKind : row.kind ∈ effectKinds := by
        rw [columns.kind] at kind
        exact kind
      obtain ⟨version, named, known⟩ := resolves _ row last isKind (governed.mpr some_)
      rw [text] at named
      exact ⟨version, named, (whole version).mp known⟩
  · rintro ⟨resolves, cites⟩ place other found kind first
    have inside := (List.getElem?_eq_some_iff.mp found).1
    rw [size] at inside
    rcases Nat.lt_succ_iff_lt_or_eq.mp inside with old | rfl
    · rw [envelopes, List.getElem?_append_left old] at found
      have before : ∃ first, store.PublishedBefore place first := by
        obtain ⟨version, known⟩ := first
        exact ⟨version, (publishedBefore_append appends (Nat.le_of_lt old)).mp known⟩
      obtain ⟨version, named, known⟩ := resolves place other found kind before
      exact ⟨version, named, (publishedBefore_append appends old).mpr known⟩
    · rw [last, Option.some.injEq] at found
      subst found
      have isKind : (plan.envelope.getStr "kind").getD "" ∈ effectKinds := by
        rw [columns.kind]
        exact kind
      obtain ⟨version, named, known⟩ := cites isKind (governed.mp first)
      rw [← text] at named
      exact ⟨version, named, (whole version).mpr known⟩

end Store

namespace World

/-- An envelope that is taken under a policy names a version that is published. -/
def CitesPublished (world : World) (action : Action) : Prop :=
  ∀ index request snapshot validated, action = .perform index →
    world.tasks[index]? = some (.append request snapshot validated) →
    world.store.envelopeById validated.plan.id = none → isOk (world.store.append validated.plan) = true →
    world.store.CitesPublished validated.plan

variable {world : World} {action : Action}

theorem policiesPublished (reached : (kernel ext config).Reachable world) : world.store.PoliciesPublished := by
  refine invariant ext config (fun world => world.store.PoliciesPublished) ?_ ?_ reached
  · intro policy member
    cases member
  · intro world action next traced published step
    cases step with
    | quiet store _ _ =>
        unfold Store.PoliciesPublished
        rw [store.envelopes.1, store.envelopes.2.2.2.2.1]
        exact published
    | appends request snapshot validated waiting fresh store _ _ _ =>
        obtain ⟨_, _, admitted⟩ := (traced.tasks _ _ _ waiting).admitted
        exact Store.policiesPublished_append published store fun _ _ _ => admitted.publishes

theorem citesPublished_iff (reached : (kernel ext config).Reachable world) (resolves : world.store.VersionsResolve) :
    CitesPublished world action ↔ (step ext config world action).store.VersionsResolve := by
  have published := policiesPublished reached
  have later := policiesPublished (reached.step action)
  apply @appended_iff ext config world action (fun store => store.VersionsResolve) world.store.CitesPublished
    (traced reached)
  · intro quiet
    unfold Store.VersionsResolve Store.PublishedBefore Store.getPolicyVersion Store.policyVersion
    rw [quiet.envelopes.1, quiet.envelopes.2.2.2.2.1]
    exact resolves
  · intro request snapshot plan origin appends
    obtain ⟨_, _, admitted⟩ := origin.admitted
    have exactly := Store.versionsResolve_append published later appends admitted.canonical
    exact (and_iff_right resolves).symm.trans exactly.symm

end World

/-- Every version the audit names resolves exactly when each envelope that is taken names a published one. -/
theorem versions_resolve_iff (actions : List Action) :
    (kernel ext config).EachStep World.initial actions World.CitesPublished ↔
      (kernel ext config).EachState World.initial actions fun world => world.store.VersionsResolve := by
  refine System.eachStep_iff_states (fun _ _ reached resolves => World.citesPublished_iff reached resolves)
    (.of_start rfl) ?_ actions
  intro place row found
  cases found

end Stozher

namespace Stozher.Deployment

open Library Library.Text Ingest Recorded

/-- The agent's reads, under a policy that nobody has published. -/
def unruledDocument (sig : Members) : Value :=
  match reads opsMandate.digest noArguments.digest sig with
  | .object members => .object (members.map fun member =>
      if member.1 = "policy-version" then (member.1, .string "9") else member)
  | other => other

def unruledReads : Recorded where
  form := unruledDocument
  sealed := some (opsKey, signatureText
    0xd95626e2bda4797e65a5b1b5c7556322a9c73f948564a0704371cd6d08627f74
    0x5eea2e5c9f546d8c6df080ed1512b6f874ce39a0bee998a93dfe35655d74dd07)
  digest := hex 64 0x4562cbc236fc6462d1b880a59713bd92f7409de17ca73b5b9bf15d72672f1166

def unruledExt : External :=
  external (records ++ [unruledReads])

def unruledActions : List Action :=
  founding ++ enter (submission unruledReads.document []) nine

@[irreducible] def unruled : World :=
  (kernel unruledExt config).run .initial unruledActions

theorem run_unruled : (kernel unruledExt config).run .initial unruledActions = unruled := by
  unfold unruled
  rfl

/-- What the audit names, what is published, and by what. -/
structure UnruledSeen : Prop where
  seen : (unruled.store.envelopes.map fun row => (row.kind, row.canonicalJson.tree.getStr "policy-version"),
    unruled.store.policies.map PolicyRow.policyVersion,
    unruled.store.policies.map fun policy => some policy.envelopeId == (unruled.store.envelopes[1]?).map EnvelopeRow.id,
    refusal (unruled.store.getPolicyVersion "9")) =
      ([("mandate", none), ("policy-change", some "1"), ("aggregate", some "9")], ["1"], [true],
        some "policy-not-published")

theorem unruled_seen : UnruledSeen := by
  constructor
  decide +kernel

/-- What the kernel takes may name a policy that is not published. -/
theorem unruled_taken : ¬ ∀ actions : List Action,
    (kernel unruledExt config).EachState World.initial actions fun world => world.store.VersionsResolve := by
  intro claim
  have seen := unruled_seen.seen
  simp only [Prod.mk.injEq] at seen
  obtain ⟨rows, versions, publishers, _⟩ := seen
  have resolves : unruled.store.VersionsResolve := by
    rw [← run_unruled]
    exact claim unruledActions unruledActions [] (List.append_nil _).symm
  have third := congrArg (fun rows => rows[2]?) rows
  rw [List.getElem?_map] at third
  obtain ⟨row, found, same⟩ := Option.map_eq_some_iff.mp third
  rw [Prod.mk.injEq] at same
  obtain ⟨policy, rest, policies⟩ : ∃ policy rest, unruled.store.policies = policy :: rest := by
    cases policies : unruled.store.policies with
    | nil =>
        rw [policies] at versions
        cases versions
    | cons policy rest => exact ⟨policy, rest, rfl⟩
  have only : ∀ other ∈ unruled.store.policies, other.policyVersion = "1" := by
    intro other member
    have listed : other.policyVersion ∈ unruled.store.policies.map PolicyRow.policyVersion :=
      List.mem_map_of_mem member
    rw [versions] at listed
    exact List.mem_singleton.mp listed
  rw [policies, List.map_cons, List.cons.injEq, beq_iff_eq] at publishers
  have governed : unruled.store.PublishedBefore 2 policy.policyVersion := by
    refine ⟨policy, ?_, rfl, 1, by decide, publishers.1.symm⟩
    rw [policies]
    exact List.mem_cons_self
  have kind : row.kind ∈ effectKinds := by
    rw [same.1]
    decide
  obtain ⟨version, named, ⟨other, member, isVersion, _⟩, _⟩ := resolves 2 row found kind ⟨_, governed⟩
  rw [same.2, Option.some.injEq] at named
  rw [only other member, ← named] at isVersion
  exact absurd isVersion (by decide)

end Stozher.Deployment
