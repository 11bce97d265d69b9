import Stozher.Mandate.Agreement
import Stozher.ChainShape
import Stozher.Deployment

namespace Stozher

open Library Ingest

variable {ext : External} {config : Config}

namespace Store

variable {store : Store}

theorem mandate_of_row {id : String} {row : MandateRow} (found : store.mandateRow id = some row) :
    store.mandate id = some row.documentJson.tree := by
  unfold mandate
  rw [found, Option.map_some]

/-- A stored mandate stays what it is. -/
theorem mandate_grows {later : Store} (grows : store.Grows later) {id : String} {value : Value}
    (found : store.mandate id = some value) : later.mandate id = some value := by
  obtain ⟨rows, extended⟩ := grows.mandates
  unfold mandate mandateRow at found ⊢
  rw [← extended, List.find?_append]
  obtain ⟨row, held, tree⟩ := Option.map_eq_some_iff.mp found
  rw [held, Option.some_or, Option.map_some, tree]

/-- What an ancestry holds is what the table of mandates holds. -/
theorem ancestryFrom_get {hops : Nat} {chain : Members} {start id : String} {value : Value}
    (found : (store.ancestryFrom hops chain start).get id = some value) :
    chain.get id = some value ∨ store.mandate id = some value := by
  induction hops generalizing chain start with
  | zero => exact Or.inl found
  | succ hops ih =>
      unfold ancestryFrom at found
      split at found
      · exact Or.inl found
      · split at found
        · exact Or.inl found
        · rename_i row held
          have inserted : (chain.insert start row.documentJson.tree).get id = some value →
              chain.get id = some value ∨ store.mandate id = some value := by
            intro got
            by_cases same : start = id
            · subst same
              rw [Members.get_insert_self] at got
              exact Or.inr (got ▸ mandate_of_row held)
            · rw [Members.get_insert_of_ne same] at got
              exact Or.inl got
          dsimp only at found
          split at found
          · rcases ih found with earlier | stored
            · exact inserted earlier
            · exact Or.inr stored
          · exact inserted found

theorem mandateAncestry_get {leafRef id : String} {maxLinks : Nat} {value : Value}
    (found : (store.mandateAncestry leafRef maxLinks).get id = some value) :
    store.mandate id = some value := by
  unfold mandateAncestry at found
  rcases ancestryFrom_get found with none | stored
  · cases none
  · exact stored

/-- The mandate a stored mandate was delegated under. -/
def parentOf (store : Store) (id : String) : Option String :=
  (store.mandate id).bind (·.getStr "parent")

theorem stored_of_parentOf {id next : String} (isParent : store.parentOf id = some next) :
    ∃ value, store.mandate id = some value := by
  obtain ⟨value, stored, _⟩ := Option.bind_eq_some_iff.mp isParent
  exact ⟨value, stored⟩

theorem parentOf_grows {later : Store} (grows : store.Grows later) {id : String} {mandate : Value}
    (found : store.mandate id = some mandate) : later.parentOf id = store.parentOf id := by
  unfold parentOf
  rw [mandate_grows grows found, found]

/-- The mandate itself, or one it was delegated beneath. -/
def Beneath (store : Store) (id ancestor : String) : Prop :=
  Relation.ReflTransGen (Above store.parentOf) id ancestor

/-- A key granted a mandate or one it was delegated beneath. -/
def GrantedBy (store : Store) (id : String) (key : KeyId) : Prop :=
  ∃ ancestor mandate, store.Beneath id ancestor ∧ store.mandate ancestor = some mandate ∧
    Mandate.keyAt mandate "grantor" = .ok key

/-- A revocation on record, as the walk reads it. -/
structure Revokes (ext : External) (store : Store) (target revokedAt : String) (signer : KeyId) :
    Prop where
  row : ∃ row ∈ store.revocations, row.revokes = target ∧
    Signed.verifySignedObject ext row.documentJson.tree = .ok signer ∧
    row.documentJson.tree.getStr "revokes" = some target ∧
    row.documentJson.tree.getStr "revoked-at" = some revokedAt

/-- Nobody dated the revocation before the issue of the mandate. -/
def IssuedBefore (store : Store) (target revokedAt : String) : Prop :=
  ∀ mandate issuedAt, store.mandate target = some mandate →
    mandate.getStr "issued-at" = some issuedAt → issuedAt ≤ revokedAt

/-- An accepted walk of a fetched ancestry goes over stored mandates, each the parent of the one before it. -/
theorem walk_stored {leafRef at_ : String} {roots : List KeyId} {subjectKey : KeyId} {depth : Nat}
    {request : Mandate.Scoped} {result : Mandate.MandateChainOk}
    (walked : Mandate.walk ext (walkParams store leafRef roots subjectKey at_ depth).1 leafRef request
      (walkParams store leafRef roots subjectKey at_ depth).2 = .ok result) : ∃ leaf rest,
    Mandate.SoundChain ext (store.mandateAncestry leafRef depth) (walkParams store leafRef roots subjectKey at_ depth).2
        request leafRef result.humanRoot ((leafRef, leaf) :: rest) ∧
      (∀ link ∈ ((leafRef, leaf) :: rest).map Prod.fst, ∃ value,
        (store.mandateAncestry leafRef depth).get link = some value) ∧
      Ascends store.parentOf (((leafRef, leaf) :: rest).map Prod.fst) := by
  obtain ⟨path, sound, _⟩ := Mandate.walk_sound walked
  obtain ⟨leaf, starts, _⟩ := sound.leaf
  obtain ⟨rest, rfl⟩ : ∃ rest, path = (leafRef, leaf) :: rest := by
    cases path with
    | nil => cases starts
    | cons first rest =>
        cases starts
        exact ⟨rest, rfl⟩
  have held : ∀ link ∈ ((leafRef, leaf) :: rest).map Prod.fst, ∃ value,
      (store.mandateAncestry leafRef depth).get link = some value := by
    intro link inside
    obtain ⟨entry, isLink, rfl⟩ := List.mem_map.mp inside
    exact ⟨entry.2, (sound.links entry isLink).stored⟩
  have parents : ∀ link ∈ ((leafRef, leaf) :: rest).map Prod.fst,
      store.parentOf link = Mandate.parentOf (store.mandateAncestry leafRef depth) link := by
    intro link inside
    obtain ⟨value, found⟩ := held link inside
    unfold parentOf Mandate.parentOf
    rw [found, mandateAncestry_get found]
  exact ⟨leaf, rest, sound, held, sound.ascends.congr parents⟩

/-- A walk that is accepted takes place before every revocation above it that counts. -/
theorem walk_before_revocation {leafRef at_ : String} {roots : List KeyId} {subjectKey : KeyId}
    {depth : Nat} {request : Mandate.Scoped} {result : Mandate.MandateChainOk}
    (walked : Mandate.walk ext (walkParams store leafRef roots subjectKey at_ depth).1 leafRef request
      (walkParams store leafRef roots subjectKey at_ depth).2 = .ok result)
    {target revokedAt : String} {signer : KeyId} (revokes : Revokes ext store target revokedAt signer)
    (beneath : store.Beneath leafRef target) (stands : signer ∈ roots ∨ store.GrantedBy target signer)
    (issued : store.IssuedBefore target revokedAt) : at_ < revokedAt := by
  obtain ⟨row, member, named, signed, hasTarget, hasInstant⟩ := revokes.row
  obtain ⟨leaf, rest, sound, held, ascends⟩ := walk_stored walked
  have onPath : target ∈ ((leafRef, leaf) :: rest).map Prod.fst := ascends.mem_of_above beneath
  obtain ⟨⟨id, mandate⟩, isLink, sameId⟩ := List.mem_map.mp onPath
  dsimp only at sameId
  subst sameId
  have link := sound.links _ isLink
  have stored : (store.mandateAncestry leafRef depth).get id = some mandate := link.stored
  have counts : Mandate.verifyRevocation ext (store.mandateAncestry leafRef depth)
      row.documentJson.tree roots = .ok () := by
    have authorized : Mandate.revokerIsAuthorized (store.mandateAncestry leafRef depth) id signer
        roots = true := by
      refine Mandate.revokerIsAuthorized_of_ascends sound.ascends held onPath ?_
      rcases stands with root | ⟨ancestor, granted, above, inTable, grantor⟩
      · exact Or.inl root
      · obtain ⟨before, after, split⟩ := List.append_of_mem onPath
        have tail : Ascends store.parentOf (id :: after) := ascends.suffix ⟨before, split.symm⟩
        have inside : ancestor ∈ ((leafRef, leaf) :: rest).map Prod.fst := by
          rw [split]
          exact List.mem_append_right _ (tail.mem_of_above above)
        obtain ⟨value, found⟩ := held ancestor inside
        have same := mandateAncestry_get found
        rw [inTable] at same
        cases same
        have within : Ascends (Mandate.parentOf (store.mandateAncestry leafRef depth)) (id :: after) :=
          sound.ascends.suffix ⟨before, split.symm⟩
        exact Or.inr ⟨ancestor, granted, within.above_of_mem (tail.mem_of_above above), found, grantor⟩
    have forward : Mandate.backdated (store.mandateAncestry leafRef depth) id revokedAt = false := by
      unfold Mandate.backdated
      rw [stored, Option.bind_some]
      cases hasIssue : mandate.getStr "issued-at" with
      | none => rfl
      | some issuedAt =>
          exact decide_eq_false (not_lt.mpr (issued mandate issuedAt (mandateAncestry_get stored) hasIssue))
    unfold Mandate.verifyRevocation
    simp [signed, hasTarget, hasInstant, okOr, authorized, forward, require]
  refine link.unrevoked row.documentJson.tree ?_ counts hasTarget revokedAt hasInstant
  show row.documentJson.tree ∈ store.revocationsTargeting (store.mandateAncestry leafRef depth).keys
  unfold revocationsTargeting
  rw [List.mem_flatMap]
  refine ⟨id, Mandate.mem_keys_of_get stored, List.mem_map_of_mem ?_⟩
  exact List.mem_filter.mpr ⟨member, by simp [named]⟩

end Store

namespace Ingest

variable {store : Store} {env : Value} {policy : Policy} {roots : List KeyId} {subjectKey : KeyId}

theorem effectRequests_ne_nil {requests : List (String × String)}
    (requested : effectRequests env = .ok requests) : requests ≠ [] := by
  unfold effectRequests at requested
  split at requested
  · simp only [bind_eq_ok, require_eq_ok, pure_eq_ok] at requested
    obtain ⟨byAction, _, _, nonempty, rfl⟩ := requested
    cases byAction with
    | nil => cases nonempty
    | cons first rest => simp [Members.keys]
  · simp only [bind_eq_ok, pure_eq_ok] at requested
    obtain ⟨_, _, _, _, rfl⟩ := requested
    simp

/-- The mandate an envelope cites, walked at the instant the envelope names. -/
def Walks (ext : External) (store : Store) (env : Value) (roots : List KeyId) (subjectKey : KeyId) :
    Prop :=
  ∃ leafRef depth request result, env.getStr "mandate-ref" = some leafRef ∧
    Mandate.walk ext (walkParams store leafRef roots subjectKey (emittedAt env) depth).1 leafRef request
      (walkParams store leafRef roots subjectKey (emittedAt env) depth).2 = .ok result

theorem walkEffect_walks {requests : List (String × String)} {humanRoot : Option String}
    (requested : requests ≠ [])
    (walked : walkEffect ext store env policy roots subjectKey requests = .ok humanRoot) :
    Walks ext store env roots subjectKey := by
  unfold walkEffect mandateRefOf at walked
  simp only [bind_eq_ok, okOr_eq_ok] at walked
  obtain ⟨leafRef, cited, walked⟩ := walked
  cases requests with
  | nil => exact absurd rfl requested
  | cons first rest =>
      unfold walkRequests at walked
      rw [foldChecked_cons, bind_eq_ok] at walked
      obtain ⟨_, once, _⟩ := walked
      simp only [bind_eq_ok] at once
      obtain ⟨result, verified, _⟩ := once
      exact ⟨leafRef, policy.maxDelegationDepth, _, result, cited, verified⟩

theorem walkMandateForResource_walks {resource humanRoot : String}
    (walked : walkMandateForResource ext store env roots subjectKey (emittedAt env) policy resource =
      .ok humanRoot) : Walks ext store env roots subjectKey := by
  unfold walkMandateForResource mandateRefOf at walked
  simp only [bind_eq_ok, okOr_eq_ok] at walked
  obtain ⟨leafRef, cited, result, verified, _⟩ := walked
  exact ⟨leafRef, policy.maxDelegationDepth, _, result, cited, verified⟩

/-- The kinds that act under a mandate. -/
def actsUnderMandate (env : Value) : Prop :=
  (env.getStr "kind").getD "" ∈ effectKinds ∨ env.getStr "kind" = some "cognition"

/-- Whatever acts under a mandate has it walked before it is admitted. -/
theorem KindAdmits.walks {plan next : AppendPlan} {payloads : List Value}
    (admits : KindAdmits ext config store env policy roots subjectKey plan payloads next)
    (acts : actsUnderMandate env) : Walks ext store env roots subjectKey := by
  have distinct : ∀ kind, env.getStr "kind" = some kind → kind ∉ effectKinds → kind = "cognition" := by
    intro kind isKind other
    rcases acts with effect | cognition
    · rw [isKind] at effect
      exact absurd effect other
    · rw [isKind] at cognition
      exact Option.some.inj cognition
  cases admits with
  | effect kind valid =>
      obtain ⟨requests, _, _, humanRoot, _, _, _, requested, _, walked, _⟩ :=
        validateEffectKind_eq_ok valid
      exact walkEffect_walks (effectRequests_ne_nil requested) walked
  | cognition kind valid =>
      obtain ⟨_, _, _, walked, _⟩ := validateCognition_eq_ok valid
      exact walkMandateForResource_walks walked
  | signal kind valid => exact absurd (distinct _ kind (by decide)) (by decide)
  | mandate kind valid => exact absurd (distinct _ kind (by decide)) (by decide)
  | revocation kind valid => exact absurd (distinct _ kind (by decide)) (by decide)
  | gateDecision kind valid => exact absurd (distinct _ kind (by decide)) (by decide)
  | checkpoint kind valid => exact absurd (distinct _ kind (by decide)) (by decide)

theorem validateGenesisPolicy_walks {plan next : AppendPlan} {payloads : List Value}
    (valid : validateGenesisPolicy ext config store env roots subjectKey plan payloads = .ok next) :
    Walks ext store env roots subjectKey := by
  unfold validateGenesisPolicy walkMandateWithDepth mandateRefOf at valid
  simp only [bind_eq_ok, okOr_eq_ok] at valid
  obtain ⟨_, _, _, _, _, ⟨leafRef, cited, result, verified, _⟩, _⟩ := valid
  exact ⟨leafRef, 3, _, result, cited, verified⟩

/-- Whatever acts under a mandate has it walked, before a policy is in force and after. -/
theorem Ruled.walks {plan : AppendPlan} {payloads : List Value}
    (rule : Ruled ext config store plan subjectKey payloads) (acts : actsUnderMandate plan.envelope) :
    Walks ext store plan.envelope (rootKeysAt store (emittedAt plan.envelope)) subjectKey := by
  cases rule with
  | inForce policy published admits unauthorized => exact admits.walks acts
  | genesis unpublished valid =>
      rcases validateGenesis_cases valid with ⟨_, ⟨kind, _, valid⟩ | ⟨_, _, valid⟩⟩
      · exfalso
        rcases acts with effect | cognition
        · rw [kind] at effect
          exact absurd effect (by decide)
        · rw [kind] at cognition
          exact absurd cognition (by decide)
      · exact validateGenesisPolicy_walks valid

/-- A member of a valid envelope is its own canonical form. -/
theorem canonicalize_member (valid : Envelope.validate ext env = .ok ()) {name : String} {value : Value}
    (found : env.get name = some value) : Jcs.canonicalize value = .ok { tree := value } := by
  obtain ⟨map, kind, spec, known⟩ := Envelope.validate_eq_ok valid
  obtain ⟨path, inner⟩ := Envelope.checkNumbers_of_get known.numbers found
  exact Envelope.canonicalize_of_checked ext inner

/-- What an admitted revocation is known to be. -/
theorem Admitted.revokes {raw : Octets} {receivedAt id : String} {plan : AppendPlan}
    {payloads : List Value} {object : Value}
    (admitted : Admitted ext config store raw receivedAt plan subjectKey payloads)
    (projected : plan.projections.revocation = some (id, object)) :
    id = plan.id ∧ Jcs.canonicalize object = .ok { tree := object } ∧
      ∃ target revokedAt signer, object.getStr "revokes" = some target ∧
        object.getStr "revoked-at" = some revokedAt ∧ Signed.verifySignedObject ext object = .ok signer := by
  obtain ⟨carried, _, _, hashed, found, _, _, _, verified, isId, same⟩ :=
    validateRevocation_eq_ok (admitted.rule.ceremony.revokes projected)
  rw [same] at projected
  cases projected
  obtain ⟨target, revokedAt, hasTarget, hasInstant, counted⟩ := Mandate.counted_of_verified verified
  obtain ⟨signer, signed, _⟩ := Mandate.countedRevocation_eq_some.mp counted
  refine ⟨?_, canonicalize_member admitted.valid found, target, revokedAt, signer, hasTarget, hasInstant,
    signed⟩
  exact Except.ok.inj (isId.symm.trans admitted.hasId)

end Ingest

namespace World

variable {world : World}

/-- A revocation on record, with the accepted envelope that carried it. -/
theorem revocationRow_taken (reached : (kernel ext config).Reachable world) :
    ∀ row ∈ world.store.revocations, ∃ taken ∈ world.accepted, ∃ object,
      row.WrittenBy taken.plan object := by
  refine World.invariant ext config (fun world =>
    ∀ row ∈ world.store.revocations, ∃ taken ∈ world.accepted, ∃ object,
      row.WrittenBy taken.plan object) (by intro row member; cases member) ?_ reached
  intro world _ next known holds step row member
  have grows := step.accepted_grows
  have earlier : row ∈ world.store.revocations →
      ∃ taken ∈ next.accepted, ∃ object, row.WrittenBy taken.plan object := by
    intro before
    obtain ⟨taken, inside, written⟩ := holds row before
    exact ⟨taken, grows.subset inside, written⟩
  cases step with
  | quiet store accepted tasks =>
      rw [store.envelopes.2.2.2.2.2.2.2.1] at member
      exact earlier member
  | appends request snapshot validated waiting fresh store accepted tasks =>
      obtain ⟨rows, revocations, written, _⟩ := store.revocations
      rw [revocations] at member
      rcases List.mem_append.mp member with before | new
      · exact earlier before
      · exact ⟨_, accepted ▸ List.mem_append_right _ List.mem_cons_self, written row new⟩

/-- The document of a revocation on record is the one its envelope carried. -/
theorem revocationRow_document (reached : (kernel ext config).Reachable world) {row : RevocationRow}
    (member : row ∈ world.store.revocations) :
    row.documentJson.tree.getStr "revokes" = some row.revokes ∧
      row.documentJson.tree.getStr "revoked-at" = some row.revokedAt := by
  obtain ⟨taken, inside, object, written⟩ := revocationRow_taken reached row member
  obtain ⟨before, after, at_⟩ := (traced reached).accepted taken inside
  obtain ⟨subjectKey, payloads, admitted⟩ := at_.origin.admitted
  have form := written.document
  rw [(admitted.revokes written.projected).2.1] at form
  rw [← Except.ok.inj form]
  exact ⟨written.revokes, written.revokedAt⟩

/-- Every accepted envelope is on record. -/
theorem row_of_taken (reached : (kernel ext config).Reachable world) {taken : Accepted}
    (inside : taken ∈ world.accepted) : ∃ held ∈ world.store.envelopes, held.id = taken.plan.id := by
  obtain ⟨index, bound, found⟩ := List.mem_iff_getElem.mp inside
  have rows := (traced reached).rows
  have within : index < world.store.envelopes.length := rows.length_eq ▸ bound
  have built := List.forall₂_iff_get.mp rows
  have row := built.2 index within bound
  refine ⟨world.store.envelopes[index], List.getElem_mem within, ?_⟩
  rw [List.get_eq_getElem, List.get_eq_getElem, found] at row
  exact (Store.envelopeRow_eq_ok row).id

/-- Every revocation on record stands in an envelope on record. -/
theorem revocationRow_id (reached : (kernel ext config).Reachable world) :
    ∀ row ∈ world.store.revocations, ∃ held ∈ world.store.envelopes, held.id = row.revocationId := by
  intro row member
  obtain ⟨taken, inside, object, written⟩ := revocationRow_taken reached row member
  obtain ⟨before, after, at_⟩ := (traced reached).accepted taken inside
  obtain ⟨subjectKey, payloads, admitted⟩ := at_.origin.admitted
  obtain ⟨held, stored, same⟩ := row_of_taken reached inside
  exact ⟨held, stored, by rw [same, (admitted.revokes written.projected).1]⟩

/-- An accepted revocation of a mandate, effective at an instant, by the key that signed it. -/
structure RevocationAccepted (ext : External) (world : World) (target revokedAt : String)
    (signer : KeyId) : Prop where
  taken : ∃ taken ∈ world.accepted, ∃ id object,
    taken.plan.projections.revocation = some (id, object) ∧ object.getStr "revokes" = some target ∧
      object.getStr "revoked-at" = some revokedAt ∧ Signed.verifySignedObject ext object = .ok signer

/-- What was accepted is what every later walk reads. -/
theorem RevocationAccepted.revokes (reached : (kernel ext config).Reachable world)
    {target revokedAt : String} {signer : KeyId}
    (accepted : RevocationAccepted ext world target revokedAt signer) :
    Store.Revokes ext world.store target revokedAt signer := by
  obtain ⟨taken, member, id, object, projected, hasTarget, hasInstant, signed⟩ := accepted.taken
  obtain ⟨before, after, at_⟩ := (traced reached).accepted taken member
  obtain ⟨subjectKey, payloads, admitted⟩ := at_.origin.admitted
  obtain ⟨same, canonical, _⟩ := admitted.revokes projected
  obtain ⟨rows, revocations, written, present⟩ := at_.appends.revocations
  obtain ⟨row, held, isRow⟩ := present id object projected
  have new : row ∈ rows := by
    rw [revocations] at held
    rcases List.mem_append.mp held with earlier | new
    · obtain ⟨stored, inside, sameId⟩ := revocationRow_id at_.reachable row earlier
      have fresh := at_.fresh
      unfold Store.envelopeById at fresh
      have other := List.find?_eq_none.mp fresh stored inside
      rw [sameId, isRow, same] at other
      simp at other
    · exact new
  obtain ⟨other, by_⟩ := written row new
  have sameObject := by_.projected
  rw [projected] at sameObject
  cases sameObject
  have document := by_.document
  rw [canonical] at document
  have tree : object = row.documentJson.tree :=
    congrArg Jcs.Canonical.tree (Except.ok.inj document)
  refine ⟨row, at_.kept.revocations.subset held, ?_, tree ▸ signed, tree ▸ hasTarget, tree ▸ hasInstant⟩
  have revokes := by_.revokes
  rw [hasTarget] at revokes
  exact (Option.some.inj revokes).symm

/-- What validation admits under a mandate takes place before every revocation above it that counted
in the state validation read. -/
theorem admitted_before_revocation {snapshot : Store} {raw : Octets} {receivedAt : String}
    {plan : AppendPlan} {subjectKey : KeyId} {payloads : List Value}
    (admitted : Admitted ext config snapshot raw receivedAt plan subjectKey payloads)
    (acts : actsUnderMandate plan.envelope) {leafRef target revokedAt : String} {signer : KeyId}
    (cites : plan.envelope.getStr "mandate-ref" = some leafRef)
    (revokes : Store.Revokes ext snapshot target revokedAt signer)
    (beneath : snapshot.Beneath leafRef target)
    (stands : signer ∈ rootKeysAt snapshot (emittedAt plan.envelope) ∨ snapshot.GrantedBy target signer)
    (issued : snapshot.IssuedBefore target revokedAt) : emittedAt plan.envelope < revokedAt := by
  obtain ⟨leaf, depth, walk, result, isLeaf, walked⟩ := admitted.rule.walks acts
  rw [cites] at isLeaf
  cases isLeaf
  exact Store.walk_before_revocation walked revokes beneath stands issued

/-- Once a revocation is accepted, whatever acts under the mandate or beneath it from then on is
refused, as long as the revocation counts at the instant of the act. -/
theorem revocation_refuses (reached : (kernel ext config).Reachable world) {target revokedAt : String}
    {signer : KeyId} (accepted : RevocationAccepted ext world target revokedAt signer)
    {raw : Octets} {receivedAt : String} {request env : Value} {payloads : List Value}
    (parsed : ext.parseOctets raw = .ok request) (read : readRequest request = .ok (env, payloads))
    (acts : actsUnderMandate env) {leafRef : String} (cites : env.getStr "mandate-ref" = some leafRef)
    (beneath : world.store.Beneath leafRef target) (later : revokedAt ≤ emittedAt env)
    (unknown : ∀ id, Signed.objectId ext env = .ok id → world.store.envelopeById id = none)
    (stands : signer ∈ rootKeysAt world.store (emittedAt env) ∨ world.store.GrantedBy target signer)
    (issued : world.store.IssuedBefore target revokedAt) :
    isOk (validate ext config world.store raw receivedAt) = false := by
  cases outcome : validate ext config world.store raw receivedAt with
  | error e => rfl
  | ok either =>
      exfalso
      cases either with
      | idempotent appended =>
          obtain ⟨received, row, opened, held⟩ := validate_eq_idempotent outcome
          obtain ⟨other, isRequest, isRead, hashed, _⟩ := receive_eq_ok opened
          rw [parsed] at isRequest
          cases isRequest
          rw [read] at isRead
          cases isRead
          rw [unknown _ hashed] at held
          cases held
      | fresh validated =>
          obtain ⟨⟨subjectKey, others, admitted⟩, _⟩ := validate_fresh outcome
          obtain ⟨other, isRequest, isRead⟩ := admitted.request
          rw [parsed] at isRequest
          cases isRequest
          rw [read] at isRead
          cases isRead
          have before := admitted_before_revocation admitted acts cites (accepted.revokes reached) beneath
            stands issued
          exact absurd before (not_lt.mpr later)

end World

end Stozher

namespace Stozher.Deployment

open Library Ingest World

/-- An accepted revocation that was seen. -/
theorem revocationAccepted {actions : List Action} {target revokedAt : String} {signer : KeyId}
    (seen : { target := some target, instant := some revokedAt, signer := some signer } ∈
      (after actions).accepted.filterMap revoked) :
    RevocationAccepted ext (after actions) target revokedAt signer := by
  obtain ⟨taken, member, found⟩ := List.mem_filterMap.mp seen
  unfold revoked at found
  obtain ⟨⟨id, object⟩, projected, same⟩ := Option.map_eq_some_iff.mp found
  rw [Revoked.mk.injEq] at same
  obtain ⟨hasTarget, hasInstant, signed⟩ := same
  refine ⟨taken, member, id, object, projected, hasTarget, hasInstant, ?_⟩
  cases verified : Signed.verifySignedObject ext object with
  | error e =>
      rw [verified] at signed
      cases signed
  | ok key =>
      rw [verified] at signed
      cases signed
      rfl

theorem ops_revoked : RevocationAccepted ext (after revoking) opsMandate.digest quarterPast miraId := by
  have seen := congrArg Observed.compromised observed_eq
  dsimp only [observed] at seen
  have accepted := congrArg KeysSeen.revoked seen
  dsimp only [keysSeen] at accepted
  refine revocationAccepted ?_
  rw [accepted]
  exact List.mem_cons_self

theorem late_note_read : readRequest lateNoteBody = .ok (lateNote.document, []) := by
  decide +kernel

theorem late_note_refused :
    isOk (validate ext config (after revoking).store (submitted lateNoteBody halfPast).raw halfPast) = false := by
  have seen := congrArg Observed.compromised observed_eq
  have unknown := congrArg Observed.unknown observed_eq
  have issued := congrArg Observed.issued observed_eq
  dsimp only [observed] at seen unknown issued
  have enrolled := congrArg KeysSeen.roots seen
  dsimp only [keysSeen] at enrolled
  have hashed : Signed.objectId ext lateNote.document = .ok lateNote.digest := by decide +kernel
  refine revocation_refuses (reachable revoking) ops_revoked rfl late_note_read
    (Or.inr (by decide +kernel))
    (by decide +kernel : lateNote.document.getStr "mandate-ref" = some opsMandate.digest) .refl (by decide +kernel) ?_ ?_ ?_
  · intro id isId
    rw [hashed] at isId
    cases isId
    exact Option.isNone_iff_eq_none.mp unknown
  · refine Or.inl ?_
    have instant : emittedAt lateNote.document = halfPast := by decide +kernel
    unfold rootKeysAt
    rw [instant, enrolled]
    decide +kernel
  · intro mandate issuedAt found isIssued
    rw [found, Option.map_some, Option.some.injEq, isIssued, Option.some.injEq] at issued
    rw [issued]
    decide +kernel

/-- Once the root that revoked it is retired, what acts under the revoked mandate is taken again. -/
theorem late_note_validated :
    (kernel ext config).Reachable (after retiring) ∧
      RevocationAccepted ext (after retiring) opsMandate.digest quarterPast miraId ∧
      quarterPast ≤ emittedAt lateNote.document ∧
      lateNote.document.getStr "mandate-ref" = some opsMandate.digest ∧
      ∃ validated, validate ext config (after retiring).store (submitted lateNoteBody halfPast).raw halfPast =
        .ok (.fresh validated) ∧ validated.plan.envelope = lateNote.document := by
  have later := congrArg Observed.lateValidated observed_eq
  dsimp only [observed] at later
  obtain ⟨plan, fresh, envelope⟩ := Option.map_eq_some_iff.mp later
  obtain ⟨validated, accepted, rfl⟩ := freshPlan_eq_some fresh
  obtain ⟨taken, member, known⟩ := ops_revoked.taken
  have kept := accepted_mono revoking [.submit (submitted retireBody halfPast), .perform 1, .perform 1]
  exact ⟨reachable _, ⟨taken, kept.subset member, known⟩, by decide +kernel, by decide +kernel, validated,
    accepted, envelope⟩

end Stozher.Deployment
