import Stozher.AncestryWalk
import Stozher.MandateLine
import Stozher.ScopeInclusion
import Stozher.Mandate.InheritedRevocation

namespace Stozher

open Library Ingest

variable {ext : External} {config : Config}

namespace Mandate

variable {mandates : Members}

theorem grantedAbove_of_climb {signer : KeyId} {ancestor : String} {mandate : Value}
    (stored : mandates.get ancestor = some mandate) (grantor : keyAt mandate "grantor" = .ok signer)
    {steps : Nat} {start : String} (reached : climb (parentOf mandates) steps start = some ancestor) {hops : Nat}
    (enough : steps < hops) : grantedAbove mandates signer hops start = true := by
  induction steps generalizing start hops with
  | zero =>
      obtain ⟨more, rfl⟩ := Nat.exists_eq_succ_of_ne_zero (Nat.ne_of_gt enough)
      cases reached
      simp [grantedAbove, stored, grantor, Except.toOption]
  | succ steps ih =>
      obtain ⟨more, rfl⟩ := Nat.exists_eq_succ_of_ne_zero (Nat.ne_of_gt (Nat.zero_lt_of_lt enough))
      rw [climb, Option.bind_eq_some_iff] at reached
      obtain ⟨next, up, further⟩ := reached
      have above := ih further (Nat.lt_of_succ_lt_succ enough)
      obtain ⟨value, found, parent⟩ := get_of_parentOf up
      unfold grantedAbove
      rw [found]
      dsimp only
      split
      · rfl
      · rw [parent]
        exact above

/-- Whoever granted a mandate found above the target in a table is authorized by that table. -/
theorem revokerIsAuthorized_of_above {signer : KeyId} {target ancestor : String} {mandate : Value}
    (above : Relation.ReflTransGen (Above (parentOf mandates)) target ancestor)
    (stored : mandates.get ancestor = some mandate) (grantor : keyAt mandate "grantor" = .ok signer)
    (roots : List KeyId) : revokerIsAuthorized mandates target signer roots = true := by
  have listed : ∀ child next, parentOf mandates child = some next → child ∈ mandates.keys :=
    fun _ _ isParent => mem_keys_of_parentOf isParent
  obtain ⟨steps, within_, reached⟩ := climb_within listed above
  unfold revokerIsAuthorized
  rw [Bool.or_eq_true]
  refine Or.inr (grantedAbove_of_climb stored grantor reached ?_)
  unfold Members.keys at within_
  rw [List.length_map] at within_
  exact Nat.lt_succ_of_le within_

end Mandate

namespace Store

variable {store later : Store}

/-- What an ancestry collects is reached within its hops. -/
theorem ancestryFrom_reached (consistent : store.Consistent) {hops : Nat} {chain : Members} {start id : String}
    {value : Value} (found : (store.ancestryFrom hops chain start).get id = some value) :
    chain.get id = some value ∨ ∃ steps < hops, climb store.parentOf steps start = some id := by
  induction hops generalizing chain start with
  | zero => exact Or.inl found
  | succ hops ih =>
      unfold ancestryFrom at found
      split at found
      · exact Or.inl found
      · split at found
        · exact Or.inl found
        · rename_i row held
          have inserted : (chain.insert start row.documentJson.tree).get id = some value →
              chain.get id = some value ∨ ∃ steps < hops + 1, climb store.parentOf steps start = some id := by
            intro got
            by_cases same : start = id
            · exact Or.inr ⟨0, Nat.succ_pos hops, congrArg some same⟩
            · rw [Members.get_insert_of_ne same] at got
              exact Or.inl got
          dsimp only at found
          split at found
          · rename_i parent isParent
            rcases ih found with earlier | ⟨steps, less, reached⟩
            · exact inserted earlier
            · have up : store.parentOf start = some parent := (parentOf_of_row consistent held).trans isParent
              exact Or.inr ⟨steps + 1, Nat.succ_lt_succ less, (climb_succ_of_parent up).trans reached⟩
          · exact inserted found

/-- What is reached within the hops of an ancestry, on a line that ends, it collects. -/
theorem ancestryFrom_holds (consistent : store.Consistent) {rest : List String} {start id : String} {hops steps : Nat}
    {chain : Members} (ascends : Ascends store.parentOf (start :: rest))
    (apart : ∀ link ∈ start :: rest, chain.get link = none) (reached : climb store.parentOf steps start = some id)
    (less : steps < hops) {value : Value} (stored : store.mandate id = some value) :
    (store.ancestryFrom hops chain start).get id = some value := by
  induction steps generalizing start rest hops chain with
  | zero =>
      obtain ⟨more, rfl⟩ := Nat.exists_eq_succ_of_ne_zero (Nat.ne_of_gt less)
      obtain rfl : start = id := Option.some.inj reached
      obtain ⟨row, held, tree⟩ := Option.map_eq_some_iff.mp stored
      have absent := apart start List.mem_cons_self
      have collected : (chain.insert start row.documentJson.tree).get start = some value := by
        rw [Members.get_insert_self, tree]
      unfold ancestryFrom
      rw [if_neg (by simp [Members.containsKey, absent]), held]
      dsimp only
      split
      · exact ancestryFrom_keeps collected
      · exact collected
  | succ steps ih =>
      obtain ⟨more, rfl⟩ := Nat.exists_eq_succ_of_ne_zero (Nat.ne_of_gt (Nat.zero_lt_of_lt less))
      rw [climb, Option.bind_eq_some_iff] at reached
      obtain ⟨next, up, further⟩ := reached
      cases rest with
      | nil =>
          have ends : store.parentOf start = none := ascends
          rw [up] at ends
          cases ends
      | cons second others =>
          cases up.symm.trans ascends.1
          have different : start ∉ next :: others := (List.nodup_cons.mp ascends.nodup).1
          have absent := apart start List.mem_cons_self
          obtain ⟨above, isAbove⟩ := stored_of_parentOf up
          obtain ⟨row, held, _⟩ := Option.map_eq_some_iff.mp isAbove
          have parent : row.parent = some next := (parentOf_of_row consistent held).symm.trans up
          unfold ancestryFrom
          rw [if_neg (by simp [Members.containsKey, absent]), held]
          dsimp only
          rw [parent]
          apply ih ascends.2 ?_ further (Nat.lt_of_succ_lt_succ less)
          intro link member
          have other : start ≠ link := fun same => different (same ▸ member)
          rw [Members.get_insert_of_ne other]
          exact apart link (List.mem_cons_of_mem _ member)

theorem mandateRow_grows (grows : store.Grows later) {id : String} {row : MandateRow}
    (found : store.mandateRow id = some row) : later.mandateRow id = some row := by
  obtain ⟨rows, extended⟩ := grows.mandates
  unfold mandateRow at found ⊢
  rw [← extended, List.find?_append, found, Option.some_or]

/-- What an ancestry collected it collects later. -/
theorem ancestryFrom_grows (grows : store.Grows later) {hops : Nat} {chain : Members} {start id : String}
    {value : Value} (found : (store.ancestryFrom hops chain start).get id = some value) :
    (later.ancestryFrom hops chain start).get id = some value := by
  induction hops generalizing chain start with
  | zero => exact found
  | succ hops ih =>
      unfold ancestryFrom at found
      split at found
      · exact ancestryFrom_keeps found
      · rename_i absent
        split at found
        · exact ancestryFrom_keeps found
        · rename_i row held
          unfold ancestryFrom
          rw [if_neg absent, mandateRow_grows grows held]
          dsimp only at found ⊢
          split at found
          · exact ih found
          · exact found

/-- What is reached within the hops of an ancestry is reached in what it collected. -/
theorem ancestryFrom_above (consistent : store.Consistent) {rest : List String} {start id : String} {hops steps : Nat}
    (ascends : Ascends store.parentOf (start :: rest)) (reached : climb store.parentOf steps start = some id)
    (less : steps < hops) :
    Relation.ReflTransGen (Above (Mandate.parentOf (store.ancestryFrom hops [] start))) start id := by
  rw [above_iff_climb]
  refine ⟨steps, Eq.trans (climb_congr ?_) reached⟩
  intro fewer under element met
  obtain ⟨between, isBetween, further⟩ := climb_isSome_of_le reached (Nat.le_of_lt under)
  cases met.symm.trans isBetween
  obtain ⟨more, isMore⟩ : ∃ more, steps - fewer = more + 1 := ⟨steps - fewer - 1, by omega⟩
  rw [isMore, climb, Option.bind_eq_some_iff] at further
  obtain ⟨next, up, _⟩ := further
  obtain ⟨value, stored⟩ := stored_of_parentOf up
  have apart : ∀ link ∈ start :: rest, Members.get [] link = none := fun _ _ => rfl
  have held := ancestryFrom_holds consistent ascends apart met (Nat.lt_trans under less) stored
  unfold Mandate.parentOf parentOf
  rw [held, stored]

/-- A key granted the mandate, or one of so many above it. -/
def GrantedWithin (store : Store) (steps : Nat) (id : String) (key : KeyId) : Prop :=
  ∃ fewer ≤ steps, ∃ ancestor mandate, climb store.parentOf fewer id = some ancestor ∧
    store.mandate ancestor = some mandate ∧ Mandate.keyAt mandate "grantor" = .ok key

/-- The ancestry a revocation is judged against authorizes the roots, and who granted its target or one of the first
eighteen mandates above it. -/
theorem revokerIsAuthorized_iff (consistent : store.Consistent) {rest : List String} {target : String}
    (ascends : Ascends store.parentOf (target :: rest)) (signer : KeyId) (roots : List KeyId) :
    Mandate.revokerIsAuthorized (store.mandateAncestry target 16) target signer roots = true ↔
      signer ∈ roots ∨ store.GrantedWithin 18 target signer := by
  constructor
  · intro authorized
    unfold Mandate.revokerIsAuthorized at authorized
    rw [Bool.or_eq_true] at authorized
    rcases authorized with root | granted
    · exact Or.inl (by simpa using root)
    · obtain ⟨ancestor, mandate, _, held, grantor⟩ := Mandate.grantedAbove_eq_true granted
      rcases ancestryFrom_reached consistent held with none | ⟨steps, less, reached⟩
      · cases none
      · exact Or.inr ⟨steps, Nat.le_of_lt_succ less, ancestor, mandate, reached, mandateAncestry_get held, grantor⟩
  · rintro (root | ⟨steps, within_, ancestor, mandate, reached, stored, grantor⟩)
    · unfold Mandate.revokerIsAuthorized
      rw [Bool.or_eq_true]
      exact Or.inl (by simpa using root)
    · have less : steps < min (16 + 2) (2 ^ 32 - 1) + 1 := Nat.lt_succ_of_le within_
      have above := ancestryFrom_above consistent ascends reached less
      have apart : ∀ link ∈ target :: rest, Members.get [] link = none := fun _ _ => rfl
      have held := ancestryFrom_holds consistent ascends apart reached less stored
      exact Mandate.revokerIsAuthorized_of_above above held grantor roots

/-- The ancestry of a mandate that is walked to its end, then or later, authorizes whoever granted it or one above it. -/
theorem revokerIsAuthorized_of_walked (grows : store.Grows later) {leafRef at_ : String} {roots laterRoots : List KeyId}
    {subjectKey signer : KeyId} {depth : Nat} {request : Mandate.Scoped} {result : Mandate.MandateChainOk}
    (walked : Mandate.walk ext (walkParams store leafRef roots subjectKey at_ depth).1 leafRef request
      (walkParams store leafRef roots subjectKey at_ depth).2 = .ok result)
    (granted : store.GrantedBy leafRef signer) :
    Mandate.revokerIsAuthorized (later.mandateAncestry leafRef depth) leafRef signer laterRoots = true := by
  obtain ⟨leaf, rest, sound, held, ascends⟩ := walk_stored walked
  have laterParents : ∀ link ∈ ((leafRef, leaf) :: rest).map Prod.fst,
      Mandate.parentOf (later.mandateAncestry leafRef depth) link =
        Mandate.parentOf (store.mandateAncestry leafRef depth) link := by
    intro link inside
    obtain ⟨value, found⟩ := held link inside
    unfold Mandate.parentOf
    rw [found, show (later.mandateAncestry leafRef depth).get link = some value from ancestryFrom_grows grows found]
  have laterAscends := sound.ascends.congr laterParents
  obtain ⟨ancestor, mandate, above, stored, grantor⟩ := granted
  have onPath := ascends.mem_of_above above
  obtain ⟨value, found⟩ := held ancestor onPath
  cases (mandateAncestry_get found).symm.trans stored
  exact Mandate.revokerIsAuthorized_of_above (laterAscends.above_of_mem onPath) (ancestryFrom_grows grows found) grantor
    laterRoots

/-- The stored mandates, as they stand in the table. -/
def listed (store : Store) : Members :=
  store.mandates.map fun row => (row.mandateId, row.documentJson.tree)

theorem listed_get (store : Store) (id : String) : store.listed.get id = store.mandate id := by
  unfold listed mandate mandateRow Members.get
  rw [List.find?_map, Option.map_map]
  rfl

/-- With nothing revoked, a walk of the stored mandates is one of the ancestry the kernel fetches. -/
theorem walk_listed (consistent : store.Consistent) (unrevoked : store.revocations = []) {leafRef at_ : String}
    {roots : List KeyId} {subjectKey : KeyId} {depth : Nat} (fits : depth < 2 ^ 32) {request : Mandate.Scoped}
    {result : Mandate.MandateChainOk}
    (walked : Mandate.walk ext store.listed leafRef request {
      roots, revocations := [], at_, subjectKey, maxDelegationDepth := depth } = .ok result) :
    Mandate.walk ext (walkParams store leafRef roots subjectKey at_ depth).1 leafRef request
      (walkParams store leafRef roots subjectKey at_ depth).2 = .ok result := by
  apply (walk_ancestry_iff consistent fits).mpr
  have none_ : store.revocationTable = [] := by
    unfold revocationTable
    rw [unrevoked, List.map_nil]
  rw [none_]
  refine Mandate.walk_transfer store.mandateTable_distinct ?_ ?_ walked
  · intro rest _ link _
    rw [mandateTable_get, listed_get]
  · intro rest _ link _ revocation isListed
    cases isListed

end Store

namespace Ingest

variable {store : Store}

/-- A revocation of the mandate, carried by an envelope that repeats it, signed by the key and not backdated. -/
structure Revoking (ext : External) (store : Store) (env object : Value) (target revokedAt : String) (signer : KeyId) :
    Prop where
  carried : env.get "revocation" = some object
  repeated : ∀ name ∈ ["revokes", "revoked-at", "reason"], sameMember (env.get name) (object.get name) = true
  names : env.getStr "revokes" = some target
  named : object.getStr "revokes" = some target
  digest : Crypto.isDigestHex target = true
  instant : env.getStr "revoked-at" = some revokedAt
  signedInstant : object.getStr "revoked-at" = some revokedAt
  dated : isOk (Clock.parseTimestamp revokedAt) = true
  signed : Signed.verifySignedObject ext object = .ok signer
  hashed : isOk (Signed.objectId ext env) = true
  forward : store.IssuedBefore target revokedAt

/-- Wherever the revocation is on record, later, the index a walk from its target consults holds it. -/
def TakesEffect (ext : External) (store : Store) (object : Value) (target revokedAt : String) (depth : Nat) : Prop :=
  ∀ later : Store, store.Grows later →
    (∃ row ∈ later.revocations, row.revokes = target ∧ row.documentJson.tree = object) →
      ∀ roots, Mandate.RevokedBy (Mandate.revocationIndex ext (later.mandateAncestry target depth)
        (later.revocationsTargeting (later.mandateAncestry target depth).keys) roots) target revokedAt

theorem validateRevocation_ok_iff {env object : Value} {target revokedAt : String} {signer : KeyId}
    (revoking : Revoking ext store env object target revokedAt signer) (roots : List KeyId) (plan : AppendPlan) :
    (∃ next, validateRevocation ext store env roots plan = .ok next) ↔
      Mandate.revokerIsAuthorized (store.mandateAncestry target 16) target signer roots = true := by
  have forward : Mandate.backdated (store.mandateAncestry target 16) target revokedAt = false := by
    unfold Mandate.backdated
    cases held : ((store.mandateAncestry target 16).get target).bind (·.getStr "issued-at") with
    | none => rfl
    | some issuedAt =>
        obtain ⟨mandate, found, issued⟩ := Option.bind_eq_some_iff.mp held
        exact decide_eq_false (not_lt.mpr (revoking.forward mandate issuedAt (Store.mandateAncestry_get found) issued))
  constructor
  · rintro ⟨next, valid⟩
    obtain ⟨other, _, _, _, carried, _, names, _, verified, _⟩ := validateRevocation_eq_ok valid
    cases carried.symm.trans revoking.carried
    cases names.symm.trans revoking.names
    unfold Mandate.verifyRevocation at verified
    simp only [bind_eq_ok, okOr_eq_ok, require_eq_ok] at verified
    obtain ⟨key, signed, named, isNamed, _, _, _, authorized, _⟩ := verified
    cases signed.symm.trans revoking.signed
    cases isNamed.symm.trans revoking.named
    exact authorized
  · intro authorized
    obtain ⟨millis, dated⟩ := isOk_iff.mp revoking.dated
    obtain ⟨id, hashed⟩ := isOk_iff.mp revoking.hashed
    have verified : Mandate.verifyRevocation ext (store.mandateAncestry target 16) object roots = .ok () := by
      unfold Mandate.verifyRevocation
      simp [revoking.signed, revoking.named, revoking.signedInstant, okOr, authorized, forward, require]
    refine ⟨{ plan with projections := { plan.projections with revocation := some (id, object) } }, ?_⟩
    unfold validateRevocation
    simp only [bind_eq_ok, okOr_eq_ok, forEach_eq_ok, require_eq_ok, pure_eq_ok]
    exact ⟨object, revoking.carried, (), revoking.repeated, target, revoking.names, (), revoking.digest, revokedAt,
      revoking.instant, millis, dated, (), verified, id, hashed, rfl⟩

/-- Of a mandate whose chain verifies, a revocation by who granted it or one above it takes effect. -/
theorem takesEffect_of_walked {env object : Value} {target revokedAt at_ : String} {roots : List KeyId}
    {subjectKey signer : KeyId} {depth : Nat} {request : Mandate.Scoped} {result : Mandate.MandateChainOk}
    (walked : Mandate.walk ext (walkParams store target roots subjectKey at_ depth).1 target request
      (walkParams store target roots subjectKey at_ depth).2 = .ok result)
    (granted : store.GrantedBy target signer)
    (revoking : Revoking ext store env object target revokedAt signer) :
    TakesEffect ext store object target revokedAt depth := by
  intro later grows ⟨row, recorded, names, tree⟩ laterRoots
  obtain ⟨leaf, rest, _, _, line, _⟩ := Mandate.walk_line walked
  have stored : (store.mandateAncestry target depth).get target = some leaf :=
    (line.links (target, leaf) List.mem_cons_self).stored
  have held : (later.mandateAncestry target depth).get target = some leaf := Store.ancestryFrom_grows grows stored
  have forward : Mandate.backdated (later.mandateAncestry target depth) target revokedAt = false := by
    unfold Mandate.backdated
    rw [held, Option.bind_some]
    cases issued : leaf.getStr "issued-at" with
    | none => rfl
    | some issuedAt =>
        exact decide_eq_false (not_lt.mpr (revoking.forward leaf issuedAt (Store.mandateAncestry_get stored) issued))
  have listed : object ∈ later.revocationsTargeting (later.mandateAncestry target depth).keys := by
    refine Store.mem_revocationsTargeting.mpr ⟨row, recorded, ?_, tree⟩
    rw [names]
    exact Mandate.mem_keys_of_get held
  apply Mandate.revocationIndex_revoked listed
  exact Mandate.countedRevocation_eq_some.mpr ⟨signer, revoking.signed, revoking.named, revoking.signedInstant,
    Store.revokerIsAuthorized_of_walked grows walked granted, forward⟩

end Ingest

namespace World

variable {world : World}

/-- A revocation by who granted a mandate that verifies, or one above it, is accepted and takes effect exactly when
the key is an enrolled root or granted the mandate itself or one of the first eighteen above it. -/
theorem grantor_revokes_iff (reached : (kernel ext config).Reachable world) {target revokedAt at_ : String}
    {roots : List KeyId} {subjectKey signer : KeyId} {depth : Nat} {request : Mandate.Scoped}
    {result : Mandate.MandateChainOk} {env object : Value}
    (walked : Mandate.walk ext (walkParams world.store target roots subjectKey at_ depth).1 target request
      (walkParams world.store target roots subjectKey at_ depth).2 = .ok result)
    (granted : world.store.GrantedBy target signer)
    (revoking : Revoking ext world.store env object target revokedAt signer) (plan : AppendPlan) :
    ((∃ next, validateRevocation ext world.store env (rootKeysAt world.store (emittedAt env)) plan = .ok next) ∧
        TakesEffect ext world.store object target revokedAt depth) ↔
      signer ∈ rootKeysAt world.store (emittedAt env) ∨ world.store.GrantedWithin 18 target signer := by
  obtain ⟨rest, ascends, _⟩ := Store.walked_path walked
  rw [validateRevocation_ok_iff revoking, Store.revokerIsAuthorized_iff (World.consistent reached) ascends]
  constructor
  · exact And.left
  · intro within_
    exact ⟨within_, takesEffect_of_walked walked granted revoking⟩

end World

end Stozher

namespace Stozher.Deployment

open Library Library.Text Recorded Ingest

/-- A signature, in two halves, and a digest. -/
structure Sealing where
  high : Nat
  low : Nat
  digest : Nat

/-- The policy, with mandates a hundred deep. -/
def deepPolicyDocument (sig : Members) : Value :=
  match policyDocument sig with
  | .object members => .object (members.map fun member =>
      if member.1 = "delegation" then
        (member.1, .object [("max-depth", .ofNat 100), ("max-standing-lifetime", .string "P90D")]) else member)
  | other => other

def deepPolicy : Recorded where
  form := deepPolicyDocument
  sealed := some (orgKey, signatureText
    0xba14ac220ec32dbc3f72e2688acccf596dcd504fcd9d48140830ec20c736cd52
    0xd06114bb4c19ca090c9d634a67212c96af84799b4aec16b415b04e93e3a1850e)
  digest := hex 64 0xb90c3c415044ea0beb4e98ed3a08ab098789a7a4ca380f471d2c9565dcdb11a9

def deepRequest : Recorded where
  form := request "agent:ops" opsKey opsMandate.digest "kernel.publish_policy" "policy:1" deepPolicy.digest '1'
  sealed := none
  digest := hex 64 0x97cd3e3751eadeebfde9001a85f835e0c3855b70784161c5fa368c3752635dcc

def deepApproval : Recorded where
  form := decision deepRequest.digest "approve" none evening
  sealed := some (anaKey, signatureText
    0xe029ae2bc8fdeda8fb304304b28cd294a97471cc0c35fdf588c39e3a4e310a39
    0xa2066fa07f363d517d94675f13d0f238bf01e38da74e5d5c85e19ee751e9cd03)
  digest := hex 64 0x5e71c57389359b751f851a3a9eaf89bfe1af078c2a57f25966ff02d4f081cc3f

def deepChange : Recorded where
  form := effect "policy-change" opsIdentity "kernel:core" 1 (some opsGrant.digest) opsMandate.digest
      deepRequest.document deepApproval.document nine
  sealed := some (opsKey, signatureText
    0xaeb069086f907bb06e7cbedaa7b7e9e681f4122a25d3583614d2c167550604c9
    0x53ad2a45e8334a1b092297b5cf1f0556a6ca906e185e50632f64592926657e01)
  digest := hex 64 0xc55967d9450a0ecec0f6aefbf45a72d508331055fe3de00c4e2ed614f3f5bae4

def handings : List Sealing := [
  ⟨0xffd9e2be8da56dd9b1114a9ee20b2e314dac6431690a8dc72b1def95f30940d7,
    0x54680d57cce2476d14fbb6dc774b39eaef0d7db3ffdbfe9eff9dba5d935b200e,
    0x5380462de2005c4ee108ad07c0fcd5fca93f89f81c426ef8c05a5ff92dc2e72a⟩,
  ⟨0x82d4eb7e35da3e6b91aaab58f6501f226fc50e516f039f44c68e5d738c959496,
    0x1f5a4fa84d78a9d61d564c849667907022065a22b0da8204d577fe97c550fd00,
    0xc20fe684716932754cb1dd9b1a074e954761f049f1f8fa0d21741252d17f824f⟩,
  ⟨0x17add660c6aa312e11213e4c54246d7d2c27a2cb664e775d5d6b53f911f0d725,
    0x2846270723ebe4242937d0d877097c807b15106cd49aed410747b40be8a99d0f,
    0x8e0ea0c4f76c78cf60333f339fc7ea0a3248f3229fde7b81ea7cb559795e5010⟩,
  ⟨0x1e0f20215c107c0c72d659e00b3c1907b4536a32b8e65dcec8eff3862ea90509,
    0x0effcb1ac0a6906c5429eb3a3e1262bd827afef92ab0a0a2a1ebee1739600f01,
    0xe1e3f9d6a1e2794b2b18ff49724bcb44827b41b6305defad511aea3edd4f83ef⟩,
  ⟨0x0d3c9e06cf2104f031b89991f42838ea5943b34f1eee302cbc110a817649aae8,
    0x670e77d52d95bf94c5f3f9d598a7d675b23ec84c07c1918b0772f48cbd77290d,
    0x90e1330a0fb7ba9e434925ec60641a36b8e4c4b1fd9800cee853eaf057e1ca2c⟩,
  ⟨0x6651098b0bd1d18b2141736a8a3c025c45065ee5caeae6d937b454abc394d3b4,
    0xc68532e83ee63e1bb9dc7f319faf3ed9cd1057c91a7bb046efaf48eaab131907,
    0xd6d56c132857a239bbef84dda027a65efd80854acca0a158cc84820461a217fe⟩,
  ⟨0x37b25b8c66b55fae71f1d44c5f2e32a1a965765b64e957ece1c534ef09d0e8d2,
    0xe8b86d74837c6af9ff8ceda96a0c50240cbc4aa46fc0998064ca65b0373cc60b,
    0x8b690dca75e855fabaafd4bf3a578f9e34b4b4f4d8ac54682c4573ea51458eb8⟩,
  ⟨0x872a7471ac0b36471147ee4acb02e655eef4e02588721e0e1a61100839fd1c15,
    0x21eb11c09136be1e795c83bb8c2a0de6305c51120b1072e45e0b1701846da60d,
    0x8f71f3ff7f62cab1f18c1005d81f1d78c712e2e4e263485bd24d95e342e09904⟩,
  ⟨0xf5d68b8410a501522a28910f390f277656f3584fc3d2d55088195d26b0ba37dd,
    0x427c34b4c57bd39d0fbbc236cd49547f2aaf7fb9f26cac96bfad2ceb1ff9e804,
    0x9dbc7cc72dbf08d215d8568b3bd35f13e0639b9882ef15a8f22787dc1a1ea6c3⟩,
  ⟨0xb7194108ec22ad5ad718863cf06ff718be5ded85b0f4681cbfceea19a6508de0,
    0x8ddbcae53d652e044a869da73d6822f4c92ab70d0b4ca5b75cbc2abc3c864a07,
    0x5df89d0cedf2bfa55b02c7d959eeb0a4e540ad32b579ee3e37f5b239cd3cb2b6⟩,
  ⟨0x7e20f4042bc670c5358fa58b6c3d9d97dfdf1b5790a75670030915744bbcdda6,
    0x8b3afe6f731cb46e0d24b9167c4b3ee1195cb7a82f318e4093353bbc3d16ec05,
    0xccc94a4742a6ce466297abdad314125235e25e66e2e0ae39f1a7b0d91119dd8c⟩,
  ⟨0xef0a92f305b0855b3639462bf5a2ede49be79d4d74a6bee7230d4fe462555a3f,
    0x0ff474ffe7400bebc886406390e232390cdb53e6771a5e5f87988b0957d44709,
    0x6d7df543185ec2ab7f731fef2923b4b59a624a36e746d558007035f8a7b00ff7⟩,
  ⟨0xa3def9cf121a824c796ffcd91e039819bbde75724f3d86a3af2f66d9b2aee9f6,
    0xb4a733bcee0e5883e5afbfe8dc7ed033daeffa986c9fb1e711f7fd171cbe5606,
    0x3b39a2de2d9355a2cc2d0bdc9a28d663b351986d21743fce747ad1ca3b6d0637⟩,
  ⟨0x69b111b084257b83df46785a54933066c0b0755d899a969d0e09661e995716ea,
    0xed1efc5adb785f00aba89c6f2159ffc9cb5d3d537d1ff2546b5bdabea2824a08,
    0xc5fba18b7994d27755c3ba2049bba3b6c58ad99a60ad2d819c05b6390a5b1c90⟩,
  ⟨0x6e598c3471fce0998eca2edf7fd0ba8998534f486736871f87720db9e824571e,
    0x31a2cd6d59e8eec714e8ed8f968e138727b27434f08d596380dac49a4032cc07,
    0xb66758bcf2de6976d9029dc05cb6dcb37ecbae276456ba71af28c7bf2085c914⟩,
  ⟨0x48b221eb2020fabff2cfa379418148078cc0abbfa3acba4857c91346ca8e1357,
    0x79be9539d3fa6021bb8c5ad28d9984dde7714a067d514d58bf7ad6a75e34e509,
    0x0e0488270b756c0a61342f1499d3a1e00b5e66cb0a358dfb61692107e6f76551⟩,
  ⟨0xf5763dd404af01959e143b8c8c7a043032ed1fa09798fabbca6cc06c616c887a,
    0xc4a19f84873eacacdcddee414bf62bb85b721f31c01b440614f7ba02bc25ce05,
    0x6c50324b5e2017116fbf3c553940a840ea77f6747f9bed78346b9d351ad2e55b⟩,
  ⟨0x8d7886b95b391fbd3b892b524273a5619fdc123617eb3b9448bf3989ee09a3f8,
    0x4e1acfff3a7f31d0b559f7f02ceb977b838ceec5a8197ef85879d304b1be980d,
    0xc195c6b69a25d1c877c6ea5cabdb2a833e2bc9ec0c34dd01984a899e4231b4bc⟩,
  ⟨0xaa17fe681f3c883071225083a32b4d5ca0c544b32b6667a5aa64f1e2d0700b36,
    0x06686e71cfa0b7b1f9c7bf2cfdf7a87e2c77caeb412a0e13651eebc3f453b108,
    0x65ca5288695644c1f5754b56835fafd67105ba331cb17f81a7e9c7b5c70fc244⟩,
  ⟨0x26f32bd7e97e7d063705cccd2e9ed19ba703f5a51a00e823433da170ca5c0ae3,
    0x0f603b1a8fbb99c0e40e870a399fcbf2ead78913677c936f70df9e0d5da90908,
    0x6aba53807b8d9567f8292fa6e3026b15b97b189c6c6152bea9f3923f76d0185d⟩,
  ⟨0x56c8a21509e48635e508b03aa6273c630dd0bcf74e61525ea0b15ff16fa73219,
    0x564c29fc556610cd39455a956f46c6af6be2986cce8676f3b2c6307119fe2703,
    0x8f0d79e8185aeb23de0aa3bda658694b4664d72646bc741d7dea6b6b31a584cb⟩]

def handingGrants : List Sealing := [
  ⟨0x99a3b38ea7a53970694849fb1d993b19b41e50e978c03bb510dee8d7681ddcaf,
    0x44a074d86d932fa355e8cd8a5d18fe37d07a645a2f6ee6ece00dfad26382bf00,
    0xef34f74a76ea4cad15ba1cac3f3b5ebb1aa3031c96d7ba3ca9ec444d78f3efc9⟩,
  ⟨0xe3127bf397ecdba43a7f1a7bce0dc6cec33a607182812f4d0667265226c80f94,
    0x98a5ea2d36b55e411b432814887a93e25c06ba3a77e6e45e40a8303212ca8004,
    0x89a98ca005cbc498dd754db256e31d2ffffcca852af88000f18c319491cdc0f9⟩,
  ⟨0x253625b196b37eeb30eec1a8141e46e42389e658002289566f2fe12e77c997de,
    0xdb1c82c1d846977f8e55b55844ffdfca25039059d8b23a19da182e765d0e1c02,
    0xfa08685853ca03d25a0366bcddeeda229f7be7cb6b600ae429361bbeab63b590⟩,
  ⟨0xe95adf6e50b1acb978847ed314229e0263c290b7b3e762823c34b77de8981f22,
    0x5f212bf6bd95ec4f415387b967d1f8eec91dca95db6965681091a0bbc612470c,
    0x8271f22baad0d53840352062d2d72120b54e2bd5cf1b93a9f8648820e9674ef8⟩,
  ⟨0x3488716368e34d4c7c1ea31295526666f183d41c73fb7d1d6cf003c6cc08cd17,
    0x132b1a675239d7132717070db7963ed6f741925ae13fc932f303602e51375801,
    0x38755ce4950b34a09e2806f585d0ff625ebec8dbee9b11fc40ecbd848e69844d⟩,
  ⟨0x5fd6d7de1e872278ee160f11c24dd615a52cf6a0d9bd0fbb8cc8da3cb8fba2a2,
    0x4b546515478c5ee64ac48e83177567572b7751296310b85eba6d11df7f59d10f,
    0x766bda2e8862cfb367b1b87f245a17997b10529b6a70fe94c61c57c7b93694ce⟩,
  ⟨0xa569527d9b6b9a2ce3f2883c69a51bf7d49713c80c00ff5c7dc5bcaef4edc070,
    0xffde8c1fade522ab4c655878aaa8c5814ca1653c223892b62e3215055481d005,
    0x762ce754685b225e06596f3fc063619252a191e9903ea26f7acf557746b57ac8⟩,
  ⟨0xa743d2bc072bd4450857e42fe68e4f64db78c5524475b4bdd02865d1a7280ebf,
    0xb603d1b4c8f20dee1018b4851037a7b738066e99049b274ad1a046730fb0290b,
    0x0710406f80aa158eb3368d9c27675009bc01be1e66e760ee606d4dcd9e7d5d40⟩,
  ⟨0x0cbb13c08804f4822176f6984ef1815540e8c631fe842395d6cfd832bd036932,
    0x13ae7c2630e77008cc66a21da5abab79093186951c0c93760aa48c6b05c6e80a,
    0x783079022c2adfc12099ac6543a4aa4639bc3d327a8798b96925588de4efdf7a⟩,
  ⟨0x50ee43f5d55a06a480b2e09b03a1d7e5706d51df9d898988a0cf993f99d46c53,
    0x75a24c8d514dbf1145906c83366549560fb456c7e61a0adc4c6066a9c9187f05,
    0xc7f7f1d88c3e24bdf6969c9e1a8363b32994be51754b6e2585450f145def8dde⟩,
  ⟨0x42b6df55b6a5a250d9dcc136bc023150e4fb4a1442f8020fbafb33f92944d1de,
    0x9c4b311f69186f52965eedcd9592889a515017bfb7a45a0beff22143badf0900,
    0x8138bb0fdb6ae82a1255f538e19d52811f1fef9bded9a6b79372e4142ddbb308⟩,
  ⟨0x56d3183fbaae44569c2eb0658180ee3deef3559458fc04724e20796b3da41936,
    0xc82903cd3b80302b548e4de558187dd2396c2059771a37f030252d0635719902,
    0x32e9bc8305d4f1046a5109e35979a69c5fc02df80a7f79a5f3e37ff3943dd670⟩,
  ⟨0x6bcc4aed0e8a86cd1dbcdc8ec22e08d8d7efe7744fdc90f036c79afcbf9235a7,
    0xfe754ed9011403b8214d109b6a7f768aa7f4eeff1bbd73a23058d762540c550b,
    0x276a603a86dff4753b82ed3c8af4d08ec7aaf74ffe085019e6accd5fd9553473⟩,
  ⟨0x37097b9204d0b1869e29b3036a0849c746e76e499544264285b14879c9123d2f,
    0xce63d128a9eb33451cb343c0ba5fceb1831ad891926fedff56c3c43ded8bd30f,
    0x76faffe98964d5420ef106aeb811dcf785aebeb3b58939b522782dca2e5827a5⟩,
  ⟨0x4ecf6c347668a1d88e0b83bb9a96417b64209619656cb7609bb10f242be4cd00,
    0x1ff2df9134f8c25bd06d907e865dc05e70b35621ceb0d79d2d367a5a36269906,
    0x849866e7817a8a4f5f10f601ca1c854ea0973fa9d1afe9a0a6042fb37ad7443c⟩,
  ⟨0x8421bda922afb6aaa9edebd316e29490d6ab6df8aedeb8a7d6137347315dd8c9,
    0xf7245dda41b40ecb14d38a1da3fe36a485c7375ea3fa5fb0fb1184a700773509,
    0x38b9c1a1ac627f9fdd2780b40f1246ad6c4a4a589e693ba4bc13f35cbad90724⟩,
  ⟨0xf0d61a60803c3d4f5f637324322b703de162c50f57086943347ebfb50966e5c2,
    0x03f1e58d75f3cbc2b8d5c91effa4856acde3c26c294e75080b28db2374e8330d,
    0xc11171a718a30f42cebbedd35ed6c51073480d587c2f1aa9ae6c1425b3d933c7⟩,
  ⟨0x1c204ba26ee91dbbce1655f0951c2afd75b2e7fc40100b43434f3aeed689c180,
    0x7f3c77cbe3b832a8e98cc2bfca5f3760c47a1734a9176452850640121d23230d,
    0x51e42b6a705fe6f4f36d27a0cea5d352982659bda9270020a37368e0fe8dc19b⟩,
  ⟨0xe7cca8cc15ca5298ff184ab3c73404134cb9fa6ac6c5605373e7e381d31e3bee,
    0xa37033204500376c660c0a84c1afbcb443d46391b5fada399611c89ce7fd0d09,
    0xc3e732ecc66a242df53c4bd7ba0a75394d50559231384cae4ea1df9de3339456⟩,
  ⟨0x9ba036db6a3064d321d6b387d74f0ed0496783669cffeb5be65af94f57af0494,
    0x3672c3731971f4b98da16bfc8ddf05b210d485d9a5d7018d44a0caa896b84f00,
    0x0928830a9967e36594631808bced0f87308efa8494018b9530553cefc7973764⟩,
  ⟨0x25943d916abe991e30137b256037b22fd424cd4ccaa598ec81e0ff45db9b7cd3,
    0x2b95cdc36cfbfaf56dc0922597735a29a7afbf7c42ac58d6eaf65fbe2d39360f,
    0x5bc2aa90a4f770a31647831a5fc752c7b390f894e5f16677d1f62aead5ee3e62⟩]

def longAgo : String := "1999-12-31T09:00:00.000Z"

/-- A mandate for everything, for a thousand years. -/
def handed (grantor grantorKey role grantee granteeKey : String) (parent : Option String) (maxDepth : Nat)
    (sig : Members) : Value :=
  .object ([("grantee", .object [("key", .string granteeKey), ("subject", .string grantee)]),
    ("grantor", .object [("key", .string grantorKey), ("role", .string role), ("subject", .string grantor)]),
    ("issued-at", .string longAgo), ("kind", .string "mandate"),
    ("mandate-kind", .string (if parent = none then "interactive" else "delegated")),
    ("max-depth", .ofNat maxDepth), ("nonce", nonce 'd'), ("not-after", .string "2999-12-31T17:00:00.000Z"),
    ("not-before", .string longAgo), ("parent", .ofOption parent),
    ("scope", .object [("actions", texts ["*"]), ("classes", texts ["*"]), ("components", texts ["*"]),
      ("resources", texts ["*"])])] ++ sig ++ [("v", .string "stozher/0.1")])

/-- The mandate so many below the root's: it goes from the person to the bridge, from the bridge to the operator, and
then to and fro between the operator and a helper. -/
def handing (k : Nat) : Recorded :=
  let own := handings.getD k ⟨0, 0, 0⟩
  let above := hex 64 (handings.getD (k - 1) ⟨0, 0, 0⟩).digest
  { form :=
      if k = 0 then handed "human:mira" miraKey "human" "agent:github" githubKey none 20
      else if k = 1 then handed "agent:github" githubKey "agent" "agent:ops" opsKey (some above) (20 - k)
      else if k % 2 = 1 then handed "agent:helper" strangerKey "agent" "agent:ops" opsKey (some above) (20 - k)
      else handed "agent:ops" opsKey "agent" "agent:helper" strangerKey (some above) (20 - k)
    sealed := some (if k = 0 then miraKey else if k = 1 then githubKey else if k % 2 = 1 then strangerKey else opsKey,
      signatureText own.high own.low)
    digest := hex 64 own.digest }

def handingGrant (k : Nat) : Recorded :=
  let own := handingGrants.getD k ⟨0, 0, 0⟩
  { form := grant opsIdentity (k + 2) (some (if k = 0 then deepChange.digest
      else hex 64 (handingGrants.getD (k - 1) ⟨0, 0, 0⟩).digest)) (handing k).document
    sealed := some (opsKey, signatureText own.high own.low)
    digest := hex 64 own.digest }

def deepRevocation : Recorded where
  form := revocation (handing 20).digest
  sealed := some (githubKey, signatureText
    0xcf4ea9acd4628fa4d61159b6f9f87922d7fea8ca010036e3b4ff94ece8906550
    0x62cf46e384f49fde36b193e8a1c5cb67000f4743f8e6fbaf98e3c6ab87de6f06)
  digest := hex 64 0x716a10e21daab0860d435967fb42bfcbe8ce8f87f8b56522f281b76c6f4e5d4a

def deepRevoked : Recorded where
  form := revocationEnvelope 23 (some (handingGrant 20).digest) (handing 20).digest deepRevocation.document
  sealed := some (miraKey, signatureText
    0x586e7b3ab5749c41845930e0b67b4fa212f4677e1d9a8f56b2cb1b174bf53244
    0xb6190eca9fa1f244aaf2e4beba5cae13678752ccd8a7f70c007130dff8991f0a)
  digest := hex 64 0x6d21b91314c39f1911a316679191ad82c9500f867e812c83c408a7032cf0dd0b

def nearRevocation : Recorded where
  form := revocation (handing 1).digest
  sealed := some (githubKey, signatureText
    0x2dafae50016abde4a99d6d97b05ee10a3ac20096d848f2bbdfeda060385ce6fe
    0x3edaf35c947d94f81300874df094fe0cd3e441d7819989fe2f4dfd0b4f1a770b)
  digest := hex 64 0xf3b78b6ed6fb28cf0fccbf7571fce3dc4189e0eaf252ad32987b53f3a17ea012

def nearRevoked : Recorded where
  form := revocationEnvelope 23 (some (handingGrant 20).digest) (handing 1).digest nearRevocation.document
  sealed := some (miraKey, signatureText
    0xc9a9e984e57477d160217e35d87b8bb92393bd938843475afbd6d35e99833ea0
    0x01a0a8c9fc0e19bf4d02e417796b1b9377905e065254460c8900289604e5e905)
  digest := hex 64 0xae25cf9c3657fd2a3517f76d0e8b0255aeeed99d801e021b5981b6baf31cb5d4

/-- The recorded document a tree is, told from its depth, its place and its members. -/
def handingOf (tree : Value) : Recorded :=
  match tree.get "max-depth", tree.get "mandate", tree.get "seq" with
  | some (.number (.posInt n _)), none, none =>
      if tree.get "parent" = some .null ∧ n = 2 then opsMandate else handing (20 - n)
  | none, some (.object _), some (.number (.posInt n _)) => if n < 2 then opsGrant else handingGrant (n - 2)
  | none, none, none =>
      if (tree.get "decision").isSome then deepApproval
      else if (tree.get "action").isSome then deepRequest
      else if (tree.get "revokes").isSome then
        if tree.getStr "revokes" = some (handing 1).digest then nearRevocation else deepRevocation
      else deepPolicy
  | _, _, _ =>
      if (tree.get "revokes").isSome then
        if tree.getStr "revokes" = some (handing 1).digest then nearRevoked else deepRevoked
      else deepChange

def handingExt : External :=
  { external [] with
    sha256Hex := fun octets =>
      match octets with
      | .canonical form => (handingOf form.tree).digest
      | .other _ => ""
    verifyStrict := fun key octets value =>
      match octets with
      | .canonical form => (handingOf form.tree).sealed == some (key.text, value)
      | .other _ => false }

/-- Twenty-one mandates, each granted beneath the one before it. -/
@[irreducible] def handedDown : World :=
  (kernel handingExt config).run .initial
    (granting ++ enter (submission deepChange.document [deepPolicy]) nine ++
      (List.range 21).flatMap fun k => enter (submission (handingGrant k).document []) nine)

theorem handed_reachable : (kernel handingExt config).Reachable handedDown := by
  unfold handedDown
  exact ⟨.initial, _, rfl, rfl⟩

/-- What a mandate is walked for. -/
def benignNote : Mandate.Scoped :=
  .full { component := "kernel", action := "kernel.note", classification := "benign", resource := "ticket:7" }

/-- What is carried by an envelope that revokes, apart from the store. -/
def carries (ext : External) (env object : Value) (target : String) : Bool :=
  env.get "revocation" == some object &&
    ["revokes", "revoked-at", "reason"].all (fun name => sameMember (env.get name) (object.get name)) &&
    env.getStr "revokes" == some target && object.getStr "revokes" == some target && Crypto.isDigestHex target &&
    env.getStr "revoked-at" == some quarterPast && object.getStr "revoked-at" == some quarterPast &&
    isOk (Clock.parseTimestamp quarterPast) && isOk (Signed.objectId ext env)

deriving instance DecidableEq for MandateRow

/-- The row of a mandate that an envelope grants. -/
def rowOf (mandate granted : Recorded) : MandateRow where
  mandateId := mandate.digest
  parent := mandate.document.getStr "parent"
  mandateKind := (mandate.document.getStr "mandate-kind").getD ""
  grantorKey := ((mandate.document.index "grantor").getStr "key").getD ""
  granteeKey := ((mandate.document.index "grantee").getStr "key").getD ""
  granteeSubject := ((mandate.document.index "grantee").getStr "subject").getD ""
  notBefore := (mandate.document.getStr "not-before").getD ""
  notAfter := (mandate.document.getStr "not-after").getD ""
  documentJson := { tree := mandate.document }
  envelopeId := granted.digest

/-- A store of the mandates alone. -/
def handingStore : Store :=
  { Store.empty with
    mandates := rowOf opsMandate opsGrant :: (List.range 21).map fun k => rowOf (handing k) (handingGrant k) }

theorem handed_seen : ((policyInForce handingExt config handedDown.store).toOption.map (Option.map (·.maxDelegationDepth)),
    handedDown.store.mandates, handedDown.store.revocations.length, rootKeysAt handedDown.store quarterPast) =
      (some (some 100), handingStore.mandates, 0, [anaId, miraId]) := by
  decide +kernel

theorem mandates_handed : handedDown.store.mandates = handingStore.mandates :=
  (Prod.mk.inj (Prod.mk.inj handed_seen).2).1

theorem mandate_handed : handedDown.store.mandate = handingStore.mandate := by
  funext id
  unfold Store.mandate Store.mandateRow
  rw [mandates_handed]

theorem parentOf_handed : handedDown.store.parentOf = handingStore.parentOf := by
  funext id
  unfold Store.parentOf
  rw [mandate_handed]

/-- Who granted the mandate so many above. -/
def grantorAbove (steps : Nat) (leaf : String) : Option (Option KeyId) :=
  (climb handingStore.parentOf steps leaf).map fun ancestor =>
    (handingStore.mandate ancestor).bind fun mandate => (Mandate.keyAt mandate "grantor").toOption

def verifies (leaf : String) (holder : KeyId) : Bool :=
  isOk (Mandate.walk handingExt handingStore.listed leaf benignNote {
    roots := [anaId, miraId], revocations := [], at_ := nine, subjectKey := holder, maxDelegationDepth := 100 })

structure LineageSeen : Prop where
  nearVerifies : verifies (handing 1).digest opsId = true
  nearGranted : grantorAbove 0 (handing 1).digest = some (some githubId)
  nearIssued : (handingStore.mandate (handing 1).digest).map (·.getStr "issued-at") = some (some longAgo)
  longVerifies : verifies (handing 20).digest strangerId = true
  longGranted : grantorAbove 19 (handing 20).digest = some (some githubId)
  notSooner : ∀ steps ∈ List.range 19, grantorAbove steps (handing 20).digest ≠ some (some githubId)
  longIssued : (handingStore.mandate (handing 20).digest).map (·.getStr "issued-at") = some (some longAgo)
  nearCarries : carries handingExt nearRevoked.document nearRevocation.document (handing 1).digest = true
  nearSigned : (Signed.verifySignedObject handingExt nearRevocation.document).toOption = some githubId
  longCarries : carries handingExt deepRevoked.document deepRevocation.document (handing 20).digest = true
  longSigned : (Signed.verifySignedObject handingExt deepRevocation.document).toOption = some githubId
  emitted : emittedAt deepRevoked.document = quarterPast
  later : longAgo ≤ quarterPast
  notRoot : githubId ∉ [anaId, miraId]

theorem lineage_seen : LineageSeen := by
  constructor <;> decide +kernel

theorem walked_of_verifies {leaf : String} {holder : KeyId} (verified : verifies leaf holder = true) :
    ∃ result, Mandate.walk handingExt (walkParams handedDown.store leaf [anaId, miraId] holder nine 100).1 leaf benignNote
      (walkParams handedDown.store leaf [anaId, miraId] holder nine 100).2 = .ok result := by
  obtain ⟨result, walked⟩ := isOk_iff.mp verified
  have listed : handedDown.store.listed = handingStore.listed := by
    unfold Store.listed
    rw [mandates_handed]
  have unrevoked : handedDown.store.revocations = [] :=
    List.length_eq_zero_iff.mp (Prod.mk.inj (Prod.mk.inj (Prod.mk.inj handed_seen).2).2).1
  rw [← listed] at walked
  exact ⟨result, Store.walk_listed (World.consistent handed_reachable) unrevoked (by decide) walked⟩

theorem grantedWithin_of_above {leaf : String} {steps : Nat} {signer : KeyId}
    (seen : grantorAbove steps leaf = some (some signer)) : handedDown.store.GrantedWithin steps leaf signer := by
  obtain ⟨ancestor, reached, granted⟩ := Option.map_eq_some_iff.mp seen
  obtain ⟨mandate, stored, grantor⟩ := Option.bind_eq_some_iff.mp granted
  rw [← parentOf_handed] at reached
  rw [← mandate_handed] at stored
  exact ⟨steps, le_rfl, ancestor, mandate, reached, stored, toOption_eq_some.mp grantor⟩

theorem revoking_of_carries {ext : External} {store : Store} {env object : Value} {target issued : String} {signer : KeyId}
    (carried : carries ext env object target = true) (signed : (Signed.verifySignedObject ext object).toOption = some signer)
    (issue : (store.mandate target).map (·.getStr "issued-at") = some (some issued)) (order : issued ≤ quarterPast) :
    Revoking ext store env object target quarterPast signer := by
  unfold carries at carried
  simp only [Bool.and_eq_true, beq_iff_eq, List.all_eq_true] at carried
  obtain ⟨⟨⟨⟨⟨⟨⟨⟨isObject, repeated⟩, names⟩, named⟩, digest⟩, instant⟩, signedInstant⟩, dated⟩, hashed⟩ := carried
  refine ⟨isObject, repeated, names, named, digest, instant, signedInstant, dated, toOption_eq_some.mp signed, hashed, ?_⟩
  intro mandate issuedAt stored issuedThen
  rw [stored, Option.map_some, Option.some.injEq] at issue
  cases issuedThen.symm.trans issue
  exact order

theorem grantedBy_of_within {leaf : String} {steps : Nat} {signer : KeyId}
    (within_ : handedDown.store.GrantedWithin steps leaf signer) : handedDown.store.GrantedBy leaf signer := by
  obtain ⟨fewer, _, ancestor, mandate, reached, stored, grantor⟩ := within_
  exact ⟨ancestor, mandate, above_iff_climb.mpr ⟨fewer, reached⟩, stored, grantor⟩

/-- The bridge may revoke the mandate it granted itself. -/
theorem bridge_revokes :
    (∃ next, validateRevocation handingExt handedDown.store nearRevoked.document
      (rootKeysAt handedDown.store (emittedAt nearRevoked.document))
      (initialPlan nearRevoked.document nearRevoked.digest { tree := nearRevoked.document } quarterPast) = .ok next) ∧
    TakesEffect handingExt handedDown.store nearRevocation.document (handing 1).digest quarterPast 100 := by
  obtain ⟨result, walked⟩ := walked_of_verifies lineage_seen.nearVerifies
  have within_ := grantedWithin_of_above lineage_seen.nearGranted
  have issued := lineage_seen.nearIssued
  rw [← mandate_handed] at issued
  have revoking := revoking_of_carries lineage_seen.nearCarries lineage_seen.nearSigned issued lineage_seen.later
  apply (World.grantor_revokes_iff handed_reachable walked (grantedBy_of_within within_) revoking _).mpr
  obtain ⟨fewer, few, reached⟩ := within_
  exact Or.inr ⟨fewer, le_trans few (Nat.zero_le 18), reached⟩

/-- The bridge granted the mandate nineteen above the last one, and its revocation of the last one is refused. -/
theorem bridge_does_not_revoke : ¬∀ (ext : External) config world, (kernel ext config).Reachable world →
    ∀ target revokedAt at_ roots subjectKey signer depth request result env object,
      Mandate.walk ext (walkParams world.store target roots subjectKey at_ depth).1 target request
        (walkParams world.store target roots subjectKey at_ depth).2 = .ok result →
      world.store.GrantedBy target signer → Revoking ext world.store env object target revokedAt signer →
        ∀ plan, (∃ next, validateRevocation ext world.store env (rootKeysAt world.store (emittedAt env)) plan = .ok next) ∧
          TakesEffect ext world.store object target revokedAt depth := by
  intro revokes
  obtain ⟨result, walked⟩ := walked_of_verifies lineage_seen.longVerifies
  have granted := grantedBy_of_within (grantedWithin_of_above lineage_seen.longGranted)
  have issued := lineage_seen.longIssued
  rw [← mandate_handed] at issued
  have revoking := revoking_of_carries lineage_seen.longCarries lineage_seen.longSigned issued lineage_seen.later
  obtain ⟨accepted, _⟩ := revokes _ _ _ handed_reachable _ _ _ _ _ _ _ _ _ _ _ walked granted revoking
    (initialPlan deepRevoked.document deepRevoked.digest { tree := deepRevoked.document } quarterPast)
  have authorized := (validateRevocation_ok_iff revoking _ _).mp accepted
  rw [lineage_seen.emitted, show rootKeysAt handedDown.store quarterPast = [anaId, miraId] from
    (Prod.mk.inj (Prod.mk.inj (Prod.mk.inj handed_seen).2).2).2] at authorized
  obtain ⟨rest, ascends, _⟩ := Store.walked_path walked
  rcases (Store.revokerIsAuthorized_iff (World.consistent handed_reachable) ascends _ _).mp authorized with
    root | ⟨steps, few, ancestor, mandate, reached, stored, grantor⟩
  · exact lineage_seen.notRoot root
  · rw [parentOf_handed] at reached
    rw [mandate_handed] at stored
    apply lineage_seen.notSooner steps (List.mem_range.mpr (Nat.lt_succ_of_le few))
    unfold grantorAbove
    rw [reached, Option.map_some, stored, Option.bind_some, grantor]
    rfl

end Stozher.Deployment
