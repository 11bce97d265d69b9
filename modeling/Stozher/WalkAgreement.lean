import Stozher.Deployment
import Stozher.Mandate.Agreement
import Stozher.Mandate.Grant
import Stozher.ScopeAgreement

namespace Stozher.Gateway.MandateWalk

open Library Stozher.Mandate

section Links

variable {ext : External} {mandates : Members} {params : VerifyParams} {request : Scoped} {mandate : Value}

theorem item_eq_ok {object value : Value} {name : String} (read : item object name = .ok value) :
    object.get name = some value := by
  cases object with
  | object members => exact okOr_eq_ok.mp read
  | null => cases read
  | bool b => cases read
  | number n => cases read
  | string s => cases read
  | array items => cases read

theorem lookup_eq_ok {object value : Value} {name : String} (read : lookup object name = .ok value) :
    value = (object.get name).getD .null := by
  cases object with
  | object members =>
      cases read
      rfl
  | null => cases read
  | bool b => cases read
  | number n => cases read
  | string s => cases read
  | array items => cases read

theorem lookupOr_eq_ok {object value default : Value} {name : String} (read : lookupOr object name default = .ok value) :
    value = (object.get name).getD default := by
  cases object with
  | object members =>
      cases read
      rfl
  | null => cases read
  | bool b => cases read
  | number n => cases read
  | string s => cases read
  | array items => cases read

theorem text_eq_ok {value : Value} {s : String} (read : text value = .ok s) : value = .string s := by
  unfold text at read
  rw [okOr_eq_ok] at read
  cases value with
  | string held =>
      cases read
      rfl
  | null => cases read
  | bool b => cases read
  | number n => cases read
  | array items => cases read
  | object members => cases read

/-- What a walk of the gateway is given where the kernel's is given the rest. -/
def walkParams (request : Scoped) (params : VerifyParams) : WalkParams where
  request := match request with
    | .full request => some request
    | _ => none
  resourceOnly := match request with
    | .byResource resource => some resource
    | _ => none
  at_ := params.at_
  subjectKey := params.subjectKey.text
  roots := params.roots.map KeyId.text
  revocations := params.revocations
  maxDepth := params.maxDelegationDepth

/-- What the gateway finds of each link of a walk. -/
structure Passed (ext : External) (request : Scoped) (params : VerifyParams) (mandate : Value) : Prop where
  window : ∃ start stop, windowOf mandate = .ok (start, stop) ∧ start ≤ params.at_ ∧ params.at_ ≤ stop
  instant : ∃ id, Signed.objectId ext mandate = .ok id ∧
    checkInstant (revocationInstants ext params.revocations) id params.at_ = .ok ()
  scope : ∀ asked ∈ wanted request, ∀ scope, mandate.get "scope" = some scope →
    dimensionPermits scope asked.1 asked.2 = .ok true

theorem getStr_of_read {value : Value} {name s : String} {held : Value} (found : value.get name = some held)
    (isText : held = .string s) : value.getStr name = some s := by
  unfold Value.getStr
  rw [found, isText]
  rfl

theorem verifyLink_passed (passed : verifyLink ext (revocationInstants ext params.revocations)
    (walkParams request params) mandate = .ok ()) : Passed ext request params mandate := by
  unfold verifyLink at passed
  simp only [bind_eq_ok] at passed
  obtain ⟨_, _, _, _, _, _, _, window, id, hasId, _, instant, _, full, resource⟩ := passed
  refine ⟨?_, ⟨id, hasId, instant⟩, ?_⟩
  · unfold checkWindow at window
    simp only [bind_eq_ok, require_eq_ok] at window
    obtain ⟨before, hasBefore, start, isStart, _, after, later, hasLater, stop, isStop, until_⟩ := window
    refine ⟨start, stop, ?_, after, until_⟩
    unfold windowOf
    rw [getStr_of_read (item_eq_ok hasBefore) (text_eq_ok isStart),
      getStr_of_read (item_eq_ok hasLater) (text_eq_ok isStop)]
    rfl
  · intro asked inside scope found
    cases request with
    | full request =>
        unfold checkRequest walkParams at full
        simp only [bind_eq_ok, require_eq_ok] at full
        obtain ⟨other, read, permitted, permits, holds⟩ := full
        rw [item_eq_ok read] at found
        cases found
        subst holds
        exact everyChecked_eq_true.mp permits asked inside
    | byResource resource =>
        unfold checkResource walkParams at resource
        simp only [bind_eq_ok, require_eq_ok] at resource
        obtain ⟨other, read, permitted, permits, holds⟩ := resource
        rw [item_eq_ok read] at found
        cases found
        subst holds
        cases List.mem_singleton.mp inside
        exact permits
    | not => cases inside

/-- What the grant of a mandate was checked for. -/
structure GrantChecked (ext : External) (mandate : Value) (parent : Option Value) : Prop where
  parties : ∃ grantor grantee, checkSigner ext mandate = .ok grantor ∧ keyAt mandate "grantee" = .ok grantee
  scope : ∃ scope, mandate.get "scope" = some scope ∧
    ∀ dimension ∈ dimensions, ∃ names, patterns scope dimension = .ok names
  kind : (∃ kind, mandate.getStr "mandate-kind" = some kind ∧ (kind = "interactive" ∨ kind = "standing") ∧
      grantorRoleOf mandate = .ok "human" ∧ mandate.getStr "parent" = none) ∨
    (mandate.getStr "mandate-kind" = some "delegated" ∧ grantorRoleOf mandate = .ok "agent" ∧
      ∃ parentRef above, mandate.getStr "parent" = some parentRef ∧ parent = some above ∧
        ∀ grantor, checkSigner ext mandate = .ok grantor → checkHeld grantor above = .ok () ∧
          ∀ exhausted, checkNarrowing mandate above (maxDepthOf mandate) exhausted = .ok ())

theorem checkNarrowing_text {current parent : Value} {own : Result Nat} {exhausted other : String}
    (passed : checkNarrowing current parent own exhausted = .ok ()) :
    checkNarrowing current parent own other = .ok () := by
  unfold checkNarrowing at passed ⊢
  simp only [bind_eq_ok, require_eq_ok] at passed ⊢
  exact passed

theorem validateScope_patterns {scope : Value} (valid : validateScope scope = .ok ()) :
    ∀ dimension ∈ dimensions, ∃ names, patterns scope dimension = .ok names := by
  unfold validateScope at valid
  rw [forEach_eq_ok] at valid
  intro dimension inside
  have checked := valid dimension inside
  rw [bind_eq_ok] at checked
  obtain ⟨names, read, _⟩ := checked
  exact ⟨names, read⟩

theorem isNull_getStr {name : String} (null : ((mandate.get name).getD .null).isNull = true) :
    mandate.getStr name = none := by
  unfold Value.getStr
  cases found : mandate.get name with
  | none => rfl
  | some value =>
      rw [found] at null
      cases value with
      | null => rfl
      | bool b => cases null
      | number n => cases null
      | string s => cases null
      | array items => cases null
      | object members => cases null

theorem verifyGrant_checked {parent : Option Value} {grants : GrantParams}
    (granted : verifyGrant ext mandate parent grants = .ok ()) : GrantChecked ext mandate parent := by
  unfold verifyGrant at granted
  simp only [bind_eq_ok, okOr_eq_ok] at granted
  obtain ⟨⟨grantorKey, granteeKey, notAfter, depth⟩, shape, kind, hasKind, role, hasRole, granted⟩ := granted
  unfold checkGrantShape at shape
  simp only [bind_eq_ok, okOr_eq_ok, pure_eq_ok] at shape
  obtain ⟨grantor, signer, grantee, isGrantee, _, _, _, _, _, _, _, _, _, _, _, _, _, _, scope, found, _, valid,
    own, isOwn, same⟩ := shape
  cases same
  refine ⟨⟨grantorKey, granteeKey, signer, isGrantee⟩, ⟨scope, found, validateScope_patterns valid⟩, ?_⟩
  dsimp only at granted
  split at granted
  · rename_i rooted
    unfold verifyRootGrant at granted
    simp only [bind_eq_ok] at granted
    obtain ⟨_, root, _⟩ := granted
    obtain ⟨parentless, isHuman, _⟩ := checkRootGrant_eq_ok root
    exact .inl ⟨kind, hasKind, rooted, by rw [hasRole, isHuman], isNull_getStr parentless⟩
  · split at granted
    · rename_i delegated
      unfold verifyDelegatedGrant at granted
      simp only [bind_eq_ok, require_eq_ok, okOr_eq_ok] at granted
      obtain ⟨_, named, _, isAgent, above, isParent, _, held, narrowed⟩ := granted
      cases named_ : mandate.getStr "parent" with
      | none => exact absurd (by rw [named_, Option.getD_none]) named
      | some parentRef =>
          refine .inr ⟨delegated ▸ hasKind, by rw [hasRole, isAgent], parentRef, above, rfl, isParent, ?_⟩
          intro other isOther
          cases signer.symm.trans isOther
          refine ⟨held, ?_⟩
          intro exhausted
          rw [isOwn]
          exact checkNarrowing_text narrowed
    · cases granted

/-- A table of mandates under their ids, each of which was granted under the one it names, where the table holds
that one. -/
structure Granted (ext : External) (mandates : Members) : Prop where
  distinct : mandates.Distinct
  ids : ∀ id mandate, mandates.get id = some mandate → Signed.objectId ext mandate = .ok id
  granted : ∀ id mandate, mandates.get id = some mandate → ∃ parent params,
    verifyGrant ext mandate parent params = .ok () ∧
      ∀ parentRef above, mandate.getStr "parent" = some parentRef → mandates.get parentRef = some above →
        parent = some above

/-- A root's mandate alone, under its id. -/
theorem Granted.alone {id : String} {grants : GrantParams} (hasId : Signed.objectId ext mandate = .ok id)
    (granted : verifyGrant ext mandate none grants = .ok ()) (parentless : mandate.getStr "parent" = none) :
    Granted ext [(id, mandate)] := by
  have only : ∀ other held, Members.get [(id, mandate)] other = some held → other = id ∧ held = mandate := by
    intro other held found
    by_cases same : id = other
    · subst same
      rw [Members.get_cons_self] at found
      exact ⟨rfl, (Option.some.inj found).symm⟩
    · rw [Members.get_cons_of_ne same] at found
      cases found
  refine ⟨List.nodup_singleton id, ?_, ?_⟩
  · intro other held found
    obtain ⟨rfl, rfl⟩ := only other held found
    exact hasId
  · intro other held found
    obtain ⟨rfl, rfl⟩ := only other held found
    refine ⟨none, grants, granted, ?_⟩
    intro parentRef above named _
    rw [parentless] at named
    cases named

end Links

section Walks

variable {ext : External} {readInt : String → Option Int} {mandates : Members} {params : VerifyParams}
  {request : Scoped} {id : String} {mandate : Value} {depth : Nat} {taken : MandateOk}

theorem getStr_of_getD {name s : String} (read : ((mandate.get name).getD .null).asStr = some s) :
    mandate.getStr name = some s :=
  (Value.index_asStr mandate name).symm.trans read

/-- Where a walk of the gateway ends. -/
structure Topped (roots : List KeyId) (mandate : Value) (depth : Nat) (taken : MandateOk) : Prop where
  parentless : ((mandate.get "parent").getD .null).isNull = true
  grantor : ∃ grantor root, mandate.get "grantor" = some grantor ∧ root ∈ roots ∧
    grantor.getStr "key" = some root.text ∧ taken.rootKey = root.text ∧
    grantor.get "subject" = some taken.humanRoot
  depth : taken.depth = depth

theorem acceptRoot_topped (accepted : acceptRoot ext (walkParams request params) mandate depth = .ok taken) :
    Topped params.roots mandate depth taken := by
  unfold acceptRoot at accepted
  simp only [bind_eq_ok, require_eq_ok, pure_eq_ok] at accepted
  obtain ⟨parent, hasParent, _, parentless, grantor, hasGrantor, _, _, _, _, key, hasKey, _, enrolled, subject,
    hasSubject, same⟩ := accepted
  rw [lookup_eq_ok hasParent] at parentless
  obtain ⟨text, member, isKey⟩ := List.any_eq_true.mp enrolled
  obtain ⟨root, inside, rfl⟩ := List.mem_map.mp member
  have named : key = .string root.text := Value.asStr_eq_some (beq_iff_eq.mp isKey)
  subst same
  refine ⟨parentless, ⟨grantor, root, item_eq_ok hasGrantor, inside,
    getStr_of_read (item_eq_ok hasKey) named, ?_, item_eq_ok hasSubject⟩, rfl⟩
  rw [named]
  rfl

theorem acceptDelegation_eq_ok {parent : Value}
    (accepted : acceptDelegation ext readInt mandates mandate = .ok parent) :
    ∀ parentRef, mandate.getStr "parent" = some parentRef → mandates.get parentRef = some parent := by
  unfold acceptDelegation at accepted
  rw [bind_eq_ok] at accepted
  obtain ⟨reference, hasParent, accepted⟩ := accepted
  have isParent := lookup_eq_ok hasParent
  intro parentRef named
  have refers : reference = .string parentRef := by
    rw [isParent, Value.getStr_eq_some named]
    rfl
  subst refers
  rw [if_neg (show ¬(Value.string parentRef).isNull = true from Bool.false_ne_true)] at accepted
  unfold resolve at accepted
  simp only [bind_eq_ok, require_eq_ok, pure_eq_ok] at accepted
  obtain ⟨_, _, _, _, _, _, held, ⟨_, _, _, present, same⟩, _, _, _, _, _, _, _, _, _, _, _, _, _, _, _, _, _, _,
    isHeld⟩ := accepted
  subst isHeld same
  cases found : mandates.get parentRef with
  | none =>
      rw [show (Value.string parentRef).asStr = some parentRef from rfl, Option.bind_some, found] at present
      cases present
  | some value =>
      rw [show (Value.string parentRef).asStr = some parentRef from rfl, Option.bind_some, found]
      rfl

/-- One round of the gateway's loop over mandates that were granted. -/
theorem walkFrom_cases (table : Granted ext mandates) (stored : mandates.get id = some mandate)
    (walked : walkFrom ext readInt mandates (revocationInstants ext params.revocations)
      (walkParams request params) depth mandate = .ok taken) :
    Passed ext request params mandate ∧
      ((mandate.getStr "parent" = none ∧ Topped params.roots mandate depth taken) ∨
        ∃ parentRef parent, mandate.getStr "parent" = some parentRef ∧ mandates.get parentRef = some parent ∧
          depth + 1 ≤ params.maxDelegationDepth ∧
          walkFrom ext readInt mandates (revocationInstants ext params.revocations)
            (walkParams request params) (depth + 1) parent = .ok taken) := by
  obtain ⟨_, _, granted, _⟩ := table.granted id mandate stored
  have checked := verifyGrant_checked granted
  unfold walkFrom at walked
  simp only [bind_eq_ok] at walked
  obtain ⟨_, link, kind, hasKind, walked⟩ := walked
  refine ⟨verifyLink_passed link, ?_⟩
  have isKind := lookup_eq_ok hasKind
  split at walked
  · rename_i rooted
    refine .inl ⟨?_, acceptRoot_topped walked⟩
    exact isNull_getStr (acceptRoot_topped walked).parentless
  · split at walked
    · rename_i delegated
      rw [bind_eq_ok] at walked
      obtain ⟨parent, accepted, walked⟩ := walked
      rcases checked.kind with ⟨rooted, hasRooted, isRooted, _, _⟩ | ⟨_, _, parentRef, _, named, _, _⟩
      · rw [isKind] at delegated
        have same := Option.some.inj (hasRooted.symm.trans (getStr_of_getD delegated))
        rw [same] at isRooted
        exact absurd isRooted (by decide)
      · split at walked
        · rename_i deeper
          exact .inr ⟨parentRef, parent, named, acceptDelegation_eq_ok accepted parentRef named, deeper, walked⟩
        · cases walked
    · cases walked

/-- The gateway's loop passes every mandate above the one it starts at. -/
theorem walkFrom_passes (table : Granted ext mandates) (stored : mandates.get id = some mandate)
    (walked : walkFrom ext readInt mandates (revocationInstants ext params.revocations)
      (walkParams request params) depth mandate = .ok taken) {ancestor : String}
    (above : Relation.ReflTransGen (Above (parentOf mandates)) id ancestor) :
    ∃ held, mandates.get ancestor = some held ∧ Passed ext request params held := by
  induction above using Relation.ReflTransGen.head_induction_on generalizing mandate depth with
  | refl => exact ⟨mandate, stored, (walkFrom_cases table stored walked).1⟩
  | @head child next up _ ih =>
      have hasParent : mandate.getStr "parent" = some next := (parentOf_of_get stored).symm.trans up
      rcases (walkFrom_cases table stored walked).2 with ⟨none, _⟩ | ⟨parentRef, parent, named, found, _, walked⟩
      · rw [hasParent] at none
        cases none
      · rw [hasParent] at named
        cases named
        exact ih found walked

end Walks

section Agreement

variable {ext : External} {readInt : String → Option Int} {mandates : Members} {params : VerifyParams}
  {request : Scoped} {id : String} {mandate : Value} {depth : Nat} {taken : MandateOk}

/-- What the kernel asks of a mandate it walks over and the gateway does not. -/
structure Plain (request : Scoped) (mandate : Value) : Prop where
  spares : ∀ asked ∈ wanted request, ∀ scope, mandate.get "scope" = some scope → SparesDot scope asked
  named : mandate.getStr "parent" = none →
    ∃ subject, (mandate.get "grantor").bind (·.getStr "subject") = some subject

/-- A value that ends in no dot is spared by every scope. -/
theorem sparesDot_of_undotted {scope : Value} {asked : String × String}
    (undotted : Text.stripSuffix asked.2 "." = none) : SparesDot scope asked := by
  intro stem dotted
  rw [stripSuffix_eq_some.mpr dotted] at undotted
  cases undotted

/-- Both walks found the same human, key and depth. -/
structure Agree (taken : MandateOk) (result : MandateChainOk) : Prop where
  human : taken.humanRoot = .string result.humanRoot
  key : taken.rootKey = result.rootKey.text
  depth : taken.depth = result.depth

/-- A revocation the kernel counts the gateway counts too. -/
theorem revocationInstants_revoked {revocations : List Value} {roots : List KeyId} {revocation : Value}
    {at_ : String} (inside : revocation ∈ revocations)
    (counted : countedRevocation ext mandates roots revocation = some (id, at_)) :
    RevokedBy (revocationInstants ext revocations) id at_ := by
  obtain ⟨signer, signed, hasTarget, hasInstant, _, _⟩ := countedRevocation_eq_some.mp counted
  unfold revocationInstants
  apply foldl_recordRevocation
  refine List.mem_filterMap.mpr ⟨revocation, inside, ?_⟩
  unfold revocationInstant
  rw [signed, hasTarget, hasInstant]
  rfl

/-- Where the gateway finds no revocation of a mandate or of one above it, the kernel's index holds none. -/
theorem checkNotRevoked_of_passes (table : Granted ext mandates)
    (passes : ∀ ancestor, Relation.ReflTransGen (Above (parentOf mandates)) id ancestor →
      ∃ held, mandates.get ancestor = some held ∧ Passed ext request params held) :
    checkNotRevoked (revocationIndex ext mandates params.revocations params.roots) id params.at_ = .ok () := by
  unfold checkNotRevoked
  cases found : revocationIndex ext mandates params.revocations params.roots id with
  | none => rfl
  | some earliest =>
      obtain ⟨ancestor, revocation, inside, above, counted⟩ :=
        revocationIndex_explained table.distinct id earliest found
      obtain ⟨first, held, before⟩ := revocationInstants_revoked inside counted
      obtain ⟨mandate, stored, passed⟩ := passes ancestor above
      obtain ⟨own, hasId, clear⟩ := passed.instant
      have same : own = ancestor := Except.ok.inj (hasId.symm.trans (table.ids ancestor mandate stored))
      subst same
      unfold checkInstant at clear
      rw [held] at clear
      have later : params.at_ < first := not_le.mp (require_eq_ok.mp clear)
      exact require_eq_ok.mpr (later.trans_le before)

theorem checkWindow_of_windowOf {start stop at_ : String} (window : windowOf mandate = .ok (start, stop))
    (after : start ≤ at_) (before : at_ ≤ stop) : Stozher.Mandate.checkWindow mandate id at_ = .ok () := by
  unfold windowOf at window
  simp only [bind_eq_ok, okOr_eq_ok, pure_eq_ok] at window
  obtain ⟨_, hasStart, _, hasStop, same⟩ := window
  cases same
  unfold Stozher.Mandate.checkWindow
  simp only [bind_eq_ok, okOr_eq_ok, require_eq_ok]
  exact ⟨_, hasStop, _, hasStart, (), after, before⟩

theorem checkScope_of_permitted {scope : Value} (permitted : request.Permitted scope) :
    checkScope scope request = .ok () := by
  cases request with
  | full request =>
      unfold checkScope
      simp only [bind_eq_ok, require_eq_ok]
      exact ⟨true, permitted, rfl⟩
  | byResource resource =>
      unfold checkScope
      simp only [bind_eq_ok, require_eq_ok]
      exact ⟨true, permitted, rfl⟩
  | not => rfl

theorem wanted_dimension {asked : String × String} (inside : asked ∈ wanted request) : asked.1 ∈ dimensions := by
  cases request with
  | full request =>
      have names : asked.1 ∈ (wanted (.full request)).map Prod.fst := List.mem_map_of_mem inside
      exact names
  | byResource resource =>
      rw [List.mem_singleton.mp inside]
      show "resources" ∈ dimensions
      decide
  | not => cases inside

/-- A granted mandate the gateway passes permits what a walk looks for exactly where it spares the dot. -/
theorem permitted_iff_spares {parent : Option Value} {scope : Value} (checked : GrantChecked ext mandate parent)
    (passed : Passed ext request params mandate) (found : mandate.get "scope" = some scope) :
    request.Permitted scope ↔ ∀ asked ∈ wanted request, SparesDot scope asked := by
  obtain ⟨held, isHeld, readable⟩ := checked.scope
  rw [found] at isHeld
  cases isHeld
  rw [permitted_iff]
  constructor
  · intro permits asked inside
    obtain ⟨names, read⟩ := readable asked.1 (wanted_dimension inside)
    exact (permits_iff_sparesDot read (passed.scope asked inside scope found)).mp (permits asked inside)
  · intro spares asked inside
    obtain ⟨names, read⟩ := readable asked.1 (wanted_dimension inside)
    exact (permits_iff_sparesDot read (passed.scope asked inside scope found)).mpr (spares asked inside)

/-- The kernel passes a link the gateway passes, where its scope spares the dot. -/
theorem checkLink_of_passed {parent : Option Value} {index : RevocationIndex} {grantor : KeyId}
    (checked : GrantChecked ext mandate parent) (passed : Passed ext request params mandate)
    (plain : Plain request mandate) (signer : checkSigner ext mandate = .ok grantor)
    (clear : checkNotRevoked index id params.at_ = .ok ()) :
    checkLink ext index request params id mandate = .ok grantor := by
  obtain ⟨start, stop, window, after, before⟩ := passed.window
  obtain ⟨scope, found, _⟩ := checked.scope
  have permitted : request.Permitted scope :=
    (permitted_iff_spares checked passed found).mpr fun asked inside => plain.spares asked inside scope found
  unfold checkLink
  simp only [bind_eq_ok, okOr_eq_ok, pure_eq_ok]
  exact ⟨grantor, signer, (), checkWindow_of_windowOf window after before, (), clear, scope, found, (),
    checkScope_of_permitted permitted, rfl⟩

theorem keyId_eq {first second : KeyId} (same : first.text = second.text) : first = second := by
  cases first
  cases second
  cases same
  rfl

theorem keyAt_getStr {party : String} {key : KeyId} {held : Value} (read : keyAt mandate party = .ok key)
    (found : mandate.get party = some held) : held.getStr "key" = some key.text := by
  unfold keyAt at read
  rw [okOr_bind_eq_ok, found] at read
  obtain ⟨raw, named, parsed⟩ := read
  rw [KeyId.parse_text parsed]
  exact named

/-- The kernel ends where the gateway does, at a root. -/
theorem walkFrom_topped {parent : Option Value} {index : RevocationIndex}
    (checked : GrantChecked ext mandate parent) (passed : Passed ext request params mandate)
    (plain : Plain request mandate) (clear : checkNotRevoked index id params.at_ = .ok ())
    (parentless : mandate.getStr "parent" = none) (topped : Topped params.roots mandate depth taken) :
    ∃ result, Stozher.Mandate.walkFrom ext mandates index request params depth id mandate = .ok result ∧
      Agree taken result := by
  rcases checked.kind with ⟨kind, hasKind, rooted, hasRole, _⟩ | ⟨_, _, _, _, hasParent, _⟩
  · obtain ⟨key, _, signer, _⟩ := checked.parties
    obtain ⟨_, _, hasGrantor, _, _⟩ := checkSigner_eq_ok signer
    obtain ⟨grantor, root, found, enrolled, isRoot, isKey, isHuman⟩ := topped.grantor
    have named := (keyAt_getStr hasGrantor found).symm.trans isRoot
    have same : key = root := keyId_eq (Option.some.inj named)
    obtain ⟨subject, isSubject⟩ := plain.named parentless
    have human : taken.humanRoot = .string subject := by
      rw [found] at isSubject
      apply Value.asStr_eq_some
      have read : (grantor.get "subject").bind Value.asStr = some subject := isSubject
      rwa [isHuman] at read
    refine ⟨⟨subject, key, depth⟩, ?_, human, by rw [isKey, same], topped.depth⟩
    unfold Stozher.Mandate.walkFrom
    simp only [bind_eq_ok, okOr_eq_ok]
    refine ⟨key, checkLink_of_passed checked passed plain signer clear, kind, hasKind, "human", hasRole, ?_⟩
    rw [if_pos rooted]
    simp only [bind_eq_ok, okOr_eq_ok]
    refine ⟨(), ?_, subject, isSubject, rfl⟩
    unfold checkRootGrant
    simp only [bind_eq_ok, require_eq_ok]
    exact ⟨(), topped.parentless, (), trivial, same ▸ enrolled⟩
  · rw [hasParent] at parentless
    cases parentless

/-- The kernel goes on where the gateway does, with the parent. -/
theorem walkFrom_delegated {above : Option Value} {index : RevocationIndex} {parentRef : String} {parent : Value}
    {result : MandateChainOk} (checked : GrantChecked ext mandate above)
    (passed : Passed ext request params mandate) (plain : Plain request mandate)
    (clear : checkNotRevoked index id params.at_ = .ok ()) (named : mandate.getStr "parent" = some parentRef)
    (isAbove : above = some parent) (found : mandates.get parentRef = some parent)
    (deeper : depth + 1 ≤ params.maxDelegationDepth)
    (walked : Stozher.Mandate.walkFrom ext mandates index request params (depth + 1) parentRef parent = .ok result) :
    Stozher.Mandate.walkFrom ext mandates index request params depth id mandate = .ok result := by
  rcases checked.kind with ⟨_, _, _, _, parentless⟩ | ⟨hasKind, hasRole, ref, held, hasRef, isHeld, within⟩
  · rw [named] at parentless
    cases parentless
  · rw [isAbove] at isHeld
    rw [named] at hasRef
    cases isHeld
    cases hasRef
    obtain ⟨key, _, signer, _⟩ := checked.parties
    obtain ⟨keyHeld, narrowed⟩ := within key signer
    unfold Stozher.Mandate.walkFrom
    simp only [bind_eq_ok, okOr_eq_ok]
    refine ⟨key, checkLink_of_passed checked passed plain signer clear, "delegated", hasKind, "agent", hasRole, ?_⟩
    rw [if_neg (by decide), if_pos rfl]
    simp only [bind_eq_ok]
    refine ⟨(parentRef, parent), ?_, ?_⟩
    · unfold checkDelegation Stozher.Mandate.resolve
      simp only [bind_eq_ok, okOr_eq_ok, require_eq_ok, pure_eq_ok]
      exact ⟨parentRef, named, (), trivial, parent, found, (), keyHeld, (), narrowed _, rfl⟩
    · dsimp only
      rw [if_pos deeper]
      exact walked

/-- The kernel's loop follows the gateway's over mandates that are plain. -/
theorem walkFrom_agrees (table : Granted ext mandates) (stored : mandates.get id = some mandate)
    (plain : ∀ ancestor held, Relation.ReflTransGen (Above (parentOf mandates)) id ancestor →
      mandates.get ancestor = some held → Plain request held)
    (walked : walkFrom ext readInt mandates (revocationInstants ext params.revocations)
      (walkParams request params) depth mandate = .ok taken) :
    ∃ result, Stozher.Mandate.walkFrom ext mandates
      (revocationIndex ext mandates params.revocations params.roots) request params depth id mandate = .ok result ∧
      Agree taken result := by
  -- the rounds that remain below the depth limit
  induction remaining : params.maxDelegationDepth - depth generalizing depth id mandate with
  | zero =>
      obtain ⟨above, _, granted, _⟩ := table.granted id mandate stored
      have clear := checkNotRevoked_of_passes table fun ancestor above => walkFrom_passes table stored walked above
      obtain ⟨passed, ends⟩ := walkFrom_cases table stored walked
      rcases ends with ⟨parentless, topped⟩ | ⟨_, _, _, _, deeper, _⟩
      · exact walkFrom_topped (verifyGrant_checked granted) passed (plain id mandate .refl stored) clear parentless
          topped
      · omega
  | succ remaining ih =>
      obtain ⟨above, _, granted, resolves⟩ := table.granted id mandate stored
      have clear := checkNotRevoked_of_passes table fun ancestor above => walkFrom_passes table stored walked above
      obtain ⟨passed, ends⟩ := walkFrom_cases table stored walked
      rcases ends with ⟨parentless, topped⟩ | ⟨parentRef, parent, named, found, deeper, next⟩
      · exact walkFrom_topped (verifyGrant_checked granted) passed (plain id mandate .refl stored) clear parentless
          topped
      · have up : Above (parentOf mandates) id parentRef := by
          unfold Above parentOf
          rw [stored, Option.bind_some, named]
        obtain ⟨result, accepted, agree⟩ := ih found
          (fun ancestor held higher => plain ancestor held (.head up higher)) next (by omega)
        exact ⟨result, walkFrom_delegated (verifyGrant_checked granted) passed (plain id mandate .refl stored) clear
          named (resolves parentRef parent named found) found deeper accepted, agree⟩

theorem line_named {subject : String} {path : List (String × Value)}
    (line : Line ext mandates params request subject path) :
    ∀ link ∈ path, link.2.getStr "parent" = none →
      (link.2.get "grantor").bind (·.getStr "subject") = some subject := by
  induction line with
  | root link granted =>
      intro other inside _
      rw [List.mem_singleton.mp inside]
      exact granted.subject
  | delegated link delegation above ih =>
      intro other inside parentless
      rcases List.mem_cons.mp inside with same | later
      · rw [same, delegation.names] at parentless
        cases parentless
      · exact ih other later parentless

/-- A mandate both loops pass is plain. -/
theorem plain_of_walked {leafRef : String} {result : MandateChainOk} (table : Granted ext mandates)
    (accepted : walk ext mandates leafRef request params = .ok result)
    (passes : ∀ ancestor, Relation.ReflTransGen (Above (parentOf mandates)) leafRef ancestor →
      ∃ held, mandates.get ancestor = some held ∧ Passed ext request params held)
    (above : Relation.ReflTransGen (Above (parentOf mandates)) leafRef id)
    (stored : mandates.get id = some mandate) : Plain request mandate := by
  obtain ⟨leaf, rest, _, _, line, _, _⟩ := walk_line accepted
  have onPath : id ∈ ((leafRef, leaf) :: rest).map Prod.fst := line.ascends.mem_of_above above
  obtain ⟨link, inside, same⟩ := List.mem_map.mp onPath
  have ok := line.links link inside
  obtain ⟨ref, held⟩ := link
  cases same
  cases stored.symm.trans ok.stored
  refine ⟨?_, fun parentless => ⟨_, line_named line _ inside parentless⟩⟩
  intro asked wants scope found
  obtain ⟨other, isOther, permitted⟩ := ok.permitted
  rw [found] at isOther
  cases isOther
  obtain ⟨again, isAgain, passed⟩ := passes ref above
  cases stored.symm.trans isAgain
  obtain ⟨_, _, granted, _⟩ := table.granted ref _ stored
  exact (permitted_iff_spares (verifyGrant_checked granted) passed found).mp permitted asked wants

/-- Of a walk the gateway accepts, for a request, a resource alone or neither, the kernel accepts the same with the
same human, key and depth exactly where every mandate on the way is plain. -/
theorem kernel_accepts_iff_plain {leafRef : String} (table : Granted ext mandates)
    (accepted : verifyMandateChain ext readInt mandates leafRef (walkParams request params) = .ok taken) :
    (∃ result, walk ext mandates leafRef request params = .ok result ∧ Agree taken result) ↔
      ∀ id mandate, Relation.ReflTransGen (Above (parentOf mandates)) leafRef id →
        mandates.get id = some mandate → Plain request mandate := by
  unfold verifyMandateChain at accepted
  simp only [bind_eq_ok, require_eq_ok] at accepted
  obtain ⟨leaf, resolved, grantee, hasGrantee, key, hasKey, _, isSubject, walked⟩ := accepted
  have stored : mandates.get leafRef = some leaf := by
    unfold resolve at resolved
    simp only [bind_eq_ok, require_eq_ok, pure_eq_ok] at resolved
    obtain ⟨_, _, _, present, same⟩ := resolved
    rw [show (Value.string leafRef).asStr = some leafRef from rfl, Option.bind_some] at present same
    cases found : mandates.get leafRef with
    | none =>
        rw [found] at present
        cases present
    | some value =>
        rw [found] at same
        exact congrArg some same
  have passes := fun ancestor above => @walkFrom_passes _ _ _ _ _ _ _ _ _ table stored walked ancestor above
  constructor
  · intro ⟨result, kernel, _⟩ id mandate above found
    exact plain_of_walked table kernel passes above found
  · intro plain
    obtain ⟨result, kernel, agree⟩ := walkFrom_agrees table stored plain walked
    refine ⟨result, ?_, agree⟩
    obtain ⟨_, _, granted, _⟩ := table.granted leafRef leaf stored
    obtain ⟨_, holder, _, isHolder⟩ := (verifyGrant_checked granted).parties
    have held : holder = params.subjectKey := by
      apply keyId_eq
      cases found : leaf.get "grantee" with
      | none =>
          unfold keyAt at isHolder
          rw [found] at isHolder
          cases isHolder
      | some party =>
          have named := keyAt_getStr isHolder found
          rw [lookup_eq_ok hasKey, lookupOr_eq_ok hasGrantee, found, Option.getD_some] at isSubject
          exact Option.some.inj (named.symm.trans (getStr_of_getD isSubject))
    unfold walk Stozher.Mandate.resolve
    simp only [bind_eq_ok, okOr_eq_ok, require_eq_ok]
    exact ⟨leaf, stored, holder, isHolder, (), held, kernel⟩

/-- Every walk over granted mandates that the gateway accepts the kernel accepts, and finds the same. -/
def KernelFollows (ext : External) (readInt : String → Option Int) : Prop :=
  ∀ (mandates : Members) (params : VerifyParams) (request : Scoped) (leafRef : String) (taken : MandateOk),
    Granted ext mandates →
    verifyMandateChain ext readInt mandates leafRef (walkParams request params) = .ok taken →
    ∃ result, walk ext mandates leafRef request params = .ok result ∧ Agree taken result

end Agreement

end Stozher.Gateway.MandateWalk

namespace Stozher.Deployment

open Library Library.Text Mandate Recorded Gateway.MandateWalk

/-- The agent's mandate, for the issues of one server only. -/
def issuesDocument (sig : Members) : Value :=
  match mandate "interactive" "human:ana" anaKey "human" "agent:ops" opsKey none 2 '7' sig with
  | .object members => .object (members.map fun member =>
      if member.1 = "scope" then
        (member.1, .object [("actions", texts ["github.issues.*"]),
          ("classes", texts ["read", "benign", "consequential"]), ("components", texts ["gateway", "kernel"]),
          ("resources", texts ["*"])])
      else member)
  | other => other

def issuesMandate : Recorded where
  form := issuesDocument
  sealed := some (anaKey, signatureText
    0xb159803543886a9386fe182addf6ffe4d24e45c92762a0c04f1ab90aca667c5f
    0x19ed41def048c8e290b4a68a64f2f4474bafe4bd8b0fe9305199c21ff0711506)
  digest := hex 64 0xf7f7d9d350dced641e43ffb371a598ef2ff4b096147e26573314c31bff793327

def walkedExt : External :=
  external [opsMandate, issuesMandate]

def walkedAt : VerifyParams where
  roots := [anaId]
  revocations := []
  at_ := ten
  subjectKey := opsId
  maxDelegationDepth := 3

/-- What a call of a tool of the server asks of a mandate. -/
def toolRequest (action : String) : Scoped :=
  .full { component := "gateway", action, classification := "consequential", resource := "mcp:github" }

def gatewayWalk (leaf : Recorded) (action : String) : Result MandateOk :=
  Gateway.MandateWalk.verifyMandateChain walkedExt String.toInt? [(leaf.digest, leaf.document)] leaf.digest
    (walkParams (toolRequest action) walkedAt)

structure WalksSeen : Prop where
  opsId : (Signed.objectId walkedExt opsMandate.document).toOption = some opsMandate.digest
  issuesId : (Signed.objectId walkedExt issuesMandate.document).toOption = some issuesMandate.digest
  ops : isOk (verifyGrant walkedExt opsMandate.document none ⟨[anaId], none⟩) = true
  issues : isOk (verifyGrant walkedExt issuesMandate.document none ⟨[anaId], none⟩) = true
  parents : opsMandate.document.getStr "parent" = none ∧ issuesMandate.document.getStr "parent" = none
  subject : (opsMandate.document.get "grantor").bind (·.getStr "subject") = some "human:ana"
  merge : isOk (gatewayWalk opsMandate "github.merge") = true
  unnamed : isOk (gatewayWalk issuesMandate "github.issues.") = true
  refused : isOk (walk walkedExt [(issuesMandate.digest, issuesMandate.document)] issuesMandate.digest
    (toolRequest "github.issues.") walkedAt) = false
  undotted : ∀ asked ∈ wanted (toolRequest "github.merge"), stripSuffix asked.2 "." = none

theorem walks_seen : WalksSeen := by
  constructor <;> decide +kernel

theorem opsMandate_granted : Gateway.MandateWalk.Granted walkedExt [(opsMandate.digest, opsMandate.document)] := by
  obtain ⟨_, granted⟩ := isOk_iff.mp walks_seen.ops
  exact .alone (toOption_eq_some.mp walks_seen.opsId) granted walks_seen.parents.1

theorem issuesMandate_granted :
    Gateway.MandateWalk.Granted walkedExt [(issuesMandate.digest, issuesMandate.document)] := by
  obtain ⟨_, granted⟩ := isOk_iff.mp walks_seen.issues
  exact .alone (toOption_eq_some.mp walks_seen.issuesId) granted walks_seen.parents.2

theorem opsMandate_plain : Plain (toolRequest "github.merge") opsMandate.document where
  spares asked inside _ _ := sparesDot_of_undotted (walks_seen.undotted asked inside)
  named _ := ⟨"human:ana", walks_seen.subject⟩

/-- A merge under the agent's own mandate: both walks end at the same root. -/
theorem merge_walks_agree : ∃ taken result, gatewayWalk opsMandate "github.merge" = .ok taken ∧
    walk walkedExt [(opsMandate.digest, opsMandate.document)] opsMandate.digest (toolRequest "github.merge")
      walkedAt = .ok result ∧ Agree taken result := by
  obtain ⟨taken, accepted⟩ := isOk_iff.mp walks_seen.merge
  obtain ⟨result, walked, agree⟩ := (kernel_accepts_iff_plain opsMandate_granted accepted).mpr (by
    intro id mandate above found
    have parentless : parentOf [(opsMandate.digest, opsMandate.document)] opsMandate.digest = none := by
      unfold parentOf
      rw [Members.get_cons_self, Option.bind_some]
      exact walks_seen.parents.1
    rcases above.cases_head with same | ⟨next, up, _⟩
    · subst same
      rw [Members.get_cons_self] at found
      cases found
      exact opsMandate_plain
    · have parent : parentOf [(opsMandate.digest, opsMandate.document)] opsMandate.digest = some next := up
      rw [parentless] at parent
      cases parent)
  exact ⟨taken, result, accepted, walked, agree⟩

/-- A tool whose name ends in a dot is called under a scope that lists what is below it, and the kernel refuses the
record of the call. -/
theorem trailing_dot_refused : ¬KernelFollows walkedExt String.toInt? := by
  intro follows
  obtain ⟨taken, accepted⟩ := isOk_iff.mp walks_seen.unnamed
  obtain ⟨result, walked, _⟩ := follows _ _ _ _ taken issuesMandate_granted accepted
  have refused := walks_seen.refused
  rw [walked] at refused
  cases refused

end Stozher.Deployment
