import Stozher.Library.Ascent
import Stozher.Mandate.RevocationIndex
import Stozher.Mandate.Walk

namespace Stozher.Mandate

open Library

variable {ext : External} {mandates : Members} {params : VerifyParams}

def parentOf (mandates : Members) (id : String) : Option String :=
  (mandates.get id).bind (·.getStr "parent")

theorem parentOf_of_get {id : String} {value : Value} (stored : mandates.get id = some value) :
    parentOf mandates id = value.getStr "parent" := by
  unfold parentOf
  rw [stored, Option.bind_some]

theorem get_of_parentOf {id next : String} (up : parentOf mandates id = some next) :
    ∃ value, mandates.get id = some value ∧ value.getStr "parent" = some next :=
  Option.bind_eq_some_iff.mp up

/-- What a scope permits of what a walk checks. -/
def Scoped.Permitted (scope : Value) : Scoped → Prop
  | .full request => scopePermits scope request = .ok true
  | .byResource resource => dimensionPermits scope "resources" resource = .ok true
  | .not => True

/-- What holds of every link of an accepted chain. -/
structure LinkOk (ext : External) (mandates : Members) (params : VerifyParams) (request : Scoped)
    (id : String) (mandate : Value) : Prop where
  stored : mandates.get id = some mandate
  signed : ∃ grantor grantee, Signed.verifySignedObject ext mandate = .ok grantor ∧
    keyAt mandate "grantor" = .ok grantor ∧ keyAt mandate "grantee" = .ok grantee ∧ grantor ≠ grantee
  window : ∃ start stop, windowOf mandate = .ok (start, stop) ∧
    start ≤ params.at_ ∧ params.at_ ≤ stop
  unrevoked : ∀ revocation ∈ params.revocations,
    verifyRevocation ext mandates revocation params.roots = .ok () →
    revocation.getStr "revokes" = some id →
    ∀ revokedAt, revocation.getStr "revoked-at" = some revokedAt → params.at_ < revokedAt
  permitted : ∃ scope, mandate.get "scope" = some scope ∧ request.Permitted scope

/-- A delegated link within the mandate above it. -/
structure Delegated (child : Value) (parentId : String) (parent : Value) : Prop where
  kind : child.getStr "mandate-kind" = some "delegated"
  names : child.getStr "parent" = some parentId
  byAgent : grantorRoleOf child = .ok "agent"
  held : ∃ key, keyAt child "grantor" = .ok key ∧ keyAt parent "grantee" = .ok key
  depth : ∃ own above, maxDepthOf child = .ok own ∧ maxDepthOf parent = .ok above ∧ own < above
  scope : ∃ own above, child.get "scope" = some own ∧ parent.get "scope" = some above ∧
    scopeSubset own above = .ok true
  window : ∃ start stop parentStart parentStop, windowOf child = .ok (start, stop) ∧
    windowOf parent = .ok (parentStart, parentStop) ∧ parentStart ≤ start ∧ stop ≤ parentStop
  budget : budgetWithin (child.get "budget") (parent.get "budget") = .ok true

/-- A mandate a human root granted. -/
structure RootGrant (roots : List KeyId) (mandate : Value) (subject : String) : Prop where
  kind : mandate.getStr "mandate-kind" = some "interactive" ∨
    mandate.getStr "mandate-kind" = some "standing"
  parentless : ((mandate.get "parent").getD .null).isNull = true
  byHuman : grantorRoleOf mandate = .ok "human"
  enrolled : ∃ key ∈ roots, keyAt mandate "grantor" = .ok key
  subject : (mandate.get "grantor").bind (·.getStr "subject") = some subject

theorem checkSigner_eq_ok {current : Value} {grantorKey : KeyId}
    (passed : checkSigner ext current = .ok grantorKey) :
    ∃ granteeKey, Signed.verifySignedObject ext current = .ok grantorKey ∧
      keyAt current "grantor" = .ok grantorKey ∧ keyAt current "grantee" = .ok granteeKey ∧
      grantorKey ≠ granteeKey := by
  unfold checkSigner at passed
  simp only [bind_eq_ok, require_eq_ok, pure_eq_ok] at passed
  obtain ⟨signer, signed, grantor, hasGrantor, _, same, grantee, hasGrantee, _, different, rfl⟩ := passed
  subst same
  exact ⟨grantee, signed, hasGrantor, hasGrantee, different⟩

theorem checkWindow_eq_ok {current : Value} {id at_ : String}
    (passed : checkWindow current id at_ = .ok ()) :
    ∃ start stop, windowOf current = .ok (start, stop) ∧ start ≤ at_ ∧ at_ ≤ stop := by
  unfold checkWindow at passed
  simp only [bind_eq_ok, okOr_eq_ok, require_eq_ok] at passed
  obtain ⟨stop, hasStop, start, hasStart, _, after, before⟩ := passed
  refine ⟨start, stop, ?_, after, before⟩
  unfold windowOf
  simp [hasStop, hasStart, okOr, pure, Except.pure]

theorem checkNotRevoked_eq_ok {index : RevocationIndex} {id at_ : String}
    (passed : checkNotRevoked index id at_ = .ok ()) {revokedAt : String}
    (revoked : RevokedBy index id revokedAt) : at_ < revokedAt := by
  obtain ⟨earliest, held, before⟩ := revoked
  unfold checkNotRevoked at passed
  rw [held] at passed
  exact (require_eq_ok.mp passed).trans_le before

theorem checkScope_eq_ok {scope : Value} {request : Scoped}
    (passed : checkScope scope request = .ok ()) : request.Permitted scope := by
  cases request with
  | not => trivial
  | full request =>
      unfold checkScope at passed
      simp only [bind_eq_ok, require_eq_ok] at passed
      obtain ⟨permitted, read, holds⟩ := passed
      subst holds
      exact read
  | byResource resource =>
      unfold checkScope at passed
      simp only [bind_eq_ok, require_eq_ok] at passed
      obtain ⟨permitted, read, holds⟩ := passed
      subst holds
      exact read

theorem checkLink_eq_ok {request : Scoped} {id : String} {current : Value} {grantorKey : KeyId}
    (stored : mandates.get id = some current)
    (passed : checkLink ext (revocationIndex ext mandates params.revocations params.roots) request params
      id current = .ok grantorKey) :
    LinkOk ext mandates params request id current ∧ keyAt current "grantor" = .ok grantorKey := by
  unfold checkLink at passed
  simp only [bind_eq_ok, okOr_eq_ok, pure_eq_ok] at passed
  obtain ⟨grantor, signer, _, window, _, unrevoked, scope, hasScope, _, permitted, rfl⟩ := passed
  obtain ⟨grantee, signed, hasGrantor, hasGrantee, different⟩ := checkSigner_eq_ok signer
  refine ⟨⟨stored, ⟨grantor, grantee, signed, hasGrantor, hasGrantee, different⟩,
    checkWindow_eq_ok window, ?_, scope, hasScope, checkScope_eq_ok permitted⟩, hasGrantor⟩
  intro revocation member verified revokes revokedAt instant
  obtain ⟨target, at_, targets, revoked, counted⟩ := counted_of_verified verified
  rw [revokes] at targets
  rw [instant] at revoked
  cases targets
  cases revoked
  exact checkNotRevoked_eq_ok unrevoked (revocationIndex_revoked member counted)

theorem checkNarrowing_eq_ok {current parent : Value} {own : Result Nat} {exhausted : String}
    (passed : checkNarrowing current parent own exhausted = .ok ()) :
    (∃ ownDepth above, own = .ok ownDepth ∧ maxDepthOf parent = .ok above ∧ ownDepth < above) ∧
      (∃ scope above, current.get "scope" = some scope ∧ parent.get "scope" = some above ∧
        scopeSubset scope above = .ok true) ∧
      (∃ start stop parentStart parentStop, windowOf current = .ok (start, stop) ∧
        windowOf parent = .ok (parentStart, parentStop) ∧ parentStart ≤ start ∧ stop ≤ parentStop) ∧
      budgetWithin (current.get "budget") (parent.get "budget") = .ok true := by
  unfold checkNarrowing at passed
  simp only [bind_eq_ok, okOr_eq_ok, require_eq_ok] at passed
  obtain ⟨above, hasAbove, _, positive, ownDepth, hasOwn, _, less, scope, hasScope, parentScope,
    hasParentScope, narrowed, subset, _, holds, ⟨start, stop⟩, window, ⟨parentStart, parentStop⟩, parentWindow, _,
    ⟨after, before⟩, within, budget, fits⟩ := passed
  subst holds fits
  exact ⟨⟨ownDepth, above, hasOwn, hasAbove, by omega⟩,
    ⟨scope, parentScope, hasScope, hasParentScope, subset⟩,
    ⟨start, stop, parentStart, parentStop, window, parentWindow, after, before⟩, budget⟩

theorem checkDelegation_eq_ok {current parent : Value} {grantorKey : KeyId} {grantorRole parentId : String}
    (hasGrantor : keyAt current "grantor" = .ok grantorKey)
    (role : grantorRoleOf current = .ok grantorRole)
    (kind : current.getStr "mandate-kind" = some "delegated")
    (passed : checkDelegation mandates current grantorKey grantorRole = .ok (parentId, parent)) :
    mandates.get parentId = some parent ∧ Delegated current parentId parent := by
  unfold checkDelegation at passed
  simp only [bind_eq_ok, okOr_eq_ok, require_eq_ok, pure_eq_ok] at passed
  obtain ⟨id, hasParent, _, agent, value, resolved, _, held, _, narrowed, same⟩ := passed
  cases same
  subst agent
  unfold resolve at resolved
  rw [okOr_eq_ok] at resolved
  unfold checkHeld at held
  simp only [bind_eq_ok, require_eq_ok] at held
  obtain ⟨granteeKey, hasGrantee, sameKey⟩ := held
  subst sameKey
  obtain ⟨depth, scope, window, budget⟩ := checkNarrowing_eq_ok narrowed
  exact ⟨resolved, kind, hasParent, role, ⟨grantorKey, hasGrantor, hasGrantee⟩, depth, scope, window,
    budget⟩

theorem checkRootGrant_eq_ok {current : Value} {grantorKey : KeyId} {grantorRole : String}
    {roots : List KeyId} (passed : checkRootGrant current grantorKey grantorRole roots = .ok ()) :
    ((current.get "parent").getD .null).isNull = true ∧ grantorRole = "human" ∧ grantorKey ∈ roots := by
  unfold checkRootGrant at passed
  simp only [bind_eq_ok, require_eq_ok] at passed
  obtain ⟨_, parentless, _, human, enrolled⟩ := passed
  exact ⟨parentless, human, enrolled⟩

/-- The links of an accepted chain, from a mandate up to the one a root granted. -/
inductive Line (ext : External) (mandates : Members) (params : VerifyParams) (request : Scoped)
    (subject : String) : List (String × Value) → Prop where
  | root {id : String} {mandate : Value} (link : LinkOk ext mandates params request id mandate)
      (granted : RootGrant params.roots mandate subject) :
      Line ext mandates params request subject [(id, mandate)]
  | delegated {id parentId : String} {mandate parent : Value} {rest : List (String × Value)}
      (link : LinkOk ext mandates params request id mandate)
      (delegation : Delegated mandate parentId parent)
      (above : Line ext mandates params request subject ((parentId, parent) :: rest)) :
      Line ext mandates params request subject ((id, mandate) :: (parentId, parent) :: rest)

/-- One round of the loop: it ends at a root's mandate, or goes on with the parent. -/
theorem walkFrom_cases {request : Scoped} {result : MandateChainOk} {depth : Nat} {id : String}
    {current : Value} (stored : mandates.get id = some current)
    (walked : walkFrom ext mandates (revocationIndex ext mandates params.revocations params.roots) request
      params depth id current = .ok result) :
    LinkOk ext mandates params request id current ∧
      ((RootGrant params.roots current result.humanRoot ∧ result.depth = depth) ∨
        ∃ parentId parent, mandates.get parentId = some parent ∧ Delegated current parentId parent ∧
          depth + 1 ≤ params.maxDelegationDepth ∧
          walkFrom ext mandates (revocationIndex ext mandates params.revocations params.roots) request
            params (depth + 1) parentId parent = .ok result) := by
  unfold walkFrom at walked
  simp only [bind_eq_ok, okOr_eq_ok] at walked
  obtain ⟨grantorKey, checked, kind, hasKind, role, hasRole, walked⟩ := walked
  obtain ⟨link, hasGrantor⟩ := checkLink_eq_ok stored checked
  refine ⟨link, ?_⟩
  split at walked
  · rename_i rooted
    simp only [bind_eq_ok, okOr_eq_ok, pure_eq_ok] at walked
    obtain ⟨_, granted, subject, hasSubject, rfl⟩ := walked
    obtain ⟨parentless, rfl, enrolled⟩ := checkRootGrant_eq_ok granted
    refine Or.inl ⟨⟨?_, parentless, hasRole, ⟨grantorKey, enrolled, hasGrantor⟩, hasSubject⟩, rfl⟩
    rcases rooted with rfl | rfl
    · exact Or.inl hasKind
    · exact Or.inr hasKind
  · split at walked
    · rename_i delegated
      subst delegated
      simp only [bind_eq_ok] at walked
      obtain ⟨⟨parentId, parent⟩, delegation, walked⟩ := walked
      obtain ⟨resolved, within⟩ := checkDelegation_eq_ok hasGrantor hasRole hasKind delegation
      dsimp only at walked
      split at walked
      · rename_i deeper
        exact Or.inr ⟨parentId, parent, resolved, within, deeper, walked⟩
      · cases walked
    · cases walked

/-- The loop collects a line, and counts it. -/
theorem walkFrom_line {request : Scoped} {result : MandateChainOk} {depth : Nat} {id : String}
    {current : Value} (stored : mandates.get id = some current)
    (within : depth ≤ params.maxDelegationDepth)
    (walked : walkFrom ext mandates (revocationIndex ext mandates params.revocations params.roots) request
      params depth id current = .ok result) :
    ∃ rest, Line ext mandates params request result.humanRoot ((id, current) :: rest) ∧
      depth + rest.length ≤ params.maxDelegationDepth ∧ result.depth = depth + rest.length := by
  -- the rounds that remain below the depth limit
  induction remaining : params.maxDelegationDepth - depth generalizing depth id current with
  | zero =>
      obtain ⟨link, ⟨granted, counted⟩ | ⟨_, _, _, _, deeper, _⟩⟩ := walkFrom_cases stored walked
      · exact ⟨[], .root link granted, within, counted⟩
      · omega
  | succ remaining ih =>
      obtain ⟨link, ⟨granted, counted⟩ | ⟨parentId, parent, resolved, delegation, deeper, walked⟩⟩ :=
        walkFrom_cases stored walked
      · exact ⟨[], .root link granted, within, counted⟩
      · obtain ⟨rest, line, bounded, counted⟩ := ih resolved deeper walked (by omega)
        refine ⟨(parentId, parent) :: rest, .delegated link delegation line, ?_, ?_⟩
        · rw [List.length_cons]
          omega
        · rw [List.length_cons]
          omega

namespace Line

variable {request : Scoped} {subject : String} {path : List (String × Value)}

theorem links (line : Line ext mandates params request subject path) :
    ∀ link ∈ path, LinkOk ext mandates params request link.1 link.2 := by
  induction line with
  | root link granted =>
      intro other member
      rw [List.mem_singleton] at member
      exact member ▸ link
  | delegated link delegation above ih =>
      intro other member
      rcases List.mem_cons.mp member with rfl | later
      · exact link
      · exact ih other later

theorem delegations (line : Line ext mandates params request subject path) :
    path.IsChain fun child parent => Delegated child.2 parent.1 parent.2 := by
  induction line with
  | root link granted => exact .singleton _
  | delegated link delegation above ih => exact .cons_cons delegation ih

theorem parentOf_root {id : String} {mandate : Value}
    (link : LinkOk ext mandates params request id mandate)
    (granted : RootGrant params.roots mandate subject) : parentOf mandates id = none := by
  have parentless := granted.parentless
  unfold parentOf Value.getStr
  rw [link.stored, Option.bind_some]
  cases found : mandate.get "parent" with
  | none => rfl
  | some value =>
      rw [found] at parentless
      cases value <;> first | rfl | cases parentless

theorem ascends (line : Line ext mandates params request subject path) :
    Ascends (parentOf mandates) (path.map Prod.fst) := by
  induction line with
  | root link granted => exact parentOf_root link granted
  | delegated link delegation above ih =>
      refine ⟨?_, ih⟩
      unfold parentOf
      rw [link.stored, Option.bind_some]
      exact delegation.names

/-- The mandate at the top, which leaves room for every delegation below it. -/
theorem top (line : Line ext mandates params request subject path) :
    ∃ root, path.getLast? = some root ∧ RootGrant params.roots root.2 subject ∧
      ∀ leaf rest, path = leaf :: rest → ∀ own, maxDepthOf leaf.2 = .ok own →
        ∃ most, maxDepthOf root.2 = .ok most ∧ own + rest.length ≤ most := by
  induction line with
  | @root id mandate link granted =>
      refine ⟨(id, mandate), rfl, granted, ?_⟩
      intro leaf rest same own hasOwn
      cases same
      exact ⟨own, hasOwn, le_refl _⟩
  | @delegated id parentId mandate parent rest link delegation above ih =>
      obtain ⟨root, last, granted, room⟩ := ih
      refine ⟨root, by rw [List.getLast?_cons_cons]; exact last, granted, ?_⟩
      intro leaf tail same own hasOwn
      cases same
      obtain ⟨ownDepth, aboveDepth, hasDepth, hasAbove, less⟩ := delegation.depth
      have equal : ownDepth = own := Except.ok.inj (hasDepth.symm.trans hasOwn)
      obtain ⟨most, hasMost, fits⟩ := room _ _ rfl aboveDepth hasAbove
      refine ⟨most, hasMost, ?_⟩
      rw [List.length_cons]
      omega

end Line

theorem walk_line {leafRef : String} {request : Scoped} {result : MandateChainOk}
    (accepted : walk ext mandates leafRef request params = .ok result) :
    ∃ leaf rest, mandates.get leafRef = some leaf ∧ keyAt leaf "grantee" = .ok params.subjectKey ∧
      Line ext mandates params request result.humanRoot ((leafRef, leaf) :: rest) ∧
      rest.length ≤ params.maxDelegationDepth ∧ result.depth = rest.length := by
  unfold walk at accepted
  simp only [bind_eq_ok, require_eq_ok] at accepted
  obtain ⟨leaf, resolved, grantee, hasGrantee, _, same, walked⟩ := accepted
  unfold resolve at resolved
  rw [okOr_eq_ok] at resolved
  subst same
  obtain ⟨rest, line, bounded, counted⟩ := walkFrom_line resolved (Nat.zero_le _) walked
  exact ⟨leaf, rest, resolved, hasGrantee, line, by omega, by omega⟩

/-- What an accepted mandate chain is: a finite path of parents, each link of which is in order. -/
structure SoundChain (ext : External) (mandates : Members) (params : VerifyParams)
    (request : Scoped) (leafRef humanRoot : String) (path : List (String × Value)) : Prop where
  leaf : ∃ leaf, path.head? = some (leafRef, leaf) ∧ keyAt leaf "grantee" = .ok params.subjectKey
  ascends : Ascends (parentOf mandates) (path.map Prod.fst)
  distinct : (path.map Prod.fst).Nodup
  links : ∀ link ∈ path, LinkOk ext mandates params request link.1 link.2
  delegations : path.IsChain fun child parent => Delegated child.2 parent.1 parent.2
  withinPolicy : path.length - 1 ≤ params.maxDelegationDepth
  root : ∃ root, path.getLast? = some root ∧ RootGrant params.roots root.2 humanRoot ∧
    (path.length = 1 ∨ ∃ most, maxDepthOf root.2 = .ok most ∧ path.length - 1 ≤ most)
  complete : ∀ ancestor, Relation.ReflTransGen (Above (parentOf mandates)) leafRef ancestor →
    ancestor ∈ path.map Prod.fst

theorem walk_sound {leafRef : String} {request : Scoped} {result : MandateChainOk}
    (accepted : walk ext mandates leafRef request params = .ok result) :
    ∃ path, SoundChain ext mandates params request leafRef result.humanRoot path ∧
      result.depth = path.length - 1 := by
  obtain ⟨leaf, rest, stored, held, line, bounded, counted⟩ := walk_line accepted
  refine ⟨(leafRef, leaf) :: rest, ⟨⟨leaf, rfl, held⟩, line.ascends, line.ascends.nodup, line.links,
    line.delegations, bounded, ?_, fun _ above => line.ascends.mem_of_above above⟩, counted⟩
  obtain ⟨root, last, granted, room⟩ := line.top
  refine ⟨root, last, granted, ?_⟩
  cases rest with
  | nil => exact Or.inl rfl
  | cons next others =>
      obtain ⟨own, _, hasOwn, _⟩ := (List.isChain_cons_cons.mp line.delegations).1.depth
      obtain ⟨most, hasMost, fits⟩ := room _ _ rfl own hasOwn
      refine Or.inr ⟨most, hasMost, ?_⟩
      simp only [List.length_cons] at fits ⊢
      omega

/-- An accepted mandate chain is sound, and a parent chain that does not end is not accepted. -/
theorem verifyMandateChain_sound (mandates : Members) (leafRef : String) (request : MandateRequest)
    (params : VerifyParams) :
    (∀ result, verifyMandateChain ext mandates leafRef request params = .ok result →
        ∃ path, SoundChain ext mandates params (.full request) leafRef result.humanRoot path ∧
          result.depth = path.length - 1) ∧
      ((∀ rest, ¬ Ascends (parentOf mandates) (leafRef :: rest)) →
        ∀ result, verifyMandateChain ext mandates leafRef request params ≠ .ok result) := by
  refine ⟨fun result accepted => walk_sound accepted, ?_⟩
  intro endless result accepted
  obtain ⟨leaf, rest, _, _, line, _⟩ := walk_line accepted
  exact endless _ line.ascends

end Stozher.Mandate
