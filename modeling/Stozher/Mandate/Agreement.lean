import Stozher.Mandate.Soundness
import Mathlib.Data.List.Perm.Subperm

namespace Stozher

open Library

namespace Members

/-- No name is held twice. -/
def Distinct (members : Members) : Prop :=
  members.keys.Nodup

theorem Distinct.nil : Distinct [] := List.nodup_nil

theorem Distinct.insert {members : Members} (distinct : members.Distinct) (name : String) (value : Value) :
    (members.insert name value).Distinct := by
  have others : ((members.filter fun member => member.1 != name).map Prod.fst).Nodup :=
    distinct.sublist (List.filter_sublist.map _)
  have absent : name ∉ (members.filter fun member => member.1 != name).map Prod.fst := by
    intro member
    obtain ⟨entry, kept, same⟩ := List.mem_map.mp member
    have other := (List.mem_filter.mp kept).2
    simp [same] at other
  unfold Distinct keys Members.insert
  dsimp only
  rw [List.map_append, List.map_cons]
  have whole := (List.nodup_cons.mpr ⟨absent, others⟩)
  rw [← List.takeWhile_append_dropWhile (p := fun member : String × Value => decide (member.1 < name))
    (l := members.filter fun member => member.1 != name), List.map_append] at whole
  exact List.nodup_middle.mpr whole

theorem Distinct.get_of_mem {members : Members} (distinct : members.Distinct) {name : String}
    {value : Value} (member : (name, value) ∈ members) : members.get name = some value := by
  induction members with
  | nil => cases member
  | cons first rest ih =>
      obtain ⟨key, held⟩ := first
      unfold Distinct keys at distinct
      rw [List.map_cons, List.nodup_cons] at distinct
      rcases List.mem_cons.mp member with same | later
      · cases same
        exact get_cons_self name value rest
      · have other : key ≠ name := by
          intro same
          exact distinct.1 (List.mem_map.mpr ⟨(name, value), later, same.symm⟩)
        rw [get_cons_of_ne other]
        exact ih distinct.2 later

theorem get_insert (members : Members) (name other : String) (value : Value) :
    (members.insert name value).get other = if name = other then some value else members.get other := by
  split
  · rename_i same
    subst same
    exact get_insert_self members name value
  · rename_i differ
    exact get_insert_of_ne differ members value

end Members

namespace Mandate

variable {mandates : Members}

/-- On a path of stored parents, the grantor of a mandate on it is found from its start. -/
theorem grantedAbove_of_ascends {signer : KeyId} {id : String} {mandate : Value}
    (stored : mandates.get id = some mandate) (grantor : keyAt mandate "grantor" = .ok signer)
    {start : String} {rest : List String} (ascends : Ascends (parentOf mandates) (start :: rest))
    (held : ∀ link ∈ start :: rest, ∃ value, mandates.get link = some value)
    (member : id ∈ start :: rest) {steps : Nat} (enough : rest.length < steps) :
    grantedAbove mandates signer steps start = true := by
  induction rest generalizing start steps with
  | nil =>
      rw [List.mem_singleton] at member
      subst member
      cases steps with
      | zero => omega
      | succ steps => simp [grantedAbove, stored, grantor, Except.toOption]
  | cons next others ih =>
      cases steps with
      | zero => omega
      | succ steps =>
          rw [List.length_cons] at enough
          rcases List.mem_cons.mp member with rfl | above
          · simp [grantedAbove, stored, grantor, Except.toOption]
          · obtain ⟨value, found⟩ := held start List.mem_cons_self
            have parent : value.getStr "parent" = some next := (parentOf_of_get found).symm.trans ascends.1
            have further := ih ascends.2 (fun link inside => held link (List.mem_cons_of_mem _ inside))
              above (show others.length < steps by omega)
            unfold grantedAbove
            rw [found]
            dsimp only
            split
            · rfl
            · rw [parent]
              exact further

theorem mem_keys_of_get {members : Members} {name : String} {value : Value}
    (found : members.get name = some value) : name ∈ members.keys := by
  unfold Members.get at found
  rw [Option.map_eq_some_iff] at found
  obtain ⟨member, isFound, _⟩ := found
  have named := List.find?_some isFound
  rw [beq_iff_eq] at named
  unfold Members.keys
  exact named ▸ List.mem_map_of_mem (List.mem_of_find?_eq_some isFound)

/-- A line of stored mandates is no longer than the table. -/
theorem length_le_of_stored {ids : List String} (distinct : ids.Nodup)
    (held : ∀ id ∈ ids, ∃ value, mandates.get id = some value) : ids.length ≤ mandates.length := by
  have within : ids ⊆ mandates.keys := by
    intro id member
    obtain ⟨value, found⟩ := held id member
    exact mem_keys_of_get found
  have bounded := (List.subperm_of_subset distinct within).length_le
  unfold Members.keys at bounded
  rwa [List.length_map] at bounded

/-- A revoker found above a mandate granted it, or one above it. -/
theorem grantedAbove_eq_true {signer : KeyId} {steps : Nat} {start : String}
    (found : grantedAbove mandates signer steps start = true) :
    ∃ ancestor mandate, Relation.ReflTransGen (Above (parentOf mandates)) start ancestor ∧
      mandates.get ancestor = some mandate ∧ keyAt mandate "grantor" = .ok signer := by
  induction steps generalizing start with
  | zero => cases found
  | succ steps ih =>
      unfold grantedAbove at found
      cases stored : mandates.get start with
      | none =>
          rw [stored] at found
          cases found
      | some mandate =>
          rw [stored] at found
          dsimp only at found
          split at found
          · rename_i grants
            rw [Bool.and_eq_true, beq_iff_eq] at grants
            refine ⟨start, mandate, .refl, stored, ?_⟩
            cases grantor : keyAt mandate "grantor" with
            | error e => simp [grantor] at grants
            | ok key => simpa [grantor, Except.toOption] using grants.2
          · split at found
            · rename_i parent hasParent
              obtain ⟨ancestor, value, above, held, grantor⟩ := ih found
              refine ⟨ancestor, value, .head ?_ above, held, grantor⟩
              show parentOf mandates start = some parent
              unfold parentOf
              rw [stored, Option.bind_some, hasParent]
            · cases found

/-- Who stands above a mandate on a path of stored parents may revoke it. -/
theorem revokerIsAuthorized_of_ascends {signer : KeyId} {id : String} {roots : List KeyId}
    {ids : List String} (ascends : Ascends (parentOf mandates) ids)
    (held : ∀ link ∈ ids, ∃ value, mandates.get link = some value) (onPath : id ∈ ids)
    (stands : signer ∈ roots ∨ ∃ ancestor mandate,
      Relation.ReflTransGen (Above (parentOf mandates)) id ancestor ∧
        mandates.get ancestor = some mandate ∧ keyAt mandate "grantor" = .ok signer) :
    revokerIsAuthorized mandates id signer roots = true := by
  unfold revokerIsAuthorized
  rw [Bool.or_eq_true]
  rcases stands with root | ⟨ancestor, mandate, above, stored, grantor⟩
  · exact Or.inl (by simpa using root)
  · obtain ⟨before, after, split⟩ := List.append_of_mem onPath
    have tail : Ascends (parentOf mandates) (id :: after) := ascends.suffix ⟨before, split.symm⟩
    have within : ∀ link ∈ id :: after, ∃ value, mandates.get link = some value := by
      intro link inside
      exact held link (by rw [split]; exact List.mem_append_right _ inside)
    have fits := length_le_of_stored tail.nodup within
    refine Or.inr (grantedAbove_of_ascends stored grantor tail within (tail.mem_of_above above) ?_)
    rw [List.length_cons] at fits
    omega

section Index

variable {ext : External} {roots : List KeyId} {revocations : List Value}

/-- Whatever the index holds comes from a revocation that counts, of the mandate or one above it. -/
def Explained (ext : External) (mandates : Members) (revocations : List Value) (roots : List KeyId)
    (index : RevocationIndex) : Prop :=
  ∀ id earliest, index id = some earliest → ∃ ancestor, ∃ revocation ∈ revocations,
    Relation.ReflTransGen (Above (parentOf mandates)) id ancestor ∧
      countedRevocation ext mandates roots revocation = some (ancestor, earliest)

theorem Explained.record {index : RevocationIndex} (known : Explained ext mandates revocations roots index)
    {revocation : Value} (member : revocation ∈ revocations) {entry : String × String}
    (counted : countedRevocation ext mandates roots revocation = some entry) :
    Explained ext mandates revocations roots (recordRevocation index entry) := by
  obtain ⟨target, revokedAt⟩ := entry
  intro id earliest held
  unfold recordRevocation at held
  dsimp only at held
  by_cases same : id = target
  · subst same
    rw [Function.update_self] at held
    cases existing : index id with
    | none =>
        rw [existing] at held
        cases held
        exact ⟨id, revocation, member, .refl, counted⟩
    | some earlier =>
        rw [existing] at held
        dsimp only at held
        split at held
        · cases held
          exact ⟨id, revocation, member, .refl, counted⟩
        · cases held
          exact known id earliest existing
  · rw [Function.update_of_ne same] at held
    exact known id earliest held

theorem Explained.inherit {index : RevocationIndex} (known : Explained ext mandates revocations roots index)
    {id : String} {mandate : Value} (stored : mandates.get id = some mandate) :
    Explained ext mandates revocations roots (inheritRevocation index (id, mandate)) := by
  unfold inheritRevocation
  dsimp only
  cases inherited : (mandate.getStr "parent").bind index with
  | none => exact known
  | some parentRevoked =>
      obtain ⟨parent, hasParent, parentHeld⟩ := Option.bind_eq_some_iff.mp inherited
      have lowered : Explained ext mandates revocations roots
          (Function.update index id (some parentRevoked)) := by
        intro other earliest held
        by_cases same : other = id
        · subst same
          rw [Function.update_self] at held
          cases held
          obtain ⟨ancestor, revocation, member, above, counted⟩ := known parent _ parentHeld
          refine ⟨ancestor, revocation, member, .head ?_ above, counted⟩
          show parentOf mandates other = some parent
          unfold parentOf
          rw [stored, Option.bind_some, hasParent]
        · rw [Function.update_of_ne same] at held
          exact known other earliest held
      dsimp only
      split
      · split
        · exact lowered
        · exact known
      · exact lowered

theorem Explained.propagateOnce {entries : Members}
    (stored : ∀ entry ∈ entries, mandates.get entry.1 = some entry.2) {index : RevocationIndex}
    (known : Explained ext mandates revocations roots index) :
    Explained ext mandates revocations roots (propagateOnce entries index).1 := by
  induction entries generalizing index with
  | nil => exact known
  | cons first rest ih =>
      exact ih (fun entry member => stored entry (List.mem_cons_of_mem _ member))
        (known.inherit (stored first List.mem_cons_self))

theorem Explained.propagate (distinct : mandates.Distinct) {passes : Nat} {index : RevocationIndex}
    (known : Explained ext mandates revocations roots index) :
    Explained ext mandates revocations roots (propagateRevocations mandates passes index) := by
  induction passes generalizing index with
  | zero => exact known
  | succ passes ih =>
      have once := known.propagateOnce fun entry (member : entry ∈ mandates) => distinct.get_of_mem member
      unfold propagateRevocations
      dsimp only
      split
      · exact ih once
      · exact once

theorem revocationIndex_explained (distinct : mandates.Distinct) :
    Explained ext mandates revocations roots (revocationIndex ext mandates revocations roots) := by
  unfold revocationIndex
  dsimp only
  apply Explained.propagate distinct
  have recorded : ∀ (rest : List Value) (index : RevocationIndex), (∀ r ∈ rest, r ∈ revocations) →
      Explained ext mandates revocations roots index →
      Explained ext mandates revocations roots
        ((rest.filterMap (countedRevocation ext mandates roots)).foldl recordRevocation index) := by
    intro rest
    induction rest with
    | nil => exact fun _ _ known => known
    | cons first others ih =>
        intro index within known
        have later : ∀ r ∈ others, r ∈ revocations := fun r member => within r (List.mem_cons_of_mem _ member)
        cases counted : countedRevocation ext mandates roots first with
        | none =>
            rw [List.filterMap_cons_none counted]
            exact ih index later known
        | some entry =>
            rw [List.filterMap_cons_some counted, List.foldl_cons]
            exact ih _ later (known.record (within first List.mem_cons_self) counted)
  refine recorded revocations _ (fun _ member => member) ?_
  intro id earliest held
  cases held

end Index

section Transfer

variable {ext : External} {first second : Members} {params : VerifyParams} {request : Scoped}

/-- A link passes under another index, where it is not revoked there either. -/
theorem checkLink_transfer {before after : RevocationIndex} {revocations : List Value} {id : String}
    {current : Value} {grantorKey : KeyId}
    (checked : checkLink ext before request params id current = .ok grantorKey)
    (clear : checkNotRevoked after id params.at_ = .ok ()) :
    checkLink ext after request { params with revocations } id current = .ok grantorKey := by
  unfold checkLink at checked ⊢
  simp only [bind_eq_ok] at checked ⊢
  obtain ⟨grantor, signer, u, window, _, _, rest⟩ := checked
  exact ⟨grantor, signer, u, window, (), clear, rest⟩

theorem checkDelegation_parent {table : Members} {current parent : Value} {grantorKey : KeyId}
    {role parentRef : String} (passed : checkDelegation table current grantorKey role = .ok (parentRef, parent)) :
    current.getStr "parent" = some parentRef ∧ table.get parentRef = some parent := by
  unfold checkDelegation resolve at passed
  simp only [bind_eq_ok, okOr_eq_ok, pure_eq_ok] at passed
  obtain ⟨_, isParent, _, _, value, found, _, _, _, _, pair⟩ := passed
  cases pair
  exact ⟨isParent, found⟩

/-- One round of the loop goes the same way over two tables that hold the same parent, if the rest does. -/
theorem walkFrom_round {before after : RevocationIndex} {revocations : List Value} {result : MandateChainOk}
    {id : String} {current : Value} {depth : Nat} (clear : checkNotRevoked after id params.at_ = .ok ())
    (agree : ∀ parentRef, current.getStr "parent" = some parentRef → second.get parentRef = first.get parentRef)
    (further : ∀ parentRef parent, current.getStr "parent" = some parentRef → first.get parentRef = some parent →
      walkFrom ext first before request params (depth + 1) parentRef parent = .ok result →
        walkFrom ext second after request { params with revocations } (depth + 1) parentRef parent = .ok result)
    (walked : walkFrom ext first before request params depth id current = .ok result) :
    walkFrom ext second after request { params with revocations } depth id current = .ok result := by
  unfold walkFrom at walked ⊢
  simp only [bind_eq_ok, okOr_eq_ok] at walked ⊢
  obtain ⟨grantorKey, checked, kind, hasKind, role, hasRole, walked⟩ := walked
  refine ⟨grantorKey, checkLink_transfer checked clear, kind, hasKind, role, hasRole, ?_⟩
  split at walked
  · rename_i rooted
    rwa [if_pos rooted]
  · rename_i unrooted
    rw [if_neg unrooted]
    split at walked
    · rename_i delegated
      rw [if_pos delegated]
      simp only [bind_eq_ok] at walked ⊢
      obtain ⟨⟨parentRef, parent⟩, delegation, walked⟩ := walked
      obtain ⟨isParent, found⟩ := checkDelegation_parent delegation
      have same : checkDelegation second current grantorKey role = checkDelegation first current grantorKey role := by
        unfold checkDelegation resolve
        simp [isParent, okOr, agree parentRef isParent]
      refine ⟨(parentRef, parent), same ▸ delegation, ?_⟩
      dsimp only at walked ⊢
      split at walked
      · rename_i deeper
        rw [if_pos deeper]
        exact further parentRef parent isParent found walked
      · cases walked
    · cases walked

/-- The loop goes the same way over two tables that hold the same mandates on its path. -/
theorem walkFrom_transfer {before after : RevocationIndex} {revocations : List Value}
    {result : MandateChainOk} {rest : List String} {id : String} {current : Value} {depth : Nat}
    (stored : first.get id = some current) (ascends : Ascends (parentOf first) (id :: rest))
    (agree : ∀ link ∈ id :: rest, second.get link = first.get link)
    (clear : ∀ link ∈ id :: rest, checkNotRevoked after link params.at_ = .ok ())
    (walked : walkFrom ext first before request params depth id current = .ok result) :
    walkFrom ext second after request { params with revocations } depth id current = .ok result := by
  induction rest generalizing id current depth with
  | nil =>
      have parentless : current.getStr "parent" = none := (parentOf_of_get stored).symm.trans ascends
      refine walkFrom_round (clear id List.mem_cons_self) ?_ ?_ walked
      · intro parentRef isParent
        cases parentless.symm.trans isParent
      · intro parentRef parent isParent
        cases parentless.symm.trans isParent
  | cons next others ih =>
      have hasParent : current.getStr "parent" = some next := (parentOf_of_get stored).symm.trans ascends.1
      refine walkFrom_round (clear id List.mem_cons_self) ?_ ?_ walked
      · intro parentRef isParent
        cases hasParent.symm.trans isParent
        exact agree next (List.mem_cons_of_mem _ List.mem_cons_self)
      · intro parentRef parent isParent found walked
        cases hasParent.symm.trans isParent
        exact ih found ascends.2 (fun link inside => agree link (List.mem_cons_of_mem _ inside))
          (fun link inside => clear link (List.mem_cons_of_mem _ inside)) walked

/-- What a path of stored parents is found to be in one table. -/
structure Within (table : Members) (params : VerifyParams) (leafRef : String) (rest : List String) :
    Prop where
  ascends : Ascends (parentOf table) (leafRef :: rest)
  stored : ∀ link ∈ leafRef :: rest, ∃ value, table.get link = some value
  bounded : rest.length ≤ params.maxDelegationDepth

/-- A revocation that counts on a path of one table counts in another that agrees with it there. -/
theorem verifyRevocation_transfer {ids : List String} {roots : List KeyId} {revocation : Value}
    {id revokedAt : String} (ascends : Ascends (parentOf first) ids)
    (stored : ∀ link ∈ ids, ∃ value, first.get link = some value)
    (agree : ∀ link ∈ ids, second.get link = first.get link) (onPath : id ∈ ids)
    (counted : countedRevocation ext second roots revocation = some (id, revokedAt)) :
    verifyRevocation ext first revocation roots = .ok () := by
  obtain ⟨signer, signed, hasTarget, hasInstant, authorized, forward⟩ := countedRevocation_eq_some.mp counted
  have parents : ∀ link ∈ ids, parentOf second link = parentOf first link := by
    intro link inside
    unfold parentOf
    rw [agree link inside]
  have stands : signer ∈ roots ∨ ∃ ancestor mandate,
      Relation.ReflTransGen (Above (parentOf first)) id ancestor ∧
        first.get ancestor = some mandate ∧ keyAt mandate "grantor" = .ok signer := by
    unfold revokerIsAuthorized at authorized
    rw [Bool.or_eq_true] at authorized
    rcases authorized with root | granted
    · exact Or.inl (by simpa using root)
    · obtain ⟨ancestor, mandate, above, held, grantor⟩ := grantedAbove_eq_true granted
      obtain ⟨before, after, split⟩ := List.append_of_mem onPath
      have tail : Ascends (parentOf second) (id :: after) :=
        (ascends.congr parents).suffix ⟨before, split.symm⟩
      have inside : ancestor ∈ ids := by
        rw [split]
        exact List.mem_append_right _ (tail.mem_of_above above)
      have same : Ascends (parentOf first) (id :: after) :=
        tail.congr fun link member =>
          (parents link (by rw [split]; exact List.mem_append_right _ member)).symm
      exact Or.inr ⟨ancestor, mandate, same.above_of_mem (tail.mem_of_above above),
        by rw [← agree ancestor inside]; exact held, grantor⟩
  have allowed := revokerIsAuthorized_of_ascends ascends stored onPath stands
  have later : backdated first id revokedAt = false := by
    unfold backdated at forward ⊢
    rwa [← agree id onPath]
  unfold verifyRevocation
  simp [signed, hasTarget, hasInstant, okOr, allowed, later, require]

/-- A walk accepted over one table is accepted over another that holds the same mandates on its path,
and no revocation of them that the first lacks. -/
theorem walk_transfer {leafRef : String} {revocations : List Value} {result : MandateChainOk}
    (distinct : second.Distinct)
    (agree : ∀ rest, Within first params leafRef rest →
      ∀ link ∈ leafRef :: rest, second.get link = first.get link)
    (covered : ∀ rest, Within first params leafRef rest → ∀ link ∈ leafRef :: rest,
      ∀ revocation ∈ revocations, revocation.getStr "revokes" = some link →
        revocation ∈ params.revocations)
    (walked : walk ext first leafRef request params = .ok result) :
    walk ext second leafRef request { params with revocations } = .ok result := by
  obtain ⟨leaf, path, stored, _, line, bounded, _⟩ := walk_line walked
  have within : Within first params leafRef (path.map Prod.fst) := by
    refine ⟨line.ascends, ?_, by rwa [List.length_map]⟩
    intro link inside
    obtain ⟨entry, isLink, rfl⟩ := List.mem_map.mp (show link ∈ ((leafRef, leaf) :: path).map Prod.fst from inside)
    exact ⟨entry.2, (line.links entry isLink).stored⟩
  have same := agree _ within
  have parents : ∀ link ∈ leafRef :: path.map Prod.fst, parentOf second link = parentOf first link := by
    intro link inside
    unfold parentOf
    rw [same link inside]
  have clear : ∀ link ∈ leafRef :: path.map Prod.fst,
      checkNotRevoked (revocationIndex ext second revocations params.roots) link params.at_ = .ok () := by
    intro link inside
    unfold checkNotRevoked
    cases held : revocationIndex ext second revocations params.roots link with
    | none => rfl
    | some earliest =>
        obtain ⟨ancestor, revocation, member, above, counted⟩ :=
          revocationIndex_explained distinct link earliest held
        obtain ⟨before, after, split⟩ := List.append_of_mem inside
        have tail : Ascends (parentOf second) (link :: after) :=
          (within.ascends.congr parents).suffix ⟨before, split.symm⟩
        have onPath : ancestor ∈ leafRef :: path.map Prod.fst := by
          rw [split]
          exact List.mem_append_right _ (tail.mem_of_above above)
        obtain ⟨entry, isLink, rfl⟩ :=
          List.mem_map.mp (show ancestor ∈ ((leafRef, leaf) :: path).map Prod.fst from onPath)
        obtain ⟨_, _, hasTarget, hasInstant, _⟩ := countedRevocation_eq_some.mp counted
        exact require_eq_ok.mpr ((line.links entry isLink).unrevoked revocation
          (covered _ within _ onPath revocation member hasTarget)
          (verifyRevocation_transfer within.ascends within.stored same onPath counted) hasTarget earliest
          hasInstant)
  unfold walk at walked ⊢
  simp only [bind_eq_ok, require_eq_ok] at walked ⊢
  obtain ⟨current, resolved, grantee, hasGrantee, u, holder, walked⟩ := walked
  unfold resolve at resolved ⊢
  rw [okOr_eq_ok] at resolved
  refine ⟨current, ?_, grantee, hasGrantee, u, holder, ?_⟩
  · rw [okOr_eq_ok, same leafRef List.mem_cons_self]
    exact resolved
  · exact walkFrom_transfer resolved within.ascends same clear walked

end Transfer

end Mandate

end Stozher
