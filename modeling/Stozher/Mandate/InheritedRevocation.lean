import Stozher.Deployment
import Stozher.Library.Climb
import Stozher.Mandate.Agreement
import Stozher.Mandate.RevocationIndex
import Mathlib.Order.Bounds.Basic

namespace Stozher

open Library

/-- What a map holds does not depend on the order it is listed in. -/
theorem Members.Distinct.get_of_perm {members other : Members} (distinct : members.Distinct) (same : other.Perm members)
    (name : String) : other.get name = members.get name := by
  have otherDistinct : other.Distinct := (same.map Prod.fst).nodup_iff.mpr distinct
  cases found : members.get name with
  | some value => exact otherDistinct.get_of_mem (same.mem_iff.mpr (Envelope.mem_of_get found))
  | none =>
      cases held : other.get name with
      | none => rfl
      | some value =>
          rw [distinct.get_of_mem (same.mem_iff.mp (Envelope.mem_of_get held))] at found
          cases found

namespace Mandate

variable {ext : External} {mandates : Members} {roots : List KeyId} {index initial : RevocationIndex}

/-- A revocation that verifies, is by who may revoke its target, and is not backdated. -/
structure Revokes (ext : External) (mandates : Members) (roots : List KeyId) (revocation : Value)
    (target at_ : String) : Prop where
  verified : ∃ signer, Signed.verifySignedObject ext revocation = .ok signer ∧
    revokerIsAuthorized mandates target signer roots = true
  names : revocation.getStr "revokes" = some target
  instant : revocation.getStr "revoked-at" = some at_
  forward : backdated mandates target at_ = false

/-- The instants at which a mandate, or one it stands beneath, was revoked. -/
def inheritedRevocations (ext : External) (mandates : Members) (revocations : List Value) (roots : List KeyId)
    (id : String) : Set String :=
  {at_ | ∃ revocation ∈ revocations, ∃ target, Relation.ReflTransGen (Above (parentOf mandates)) id target ∧
    Revokes ext mandates roots revocation target at_}

theorem revokes_iff {revocation : Value} {target at_ : String} :
    Revokes ext mandates roots revocation target at_ ↔
      countedRevocation ext mandates roots revocation = some (target, at_) := by
  rw [countedRevocation_eq_some]
  constructor
  · rintro ⟨⟨signer, signed, authorized⟩, names, instant, forward⟩
    exact ⟨signer, signed, names, instant, authorized, forward⟩
  · rintro ⟨signer, signed, names, instant, authorized, forward⟩
    exact ⟨⟨signer, signed, authorized⟩, names, instant, forward⟩

theorem recordRevocation_mem {entry : String × String} {target at_ : String}
    (held : recordRevocation index entry target = some at_) : (target, at_) = entry ∨ index target = some at_ := by
  obtain ⟨named, revokedAt⟩ := entry
  unfold recordRevocation at held
  dsimp only at held
  by_cases same : target = named
  · subst same
    rw [Function.update_self] at held
    cases before : index target with
    | none =>
        rw [before] at held
        cases held
        exact .inl rfl
    | some existing =>
        rw [before] at held
        dsimp only at held
        by_cases earlier : revokedAt < existing
        · rw [if_pos earlier] at held
          cases held
          exact .inl rfl
        · rw [if_neg earlier] at held
          exact .inr held
  · rw [Function.update_of_ne same] at held
    exact .inr held

/-- What is recorded for a target is one of its instants. -/
theorem foldl_recordRevocation_mem {entries : List (String × String)} {target at_ : String}
    (held : entries.foldl recordRevocation (fun _ => none) target = some at_) : (target, at_) ∈ entries := by
  induction entries using List.reverseRecOn with
  | nil => cases held
  | append_singleton entries last ih =>
      rw [List.foldl_append, List.foldl_cons, List.foldl_nil] at held
      rcases recordRevocation_mem held with new | earlier
      · exact List.mem_append_right _ (List.mem_singleton.mpr new)
      · exact List.mem_append_left _ (ih earlier)

/-- Every entry of an index is one of the entries it started from, of something above. -/
def Inherits (mandates : Members) (initial index : RevocationIndex) : Prop :=
  ∀ id at_, index id = some at_ → ∃ target, Relation.ReflTransGen (Above (parentOf mandates)) id target ∧
    initial target = some at_

theorem parentOf_of_mem (distinct : mandates.Distinct) {entry : String × Value} (member : entry ∈ mandates) :
    parentOf mandates entry.1 = entry.2.getStr "parent" :=
  parentOf_of_get (distinct.get_of_mem member)

theorem Inherits.step (inherits : Inherits mandates initial index) {entry : String × Value}
    (parent : parentOf mandates entry.1 = entry.2.getStr "parent") :
    Inherits mandates initial (inheritRevocation index entry) := by
  obtain ⟨child, mandate⟩ := entry
  intro id at_ held
  unfold inheritRevocation at held
  dsimp only at held parent
  cases above : (mandate.getStr "parent").bind index with
  | none =>
      rw [above] at held
      exact inherits id at_ held
  | some inherited =>
      rw [above] at held
      dsimp only at held
      obtain ⟨up, hasParent, revoked⟩ := Option.bind_eq_some_iff.mp above
      have lowered : Function.update index child (some inherited) id = some at_ →
          ∃ target, Relation.ReflTransGen (Above (parentOf mandates)) id target ∧ initial target = some at_ := by
        intro updated
        by_cases same : id = child
        · subst same
          rw [Function.update_self] at updated
          cases updated
          obtain ⟨target, climbs, starts⟩ := inherits up _ revoked
          exact ⟨target, .head (parent.trans hasParent) climbs, starts⟩
        · rw [Function.update_of_ne same] at updated
          exact inherits id at_ updated
      cases existing : index child with
      | none =>
          rw [existing] at held
          exact lowered held
      | some earlier =>
          rw [existing] at held
          dsimp only at held
          by_cases less : inherited < earlier
          · rw [if_pos less] at held
            exact lowered held
          · rw [if_neg less] at held
            exact inherits id at_ held

theorem Inherits.once {entries : Members} (inherits : Inherits mandates initial index)
    (parents : ∀ entry ∈ entries, parentOf mandates entry.1 = entry.2.getStr "parent") :
    Inherits mandates initial (propagateOnce entries index).1 := by
  induction entries generalizing index with
  | nil => exact inherits
  | cons entry rest ih =>
      exact ih (inherits.step (parents entry List.mem_cons_self)) fun other member =>
        parents other (List.mem_cons_of_mem _ member)

theorem Inherits.passes (distinct : mandates.Distinct) (passes : Nat) (inherits : Inherits mandates initial index) :
    Inherits mandates initial (propagateRevocations mandates passes index) := by
  induction passes generalizing index with
  | zero => exact inherits
  | succ passes ih =>
      have once := inherits.once fun entry member => parentOf_of_mem distinct member
      unfold propagateRevocations
      dsimp only
      split
      · exact ih once
      · exact once

/-- A mandate inherits what its parent has. -/
theorem inheritRevocation_parent {child up at_ : String} {mandate : Value} (hasParent : mandate.getStr "parent" = some up)
    (revoked : RevokedBy index up at_) : RevokedBy (inheritRevocation index (child, mandate)) child at_ := by
  obtain ⟨inherited, held, before⟩ := revoked
  unfold inheritRevocation
  dsimp only
  rw [hasParent, Option.bind_some, held]
  dsimp only
  cases existing : index child with
  | none => exact ⟨inherited, Function.update_self .., before⟩
  | some earlier =>
      dsimp only
      by_cases less : inherited < earlier
      · rw [if_pos less]
        exact ⟨inherited, Function.update_self .., before⟩
      · rw [if_neg less]
        exact ⟨earlier, existing, (not_lt.mp less).trans before⟩

/-- After a pass, each mandate of the table has what its parent had before it. -/
theorem propagateOnce_parent {entries : Members} {child up at_ : String} {mandate : Value}
    (member : (child, mandate) ∈ entries) (hasParent : mandate.getStr "parent" = some up)
    (revoked : RevokedBy index up at_) : RevokedBy (propagateOnce entries index).1 child at_ := by
  induction entries generalizing index with
  | nil => cases member
  | cons entry rest ih =>
      rcases List.mem_cons.mp member with rfl | later
      · exact propagateOnce_keeps rest (inheritRevocation_parent hasParent revoked)
      · exact ih later (inheritRevocation_keeps revoked entry)

/-- The entries of the start have come down a number of links. -/
def Lowered (mandates : Members) (initial index : RevocationIndex) (steps : Nat) : Prop :=
  ∀ fewer ≤ steps, ∀ id target at_, climb (parentOf mandates) fewer id = some target → initial target = some at_ →
    RevokedBy index id at_

theorem Lowered.once {steps : Nat} (lowered : Lowered mandates initial index steps) :
    Lowered mandates initial (propagateOnce mandates index).1 (steps + 1) := by
  intro fewer inside id target at_ reached starts
  cases fewer with
  | zero => exact propagateOnce_keeps mandates (lowered 0 (Nat.zero_le _) id target at_ reached starts)
  | succ fewer =>
      rw [climb, Option.bind_eq_some_iff] at reached
      obtain ⟨up, isParent, further⟩ := reached
      obtain ⟨mandate, stored, hasParent⟩ := Option.bind_eq_some_iff.mp isParent
      exact propagateOnce_parent (Envelope.mem_of_get stored) hasParent (lowered fewer (by omega) up target at_ further starts)

theorem inheritRevocation_of_unchanged {entry : String × Value} (unchanged : changedBy index entry = false) :
    inheritRevocation index entry = index := by
  obtain ⟨child, mandate⟩ := entry
  unfold changedBy at unchanged
  unfold inheritRevocation
  dsimp only at unchanged ⊢
  cases above : (mandate.getStr "parent").bind index with
  | none => rfl
  | some inherited =>
      rw [above] at unchanged
      dsimp only at unchanged ⊢
      cases existing : index child with
      | none =>
          rw [existing] at unchanged
          cases unchanged
      | some earlier =>
          rw [existing] at unchanged
          dsimp only at unchanged ⊢
          rw [if_neg (of_decide_eq_false unchanged)]

/-- A pass that changes nothing leaves the index as it was. -/
theorem propagateOnce_of_unchanged {entries : Members} (unchanged : (propagateOnce entries index).2 = false) :
    (propagateOnce entries index).1 = index := by
  induction entries generalizing index with
  | nil => rfl
  | cons entry rest ih =>
      unfold propagateOnce at unchanged ⊢
      dsimp only at unchanged ⊢
      rw [Bool.or_eq_false_iff] at unchanged
      rw [inheritRevocation_of_unchanged unchanged.1] at unchanged ⊢
      exact ih unchanged.2

theorem Lowered.fixed {steps : Nat} (lowered : Lowered mandates initial index steps)
    (fixed : (propagateOnce mandates index).1 = index) (more : Nat) : Lowered mandates initial index (steps + more) := by
  induction more with
  | zero => exact lowered
  | succ more ih =>
      have once := ih.once
      rw [fixed] at once
      exact once

theorem Lowered.passes (passes steps : Nat) (lowered : Lowered mandates initial index steps) :
    Lowered mandates initial (propagateRevocations mandates passes index) (steps + passes) := by
  induction passes generalizing index steps with
  | zero => exact lowered
  | succ passes ih =>
      unfold propagateRevocations
      dsimp only
      cases changed : (propagateOnce mandates index).2 with
      | true =>
          rw [if_pos rfl]
          have further := ih (steps + 1) lowered.once
          rwa [Nat.add_right_comm] at further
      | false =>
          rw [if_neg Bool.false_ne_true]
          have fixed := propagateOnce_of_unchanged changed
          rw [fixed]
          exact lowered.fixed fixed _

theorem mem_keys_of_parentOf {child up : String} (isParent : parentOf mandates child = some up) :
    child ∈ mandates.keys := by
  obtain ⟨mandate, stored, _⟩ := Option.bind_eq_some_iff.mp isParent
  exact mem_keys_of_get stored

/-- The instants that come down to a mandate from the start. -/
def comesDown (mandates : Members) (initial : RevocationIndex) (id : String) : Set String :=
  {at_ | ∃ target, Relation.ReflTransGen (Above (parentOf mandates)) id target ∧ initial target = some at_}

theorem comesDown_of_settled (distinct : mandates.Distinct) {id at_ : String}
    (held : propagateRevocations mandates mandates.length initial id = some at_) : at_ ∈ comesDown mandates initial id := by
  have start : Inherits mandates initial initial := fun id at_ held => ⟨id, .refl, held⟩
  exact start.passes distinct mandates.length id at_ held

theorem settled_of_comesDown {id at_ : String} (comes : at_ ∈ comesDown mandates initial id) :
    RevokedBy (propagateRevocations mandates mandates.length initial) id at_ := by
  have start : Lowered mandates initial initial 0 := by
    intro fewer none id target at_ reached starts
    obtain rfl : fewer = 0 := by omega
    cases reached
    exact ⟨at_, starts, le_refl _⟩
  have lowered := start.passes mandates.length 0
  rw [Nat.zero_add] at lowered
  obtain ⟨target, above, starts⟩ := comes
  obtain ⟨steps, inside, reached⟩ := climb_within (fun child up => mem_keys_of_parentOf) above
  have bound : mandates.keys.length = mandates.length := List.length_map ..
  exact lowered steps (bound ▸ inside) id target at_ reached starts

/-- After as many passes as there are mandates, each has the first instant that comes down to it. -/
theorem propagateRevocations_least (distinct : mandates.Distinct) (id at_ : String) :
    propagateRevocations mandates mandates.length initial id = some at_ ↔ IsLeast (comesDown mandates initial id) at_ := by
  constructor
  · intro held
    refine ⟨comesDown_of_settled distinct held, ?_⟩
    intro other comes
    obtain ⟨earliest, isEarliest, before⟩ := settled_of_comesDown comes
    rw [held, Option.some.injEq] at isEarliest
    exact isEarliest ▸ before
  · intro least
    obtain ⟨earliest, held, before⟩ := settled_of_comesDown least.1
    have after := least.2 (comesDown_of_settled distinct held)
    rw [held, le_antisymm before after]

theorem propagateRevocations_none (distinct : mandates.Distinct) (id : String) :
    propagateRevocations mandates mandates.length initial id = none ↔ comesDown mandates initial id = ∅ := by
  constructor
  · intro none
    rw [Set.eq_empty_iff_forall_notMem]
    intro other comes
    obtain ⟨earliest, held, _⟩ := settled_of_comesDown comes
    rw [none] at held
    cases held
  · intro empty
    cases held : propagateRevocations mandates mandates.length initial id with
    | none => rfl
    | some at_ =>
        have comes := comesDown_of_settled distinct held
        rw [empty] at comes
        exact absurd comes (Set.notMem_empty _)

theorem propagateOnce_of_settled {entries : Members} (settled : ∀ entry ∈ entries, changedBy index entry = false) :
    propagateOnce entries index = (index, false) := by
  induction entries with
  | nil => rfl
  | cons entry rest ih =>
      have first := settled entry List.mem_cons_self
      unfold propagateOnce
      rw [inheritRevocation_of_unchanged first, ih fun other member => settled other (List.mem_cons_of_mem _ member)]
      dsimp only
      rw [first, Bool.or_false]

/-- No further pass changes anything. -/
theorem propagateRevocations_settled (distinct : mandates.Distinct) :
    propagateOnce mandates (propagateRevocations mandates mandates.length initial) =
      (propagateRevocations mandates mandates.length initial, false) := by
  apply propagateOnce_of_settled
  intro entry member
  have parent := parentOf_of_mem distinct member
  obtain ⟨child, mandate⟩ := entry
  unfold changedBy
  dsimp only at parent ⊢
  cases above : (mandate.getStr "parent").bind (propagateRevocations mandates mandates.length initial) with
  | none => rfl
  | some inherited =>
      obtain ⟨up, hasParent, revoked⟩ := Option.bind_eq_some_iff.mp above
      obtain ⟨target, climbs, starts⟩ := comesDown_of_settled distinct revoked
      have comes : inherited ∈ comesDown mandates initial child :=
        ⟨target, .head (parent.trans hasParent) climbs, starts⟩
      obtain ⟨earliest, held, before⟩ := settled_of_comesDown comes
      rw [held]
      exact decide_eq_false (not_lt.mpr before)

variable {revocations : List Value}

/-- What is recorded of the revocations that count is among them, and no later than any. -/
theorem recorded_within (id : String) :
    comesDown mandates ((revocations.filterMap (countedRevocation ext mandates roots)).foldl recordRevocation
      fun _ => none) id ⊆ inheritedRevocations ext mandates revocations roots id := by
  rintro at_ ⟨target, above, starts⟩
  obtain ⟨revocation, member, counted⟩ := List.mem_filterMap.mp (foldl_recordRevocation_mem starts)
  exact ⟨revocation, member, target, above, revokes_iff.mpr counted⟩

theorem recorded_below {id at_ : String} (inherited : at_ ∈ inheritedRevocations ext mandates revocations roots id) :
    ∃ earlier ∈ comesDown mandates ((revocations.filterMap (countedRevocation ext mandates roots)).foldl recordRevocation
      fun _ => none) id, earlier ≤ at_ := by
  obtain ⟨revocation, member, target, above, revokes⟩ := inherited
  have counted := List.mem_filterMap.mpr ⟨revocation, member, revokes_iff.mp revokes⟩
  obtain ⟨earlier, held, before⟩ := foldl_recordRevocation counted fun _ => none
  exact ⟨earlier, ⟨target, above, held⟩, before⟩

theorem revocationIndex_eq_some (distinct : mandates.Distinct) (id at_ : String) :
    revocationIndex ext mandates revocations roots id = some at_ ↔
      IsLeast (inheritedRevocations ext mandates revocations roots id) at_ := by
  unfold revocationIndex
  rw [propagateRevocations_least distinct]
  constructor
  · intro least
    refine ⟨recorded_within id least.1, ?_⟩
    intro other inherited
    obtain ⟨earlier, comes, before⟩ := recorded_below inherited
    exact (least.2 comes).trans before
  · intro least
    obtain ⟨earlier, comes, before⟩ := recorded_below least.1
    have same := le_antisymm before (least.2 (recorded_within id comes))
    refine ⟨same ▸ comes, ?_⟩
    intro other comesToo
    exact least.2 (recorded_within id comesToo)

theorem revocationIndex_eq_none (distinct : mandates.Distinct) (id : String) :
    revocationIndex ext mandates revocations roots id = none ↔
      inheritedRevocations ext mandates revocations roots id = ∅ := by
  unfold revocationIndex
  rw [propagateRevocations_none distinct, Set.eq_empty_iff_forall_notMem, Set.eq_empty_iff_forall_notMem]
  constructor
  · intro none other inherited
    obtain ⟨earlier, comes, _⟩ := recorded_below inherited
    exact none earlier comes
  · intro none other comes
    exact none other (recorded_within id comes)

section Order

variable {otherMandates : Members} {otherRevocations : List Value}

theorem grantedAbove_congr (same : ∀ id, otherMandates.get id = mandates.get id) (signer : KeyId) (steps : Nat)
    (target : String) : grantedAbove otherMandates signer steps target = grantedAbove mandates signer steps target := by
  induction steps generalizing target with
  | zero => rfl
  | succ steps ih =>
      unfold grantedAbove
      rw [same target]
      simp only [ih]

theorem revokes_congr (same : ∀ id, otherMandates.get id = mandates.get id) (size : otherMandates.length = mandates.length)
    {revocation : Value} {target at_ : String} :
    Revokes ext otherMandates roots revocation target at_ ↔ Revokes ext mandates roots revocation target at_ := by
  have authorized : ∀ signer, revokerIsAuthorized otherMandates target signer roots =
      revokerIsAuthorized mandates target signer roots := by
    intro signer
    unfold revokerIsAuthorized
    rw [size, grantedAbove_congr same]
  have forward : backdated otherMandates target at_ = backdated mandates target at_ := by
    unfold backdated
    rw [same]
  constructor
  · rintro ⟨⟨signer, signed, may⟩, names, instant, notBackdated⟩
    exact ⟨⟨signer, signed, authorized signer ▸ may⟩, names, instant, forward ▸ notBackdated⟩
  · rintro ⟨⟨signer, signed, may⟩, names, instant, notBackdated⟩
    exact ⟨⟨signer, signed, (authorized signer).symm ▸ may⟩, names, instant, forward.symm ▸ notBackdated⟩

theorem inheritedRevocations_congr (distinct : mandates.Distinct) (mandatesPerm : otherMandates.Perm mandates)
    (revocationsPerm : otherRevocations.Perm revocations) (id : String) :
    inheritedRevocations ext otherMandates otherRevocations roots id =
      inheritedRevocations ext mandates revocations roots id := by
  have same := distinct.get_of_perm mandatesPerm
  have parents : parentOf otherMandates = parentOf mandates := by
    funext child
    unfold parentOf
    rw [same]
  ext at_
  unfold inheritedRevocations
  rw [Set.mem_ofPred_eq, Set.mem_ofPred_eq, parents]
  simp only [revocationsPerm.mem_iff, revokes_congr same mandatesPerm.length_eq]

/-- The index does not depend on the order its revocations and the table are listed in. -/
theorem revocationIndex_of_perm (distinct : mandates.Distinct) (mandatesPerm : otherMandates.Perm mandates)
    (revocationsPerm : otherRevocations.Perm revocations) :
    revocationIndex ext otherMandates otherRevocations roots = revocationIndex ext mandates revocations roots := by
  have otherDistinct : otherMandates.Distinct := (mandatesPerm.map Prod.fst).nodup_iff.mpr distinct
  funext id
  apply Option.ext
  intro at_
  rw [revocationIndex_eq_some otherDistinct, revocationIndex_eq_some distinct,
    inheritedRevocations_congr distinct mandatesPerm revocationsPerm]

end Order

/-- The index has the first revocation of each mandate or of what it stands beneath, and nothing for one without;
no further pass changes it, and neither does another order. -/
theorem revocationIndex_inherited (ext : External) (distinct : mandates.Distinct) (revocations : List Value)
    (roots : List KeyId) :
    (∀ id at_, revocationIndex ext mandates revocations roots id = some at_ ↔
      IsLeast (inheritedRevocations ext mandates revocations roots id) at_) ∧
    (∀ id, revocationIndex ext mandates revocations roots id = none ↔
      inheritedRevocations ext mandates revocations roots id = ∅) ∧
    propagateOnce mandates (revocationIndex ext mandates revocations roots) =
      (revocationIndex ext mandates revocations roots, false) ∧
    ∀ otherMandates otherRevocations, List.Perm otherMandates mandates → List.Perm otherRevocations revocations →
      revocationIndex ext otherMandates otherRevocations roots = revocationIndex ext mandates revocations roots := by
  refine ⟨revocationIndex_eq_some distinct, revocationIndex_eq_none distinct, propagateRevocations_settled distinct, ?_⟩
  intro otherMandates otherRevocations mandatesPerm revocationsPerm
  exact revocationIndex_of_perm distinct mandatesPerm revocationsPerm

end Mandate

end Stozher

namespace Stozher.Deployment

open Mandate

/-- A mandate, one beneath it, and two that name each other as parents. -/
def revokedTable : Members :=
  [("adopted", .object [("parent", .string opsMandate.digest)]), ("back", .object [("parent", .string "forth")]),
    ("forth", .object [("parent", .string "back")]), (opsMandate.digest, opsMandate.document)]

structure RevokedTableSeen : Prop where
  distinct : revokedTable.keys.Nodup
  revoked : (["adopted", "back", opsMandate.digest].map
    (revocationIndex ext revokedTable [opsRevocation.document] [anaId, miraId])) = [some quarterPast, none, some quarterPast]

theorem revoked_table_seen : RevokedTableSeen := by
  constructor <;> decide +kernel

theorem revoked_table_inherited : IsLeast
    (inheritedRevocations ext revokedTable [opsRevocation.document] [anaId, miraId] "adopted") quarterPast := by
  have seen := revoked_table_seen.revoked
  rw [List.map_cons, List.cons.injEq] at seen
  exact ((revocationIndex_inherited ext revoked_table_seen.distinct [opsRevocation.document] [anaId, miraId]).1 _ _).mp
    seen.1

end Stozher.Deployment
