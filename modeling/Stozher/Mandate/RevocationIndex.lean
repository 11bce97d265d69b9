import Stozher.Mandate.Revocation
import Mathlib.Data.String.Basic

namespace Stozher.Mandate

open Library

variable {ext : External} {mandates : Members} {roots : List KeyId}

/-- The index holds a mandate revoked at an instant or before it. -/
def RevokedBy (index : RevocationIndex) (id at_ : String) : Prop :=
  ∃ earliest, index id = some earliest ∧ earliest ≤ at_

theorem recordRevocation_self (index : RevocationIndex) (id at_ : String) :
    RevokedBy (recordRevocation index (id, at_)) id at_ := by
  unfold RevokedBy recordRevocation
  simp only [Function.update_self]
  cases index id with
  | none => exact ⟨at_, rfl, le_refl _⟩
  | some existing =>
      by_cases earlier : at_ < existing
      · exact ⟨at_, by simp [earlier], le_refl _⟩
      · exact ⟨existing, by simp [earlier], not_lt.mp earlier⟩

theorem recordRevocation_keeps {index : RevocationIndex} {id at_ : String}
    (revoked : RevokedBy index id at_) (entry : String × String) :
    RevokedBy (recordRevocation index entry) id at_ := by
  obtain ⟨earliest, held, before⟩ := revoked
  obtain ⟨target, revokedAt⟩ := entry
  by_cases same : id = target
  · subst same
    unfold RevokedBy recordRevocation
    simp only [Function.update_self, held]
    by_cases earlier : revokedAt < earliest
    · exact ⟨revokedAt, by simp [earlier], (le_of_lt earlier).trans before⟩
    · exact ⟨earliest, by simp [earlier], before⟩
  · exact ⟨earliest, (Function.update_of_ne same ..).trans held, before⟩

theorem foldl_recordRevocation {entries : List (String × String)} {id at_ : String}
    (member : (id, at_) ∈ entries) (index : RevocationIndex) :
    RevokedBy (entries.foldl recordRevocation index) id at_ := by
  have kept : ∀ (rest : List (String × String)) (start : RevocationIndex),
      RevokedBy start id at_ → RevokedBy (rest.foldl recordRevocation start) id at_ := by
    intro rest
    induction rest with
    | nil => exact fun _ revoked => revoked
    | cons first others ih =>
        intro start revoked
        exact ih _ (recordRevocation_keeps revoked first)
  induction entries generalizing index with
  | nil => cases member
  | cons first rest ih =>
      rw [List.foldl_cons]
      rcases List.mem_cons.mp member with rfl | later
      · exact kept rest _ (recordRevocation_self index id at_)
      · exact ih later _

theorem inheritRevocation_keeps {index : RevocationIndex} {id at_ : String}
    (revoked : RevokedBy index id at_) (entry : String × Value) :
    RevokedBy (inheritRevocation index entry) id at_ := by
  obtain ⟨earliest, held, before⟩ := revoked
  obtain ⟨child, mandate⟩ := entry
  unfold inheritRevocation
  dsimp only
  split
  · exact ⟨earliest, held, before⟩
  · rename_i inherited _
    by_cases same : id = child
    · subst same
      rw [held]
      dsimp only
      split
      · rename_i earlier
        exact ⟨inherited, Function.update_self .., (le_of_lt earlier).trans before⟩
      · exact ⟨earliest, held, before⟩
    · split
      · split
        · exact ⟨earliest, (Function.update_of_ne same ..).trans held, before⟩
        · exact ⟨earliest, held, before⟩
      · exact ⟨earliest, (Function.update_of_ne same ..).trans held, before⟩

theorem propagateOnce_keeps {id at_ : String} (entries : Members) {index : RevocationIndex}
    (revoked : RevokedBy index id at_) : RevokedBy (propagateOnce entries index).1 id at_ := by
  induction entries generalizing index with
  | nil => exact revoked
  | cons entry rest ih => exact ih (inheritRevocation_keeps revoked entry)

theorem propagateRevocations_keeps {id at_ : String} (passes : Nat) {index : RevocationIndex}
    (revoked : RevokedBy index id at_) :
    RevokedBy (propagateRevocations mandates passes index) id at_ := by
  induction passes generalizing index with
  | zero => exact revoked
  | succ passes ih =>
      have once := propagateOnce_keeps mandates revoked
      unfold propagateRevocations
      dsimp only
      split
      · exact ih once
      · exact once

/-- A revocation that counts is in the index, at its own instant or an earlier one. -/
theorem revocationIndex_revoked {revocations : List Value} {revocation : Value} {id at_ : String}
    (member : revocation ∈ revocations)
    (counted : countedRevocation ext mandates roots revocation = some (id, at_)) :
    RevokedBy (revocationIndex ext mandates revocations roots) id at_ := by
  unfold revocationIndex
  apply propagateRevocations_keeps
  apply foldl_recordRevocation
  exact List.mem_filterMap.mpr ⟨revocation, member, counted⟩

theorem countedRevocation_eq_some {revocation : Value} {id at_ : String} :
    countedRevocation ext mandates roots revocation = some (id, at_) ↔
      ∃ signer, Signed.verifySignedObject ext revocation = .ok signer ∧
        revocation.getStr "revokes" = some id ∧ revocation.getStr "revoked-at" = some at_ ∧
        revokerIsAuthorized mandates id signer roots = true ∧ backdated mandates id at_ = false := by
  unfold countedRevocation
  simp only [Option.bind_eq_bind, Option.bind_eq_some_iff]
  constructor
  · rintro ⟨signer, signed, target, revokes, revokedAt, instant, counts⟩
    split at counts
    · rename_i authorized
      cases counts
      simp only [Bool.and_eq_true, Bool.not_eq_true'] at authorized
      refine ⟨signer, ?_, revokes, instant, authorized.1, authorized.2⟩
      cases verified : Signed.verifySignedObject ext revocation with
      | error e => simp [verified, Except.toOption] at signed
      | ok other => simpa [verified, Except.toOption] using signed
    · cases counts
  · rintro ⟨signer, signed, revokes, revokedAt, authorized, forward⟩
    refine ⟨signer, by simp [signed, Except.toOption], id, revokes, at_, revokedAt, ?_⟩
    simp [authorized, forward]

/-- What a revocation is verified for is what it is counted for. -/
theorem counted_of_verified {revocation : Value}
    (verified : verifyRevocation ext mandates revocation roots = .ok ()) :
    ∃ id at_, revocation.getStr "revokes" = some id ∧ revocation.getStr "revoked-at" = some at_ ∧
      countedRevocation ext mandates roots revocation = some (id, at_) := by
  unfold verifyRevocation at verified
  simp only [bind_eq_ok, okOr_eq_ok, require_eq_ok] at verified
  obtain ⟨signer, signed, id, revokes, at_, revokedAt, _, authorized, forward⟩ := verified
  exact ⟨id, at_, revokes, revokedAt, countedRevocation_eq_some.mpr
    ⟨signer, signed, revokes, revokedAt, authorized, forward⟩⟩

end Stozher.Mandate
