import Stozher.Envelope
import Mathlib.Data.Nat.Log

namespace Stozher

open Library

namespace Binary64

variable {n : Nat} (positive : 0 < n) (small : n < 2 ^ 53)

include positive small

theorem shifted_bounds :
    n.log2 ≤ 52 ∧ 2 ^ 52 ≤ n * 2 ^ (52 - n.log2) ∧ n * 2 ^ (52 - n.log2) < 2 ^ 53 := by
  have nonzero : n ≠ 0 := by omega
  have exponent : n.log2 ≤ 52 := by
    have := (Nat.log2_lt nonzero).mpr small
    omega
  refine ⟨exponent, ?_, ?_⟩
  · have bound := Nat.mul_le_mul_right (2 ^ (52 - n.log2)) (Nat.log2_self_le nonzero)
    rw [← Nat.pow_add] at bound
    rwa [show n.log2 + (52 - n.log2) = 52 by omega] at bound
  · have bound := Nat.mul_lt_mul_of_pos_right (Nat.lt_log2_self (n := n)) (Nat.two_pow_pos (52 - n.log2))
    rw [← Nat.pow_add] at bound
    rwa [show n.log2 + 1 + (52 - n.log2) = 53 by omega] at bound

/-- What the word of a small whole number holds. -/
theorem ofNat_toNat : (ofNat n).toNat = (n.log2 + 1022) * 2 ^ 52 + n * 2 ^ (52 - n.log2) := by
  obtain ⟨exponent, low, high⟩ := shifted_bounds positive small
  unfold ofNat
  rw [if_neg (by omega), if_pos exponent, BitVec.toNat_ofNat]
  apply Nat.mod_eq_of_lt
  omega

theorem ofNat_lt : (ofNat n).toNat < 2 ^ 63 := by
  obtain ⟨exponent, low, high⟩ := shifted_bounds positive small
  rw [ofNat_toNat positive small]
  omega

theorem exponentBits_of_magnitude {bits : Binary64} (same : bits.toNat % 2 ^ 63 = (ofNat n).toNat) :
    exponentBits bits = n.log2 + 1023 := by
  obtain ⟨exponent, low, high⟩ := shifted_bounds positive small
  rw [ofNat_toNat positive small] at same
  unfold exponentBits
  omega

theorem fractionBits_of_magnitude {bits : Binary64} (same : bits.toNat % 2 ^ 63 = (ofNat n).toNat) :
    2 ^ 52 + fractionBits bits = n * 2 ^ (52 - n.log2) := by
  obtain ⟨exponent, low, high⟩ := shifted_bounds positive small
  rw [ofNat_toNat positive small] at same
  unfold fractionBits
  omega

/-- Either sign of a small whole number has it as its magnitude. -/
theorem wholeMagnitude_of_magnitude {bits : Binary64}
    (same : bits.toNat % 2 ^ 63 = (ofNat n).toNat) : wholeMagnitude bits = some n := by
  obtain ⟨exponent, low, high⟩ := shifted_bounds positive small
  have exponentIs := exponentBits_of_magnitude positive small same
  have fractionIs := fractionBits_of_magnitude positive small same
  have nonzero : isZero bits = false := by
    have := ofNat_toNat positive small
    simp only [isZero, beq_eq_false_iff_ne]
    omega
  unfold wholeMagnitude
  simp only [nonzero, exponentIs, fractionIs, Bool.false_eq_true, if_false]
  rw [if_neg (by omega)]
  by_cases whole : 1075 ≤ n.log2 + 1023
  · have top : n.log2 = 52 := by omega
    simp [top]
  · have rest : 1075 - (n.log2 + 1023) = 52 - n.log2 := by omega
    rw [if_neg whole, rest, Nat.mul_mod_left, if_pos rfl]
    rw [Nat.mul_div_cancel n (Nat.two_pow_pos _)]

theorem isFinite_of_magnitude {bits : Binary64}
    (same : bits.toNat % 2 ^ 63 = (ofNat n).toNat) : isFinite bits = true := by
  obtain ⟨exponent, low, high⟩ := shifted_bounds positive small
  simp only [isFinite, exponentBits_of_magnitude positive small same, bne_iff_ne]
  omega

end Binary64

namespace Number

/-- A whole number within the safe range. -/
def isSafe : Number → Prop
  | posInt n _ => n < 2 ^ 53
  | negInt i _ => -2 ^ 53 < i
  | float _ => False

theorem ofCanonical_posInt {bits : Binary64} {n : Nat} (whole : bits.wholeMagnitude = some n)
    (sign : bits.isNegative = false) (fits : n < 2 ^ 64) : ofCanonical bits = posInt n fits := by
  unfold ofCanonical
  simp only [whole]
  rw [dif_neg (by simp [sign]), dif_pos ⟨Or.inl sign, fits⟩]

theorem ofCanonical_negInt {bits : Binary64} {n : Nat} {i : Int}
    (whole : bits.wholeMagnitude = some n) (sign : bits.isNegative = true) (value : i = -(n : Int))
    (fits : -2 ^ 63 ≤ i ∧ i < 0) : ofCanonical bits = negInt i fits := by
  subst value
  unfold ofCanonical
  simp only [whole]
  rw [dif_pos ⟨sign, by omega, by omega⟩]

end Number

namespace Jcs

theorem canonicalNumber_eq {n : Number} (bits : Binary64) (value : n.asF64 = bits)
    (finite : bits.isFinite = true) : canonicalNumber n = .ok (Number.ofCanonical bits) := by
  unfold canonicalNumber
  rw [value, require_bind_eq_ok]
  exact ⟨finite, rfl⟩

theorem canonicalNumber_posInt {n : Nat} (fits : n < 2 ^ 64) (small : n < 2 ^ 53) :
    canonicalNumber (.posInt n fits) = .ok (.posInt n fits) := by
  by_cases zero : n = 0
  · subst zero
    rw [canonicalNumber_eq (Binary64.ofNat 0) rfl (by decide)]
    rw [Number.ofCanonical_posInt (n := 0) (by decide) (by decide) fits]
  · have positive : 0 < n := by omega
    have below := Binary64.ofNat_lt positive small
    have same : (Binary64.ofNat n).toNat % 2 ^ 63 = (Binary64.ofNat n).toNat :=
      Nat.mod_eq_of_lt below
    have sign : (Binary64.ofNat n).isNegative = false := by
      simp only [Binary64.isNegative, decide_eq_false_iff_not]
      omega
    have whole := Binary64.wholeMagnitude_of_magnitude positive small same
    have finite := Binary64.isFinite_of_magnitude positive small same
    rw [canonicalNumber_eq (Binary64.ofNat n) rfl finite]
    rw [Number.ofCanonical_posInt whole sign fits]

theorem canonicalNumber_negInt {i : Int} (fits : -2 ^ 63 ≤ i ∧ i < 0) (small : -2 ^ 53 < i) :
    canonicalNumber (.negInt i fits) = .ok (.negInt i fits) := by
  obtain ⟨k, rfl⟩ := Int.eq_negSucc_of_lt_zero fits.2
  have magnitude : k + 1 < 2 ^ 53 := by omega
  have below : (Binary64.ofNat (k + 1)).toNat < 2 ^ 63 :=
    Binary64.ofNat_lt (Nat.succ_pos k) magnitude
  have word : (Binary64.ofInt (Int.negSucc k)).toNat = 2 ^ 63 + (Binary64.ofNat (k + 1)).toNat := by
    simp only [Binary64.ofInt, BitVec.toNat_ofNat]
    apply Nat.mod_eq_of_lt
    omega
  have same : (Binary64.ofInt (Int.negSucc k)).toNat % 2 ^ 63 = (Binary64.ofNat (k + 1)).toNat := by
    omega
  have sign : (Binary64.ofInt (Int.negSucc k)).isNegative = true := by
    simp only [Binary64.isNegative, decide_eq_true_eq]
    omega
  have whole := Binary64.wholeMagnitude_of_magnitude (Nat.succ_pos k) magnitude same
  have finite := Binary64.isFinite_of_magnitude (Nat.succ_pos k) magnitude same
  rw [canonicalNumber_eq (Binary64.ofInt (Int.negSucc k)) rfl finite]
  rw [Number.ofCanonical_negInt whole sign (by omega) fits]

/-- A safe whole number is its own canonical form. -/
theorem canonicalNumber_of_safe {n : Number} (safe : n.isSafe) : canonicalNumber n = .ok n := by
  cases n with
  | posInt n fits => exact canonicalNumber_posInt fits safe
  | negInt i fits => exact canonicalNumber_negInt fits safe
  | float bits => cases safe

end Jcs

namespace Envelope

open Jcs

variable (ext : External)

/-- A number the check admits is an integer within the safe range. -/
theorem integer_of_checked {n : Number} {path : String}
    (checked : checkNumbers ext (.number n) path = .ok ()) :
    ∃ i, n.asI64.or (n.asU64.map Int.ofNat) = some i ∧ i.natAbs ≤ maxSafeInteger := by
  unfold checkNumbers at checked
  split at checked
  · rename_i i integer
    exact ⟨i, integer, require_eq_ok.mp checked⟩
  · cases checked

theorem isSafe_of_checked {n : Number} {path : String}
    (checked : checkNumbers ext (.number n) path = .ok ()) : n.isSafe := by
  obtain ⟨i, integer, within⟩ := integer_of_checked ext checked
  unfold maxSafeInteger at within
  cases n with
  | posInt n fits =>
      show n < 2 ^ 53
      have value : i = n := by
        simp only [Number.asI64, Number.asU64] at integer
        split at integer <;> simpa [eq_comm] using integer
      omega
  | negInt j fits =>
      show -2 ^ 53 < j
      have value : i = j := by simpa [Number.asI64, eq_comm] using integer
      omega
  | float bits => simp [Number.asI64, Number.asU64] at integer

mutual

/-- A value whose numbers are safe integers is its own canonical form. -/
theorem writeValue_of_checked : (value : Value) → (path : String) →
    checkNumbers ext value path = .ok () → writeValue value = .ok value
  | .null, _, _ => rfl
  | .bool _, _, _ => rfl
  | .string _, _, _ => rfl
  | .number n, path, checked => by
      simp only [writeValue, canonicalNumber_of_safe (isSafe_of_checked ext checked), ok_bind]
      rfl
  | .array items, path, checked => by
      rw [checkNumbers] at checked
      simp only [writeValue, writeItems_of_checked items path 0 checked, ok_bind]
      rfl
  | .object members, path, checked => by
      rw [checkNumbers] at checked
      simp only [writeValue, writeMembers_of_checked members path checked, ok_bind]
      rfl

theorem writeItems_of_checked : (items : List Value) → (path : String) → (i : Nat) →
    checkItems ext items path i = .ok () → writeItems items = .ok items
  | [], _, _, _ => rfl
  | item :: rest, path, i, checked => by
      rw [checkItems, bind_eq_ok] at checked
      obtain ⟨_, first, others⟩ := checked
      simp only [writeItems, writeValue_of_checked item _ first,
        writeItems_of_checked rest path (i + 1) others, ok_bind]
      rfl

theorem writeMembers_of_checked : (members : List (String × Value)) → (path : String) →
    checkMembers ext members path = .ok () → writeMembers members = .ok members
  | [], _, _ => rfl
  | (name, item) :: rest, path, checked => by
      rw [checkMembers, bind_eq_ok] at checked
      obtain ⟨_, first, others⟩ := checked
      simp only [writeMembers, writeValue_of_checked item _ first,
        writeMembers_of_checked rest path others, ok_bind]
      rfl

end

theorem canonicalize_of_checked {value : Value} {path : String}
    (checked : checkNumbers ext value path = .ok ()) : canonicalize value = .ok { tree := value } := by
  unfold canonicalize
  rw [writeValue_of_checked ext value path checked]
  rfl

end Envelope

end Stozher
