import Stozher.CanonicalText
import Stozher.Deployment

namespace Stozher

open Library

namespace Binary64

/-- The magnitude of a whole number has its exponent and its digits. -/
theorem magnitude_bits {bits : Binary64} {n : Nat} (positive : 0 < n) (whole : bits.wholeMagnitude = some n) :
    n.log2 + 1023 = exponentBits bits ∧ if exponentBits bits < 1075 then
        n * 2 ^ (1075 - exponentBits bits) = 2 ^ 52 + fractionBits bits
      else n = (2 ^ 52 + fractionBits bits) * 2 ^ (exponentBits bits - 1075) := by
  have fraction : fractionBits bits < 2 ^ 52 := by
    unfold fractionBits
    exact Nat.mod_lt _ (by decide)
  unfold wholeMagnitude at whole
  dsimp only at whole
  split at whole
  · rw [← Option.some.inj whole] at positive
    exact absurd positive (lt_irrefl 0)
  split at whole
  · cases whole
  generalize exponentBits bits = exponent at *
  generalize fractionBits bits = digits at *
  split at whole
  · rename_i large
    have value : n = (2 ^ 52 + digits) * 2 ^ (exponent - 1075) := (Option.some.inj whole).symm
    have log : n.log2 = exponent - 1023 := by
      rw [Nat.log2_eq_iff (by omega), value]
      have shifted : exponent - 1023 = 52 + (exponent - 1075) := by omega
      rw [shifted, Nat.pow_add, show 52 + (exponent - 1075) + 1 = 53 + (exponent - 1075) by omega, Nat.pow_add]
      constructor
      · exact Nat.mul_le_mul_right _ (by omega)
      · exact Nat.mul_lt_mul_of_pos_right (by omega) (Nat.two_pow_pos _)
    rw [if_neg (by omega)]
    exact ⟨by omega, value⟩
  · split at whole
    · rename_i small exact_
      have value : n * 2 ^ (1075 - exponent) = 2 ^ 52 + digits := by
        rw [← Option.some.inj whole]
        exact Nat.div_mul_cancel (Nat.dvd_of_mod_eq_zero exact_)
      have least : 1023 ≤ exponent := by
        by_contra tiny
        have huge : 2 ^ 53 ≤ 2 ^ (1075 - exponent) := Nat.pow_le_pow_right (by decide) (by omega)
        have grown := Nat.le_mul_of_pos_left (2 ^ (1075 - exponent)) positive
        omega
      have log : n.log2 = exponent - 1023 := by
        rw [Nat.log2_eq_iff (by omega)]
        have shift := Nat.two_pow_pos (1075 - exponent)
        constructor
        · apply Nat.le_of_mul_le_mul_right _ shift
          rw [value, ← Nat.pow_add, show exponent - 1023 + (1075 - exponent) = 52 by omega]
          omega
        · apply Nat.lt_of_mul_lt_mul_right (a := 2 ^ (1075 - exponent))
          rw [value, ← Nat.pow_add, show exponent - 1023 + 1 + (1075 - exponent) = 53 by omega]
          omega
      rw [if_pos (by omega)]
      exact ⟨by omega, value⟩
    · cases whole

/-- A whole number is the binary64 nearest to its magnitude, but for the sign. -/
theorem ofNat_of_wholeMagnitude {bits : Binary64} {n : Nat} (positive : 0 < n) (fits : n < 2 ^ 65)
    (whole : bits.wholeMagnitude = some n) : (ofNat n).toNat = bits.toNat % 2 ^ 63 := by
  obtain ⟨log, value⟩ := magnitude_bits positive whole
  have fraction : fractionBits bits < 2 ^ 52 := by
    unfold fractionBits
    exact Nat.mod_lt _ (by decide)
  have split_ : bits.toNat % 2 ^ 63 = exponentBits bits * 2 ^ 52 + fractionBits bits := by
    unfold exponentBits fractionBits
    omega
  have small : n.log2 < 65 := (Nat.log2_lt (by omega)).mpr fits
  rw [split_]
  unfold ofNat
  rw [if_neg (by omega)]
  dsimp only
  by_cases exact_ : n.log2 ≤ 52
  · have kept : n * 2 ^ (52 - n.log2) = 2 ^ 52 + fractionBits bits := by
      by_cases below : exponentBits bits < 1075
      · rw [if_pos below] at value
        rw [show 52 - n.log2 = 1075 - exponentBits bits by omega]
        exact value
      · rw [if_neg below] at value
        rw [show 52 - n.log2 = 0 by omega, Nat.pow_zero, Nat.mul_one]
        rw [show exponentBits bits - 1075 = 0 by omega, Nat.pow_zero, Nat.mul_one] at value
        exact value
    rw [if_pos exact_, kept, BitVec.toNat_ofNat, Nat.mod_eq_of_lt (by omega)]
    omega
  · rw [if_neg (by omega)] at value
    have unit : n.log2 - 52 = exponentBits bits - 1075 := by omega
    have positiveUnit := Nat.two_pow_pos (exponentBits bits - 1075)
    have kept : n / 2 ^ (n.log2 - 52) = 2 ^ 52 + fractionBits bits := by
      rw [unit]
      generalize 2 ^ (exponentBits bits - 1075) = unit at value positiveUnit
      rw [value]
      exact Nat.mul_div_cancel _ positiveUnit
    have lost : n % 2 ^ (n.log2 - 52) = 0 := by
      rw [unit]
      generalize 2 ^ (exponentBits bits - 1075) = unit at value
      rw [value]
      exact Nat.mul_mod_left _ _
    rw [if_neg exact_, kept, lost, if_neg, BitVec.toNat_ofNat, Nat.mod_eq_of_lt (by omega)]
    · omega
    · have other := Nat.two_pow_pos (n.log2 - 52)
      omega

end Binary64

namespace Jcs

open Binary64

/-- A number that was written is written as it stands. -/
theorem canonicalNumber_canonical {n m : Number} (written : canonicalNumber n = .ok m) : canonicalNumber m = .ok m := by
  unfold canonicalNumber at written
  dsimp only at written
  rw [require_bind_eq_ok] at written
  obtain ⟨finite, written⟩ := written
  have canonical : Number.ofCanonical n.asF64 = m := Except.ok.inj written
  subst canonical
  generalize n.asF64 = bits at *
  -- what the number written holds is the bits it was written from, but for a negative zero
  have kept : (Number.ofCanonical bits).asF64 = bits ∨
      bits.wholeMagnitude = some 0 ∧ Number.ofCanonical bits = .posInt 0 (by decide) := by
    unfold Number.ofCanonical
    cases whole : bits.wholeMagnitude with
    | none => exact .inl rfl
    | some n =>
        dsimp only
        split
        · rename_i sign
          obtain ⟨negative, nonzero, small⟩ := sign
          have same := ofNat_of_wholeMagnitude (Nat.pos_of_ne_zero nonzero) (by omega) whole
          have high : 2 ^ 63 ≤ bits.toNat := by simpa [isNegative] using negative
          have bound := bits.isLt
          obtain ⟨k, rfl⟩ := Nat.exists_eq_succ_of_ne_zero nonzero
          refine .inl (BitVec.eq_of_toNat_eq ?_)
          show (ofInt (-((k + 1 : Nat) : Int))).toNat = _
          have shape : -((k + 1 : Nat) : Int) = Int.negSucc k := rfl
          rw [shape]
          unfold ofInt
          dsimp only
          rw [BitVec.toNat_ofNat, same]
          omega
        · split
          · rename_i fits
            obtain ⟨sign, small⟩ := fits
            by_cases zero : n = 0
            · subst zero
              exact .inr ⟨rfl, rfl⟩
            · have positive := Nat.pos_of_ne_zero zero
              have same := ofNat_of_wholeMagnitude positive (by omega) whole
              have low : bits.toNat < 2 ^ 63 := by
                rcases sign with low | none
                · simpa [isNegative] using low
                · exact absurd none zero
              refine .inl (BitVec.eq_of_toNat_eq ?_)
              show (ofNat n).toNat = _
              rw [same]
              omega
          · exact .inl rfl
  unfold canonicalNumber
  dsimp only
  rcases kept with same | ⟨_, zero⟩
  · rw [same, require_bind_eq_ok]
    exact ⟨finite, rfl⟩
  · rw [zero]
    rfl

mutual

theorem writeValue_written : (value : Value) → {written : Value} → writeValue value = .ok written →
    writeValue written = .ok written
  | .null, _, done => by cases done; rfl
  | .bool _, _, done => by cases done; rfl
  | .string _, _, done => by cases done; rfl
  | .number n, written, done => by
      rw [writeValue] at done
      obtain ⟨m, number, same⟩ := bind_eq_ok.mp done
      obtain rfl := pure_eq_ok.mp same
      simp only [writeValue, canonicalNumber_canonical number, ok_bind]
      rfl
  | .array items, written, done => by
      rw [writeValue] at done
      obtain ⟨others, each, same⟩ := bind_eq_ok.mp done
      obtain rfl := pure_eq_ok.mp same
      simp only [writeValue, writeItems_written items each, ok_bind]
      rfl
  | .object members, written, done => by
      rw [writeValue] at done
      obtain ⟨others, each, same⟩ := bind_eq_ok.mp done
      obtain rfl := pure_eq_ok.mp same
      simp only [writeValue, writeMembers_written members each, ok_bind]
      rfl

theorem writeItems_written : (items : List Value) → {written : List Value} → writeItems items = .ok written →
    writeItems written = .ok written
  | [], _, done => by cases done; rfl
  | item :: rest, written, done => by
      rw [writeItems] at done
      obtain ⟨first, one, done⟩ := bind_eq_ok.mp done
      obtain ⟨others, each, same⟩ := bind_eq_ok.mp done
      obtain rfl := pure_eq_ok.mp same
      simp only [writeItems, writeValue_written item one, writeItems_written rest each, ok_bind]
      rfl

theorem writeMembers_written : (members : List (String × Value)) → {written : List (String × Value)} →
    writeMembers members = .ok written → writeMembers written = .ok written
  | [], _, done => by cases done; rfl
  | (name, item) :: rest, written, done => by
      rw [writeMembers] at done
      obtain ⟨first, one, done⟩ := bind_eq_ok.mp done
      obtain ⟨others, each, same⟩ := bind_eq_ok.mp done
      obtain rfl := pure_eq_ok.mp same
      simp only [writeMembers, writeValue_written item one, writeMembers_written rest each, ok_bind]
      rfl

end

/-- A member of what was written was written for the member of its name. -/
theorem writeMembers_get {members written : Members} (done : writeMembers members = .ok written) (name : String) :
    (Members.get members name = none ∧ Members.get written name = none) ∨
      ∃ value other, Members.get members name = some value ∧ Members.get written name = some other ∧
        writeValue value = .ok other := by
  induction members generalizing written with
  | nil =>
      cases done
      exact .inl ⟨rfl, rfl⟩
  | cons member rest ih =>
      obtain ⟨key, value⟩ := member
      simp only [writeMembers, bind_eq_ok, pure_eq_ok] at done
      obtain ⟨other, one, others, each, rfl⟩ := done
      by_cases same : key = name
      · subst same
        rw [Members.get_cons_self, Members.get_cons_self]
        exact .inr ⟨value, other, rfl, rfl, one⟩
      · rw [Members.get_cons_of_ne same, Members.get_cons_of_ne same]
        exact ih each

theorem writeMembers_filter {members written : Members} (done : writeMembers members = .ok written) (name : String) :
    writeMembers (members.filter fun member => member.1 != name) =
      .ok (written.filter fun member => member.1 != name) := by
  induction members generalizing written with
  | nil =>
      cases done
      rfl
  | cons member rest ih =>
      obtain ⟨key, value⟩ := member
      simp only [writeMembers, bind_eq_ok, pure_eq_ok] at done
      obtain ⟨other, one, others, each, rfl⟩ := done
      have rest_ := ih each
      by_cases same : key = name
      · rw [List.filter_cons_of_neg (by simp [same]), List.filter_cons_of_neg (by simp [same])]
        exact rest_
      · rw [List.filter_cons_of_pos (by simp [same]), List.filter_cons_of_pos (by simp [same])]
        simp only [writeMembers, one, rest_, ok_bind]
        rfl

/-- How a written value is an object: as what it was written for is. -/
theorem asObject_written {value written : Value} (done : writeValue value = .ok written) :
    (value.asObject = none ∧ written.asObject = none) ∨
      ∃ members others, value.asObject = some members ∧ written.asObject = some others ∧
        writeMembers members = .ok others := by
  cases value with
  | object members =>
      simp only [writeValue, bind_eq_ok, pure_eq_ok] at done
      obtain ⟨others, each, rfl⟩ := done
      exact .inr ⟨members, others, rfl, rfl, each⟩
  | array items =>
      simp only [writeValue, bind_eq_ok, pure_eq_ok] at done
      obtain ⟨others, _, rfl⟩ := done
      exact .inl ⟨rfl, rfl⟩
  | number n =>
      simp only [writeValue, bind_eq_ok, pure_eq_ok] at done
      obtain ⟨m, _, rfl⟩ := done
      exact .inl ⟨rfl, rfl⟩
  | null => cases done; exact .inl ⟨rfl, rfl⟩
  | bool b => cases done; exact .inl ⟨rfl, rfl⟩
  | string s => cases done; exact .inl ⟨rfl, rfl⟩

theorem asStr_written {value written : Value} (done : writeValue value = .ok written) :
    written.asStr = value.asStr := by
  cases value with
  | object members =>
      simp only [writeValue, bind_eq_ok, pure_eq_ok] at done
      obtain ⟨others, _, rfl⟩ := done
      rfl
  | array items =>
      simp only [writeValue, bind_eq_ok, pure_eq_ok] at done
      obtain ⟨others, _, rfl⟩ := done
      rfl
  | number n =>
      simp only [writeValue, bind_eq_ok, pure_eq_ok] at done
      obtain ⟨m, _, rfl⟩ := done
      rfl
  | null => cases done; rfl
  | bool b => cases done; rfl
  | string s => cases done; rfl

theorem getStr_members {members written : Members} (done : writeMembers members = .ok written) (name : String) :
    (Members.get written name).bind Value.asStr = (Members.get members name).bind Value.asStr := by
  rcases writeMembers_get done name with ⟨before, after⟩ | ⟨value, other, before, after, one⟩
  · rw [before, after]
  · rw [before, after, Option.bind_some, Option.bind_some, asStr_written one]

end Jcs

namespace Signed

open Jcs

variable {ext : External} {value written : Value}

theorem get_written (done : writeValue value = .ok written) (name : String) :
    (value.get name = none ∧ written.get name = none) ∨
      ∃ member other, value.get name = some member ∧ written.get name = some other ∧
        writeValue member = .ok other := by
  unfold Value.get
  rcases asObject_written done with ⟨before, after⟩ | ⟨members, others, before, after, each⟩
  · rw [before, after]
    exact .inl ⟨rfl, rfl⟩
  · rw [before, after, Option.bind_some, Option.bind_some]
    exact writeMembers_get each name

theorem getStr_written (done : writeValue value = .ok written) (name : String) :
    written.getStr name = value.getStr name := by
  unfold Value.getStr
  rcases get_written done name with ⟨before, after⟩ | ⟨member, other, before, after, one⟩
  · rw [before, after]
  · rw [before, after, Option.bind_some, Option.bind_some, asStr_written one]

theorem declaredSigner_written (done : writeValue value = .ok written) :
    declaredSigner written = declaredSigner value := by
  unfold declaredSigner
  rcases get_written done "sig" with ⟨before, after⟩ | ⟨sig, other, before, after, one⟩
  · rw [before, after]
  · rw [before, after]
    rcases asObject_written one with ⟨plain, plain'⟩ | ⟨members, others, isObject, isObject', each⟩
    · simp only [okOr, ok_bind, plain, plain']
    · simp only [okOr, ok_bind, isObject, isObject', getStr_members each]

theorem signingInput_written (done : writeValue value = .ok written) :
    signingInput written = signingInput value := by
  unfold signingInput
  rcases asObject_written done with ⟨before, after⟩ | ⟨members, others, before, after, each⟩
  · rw [before, after]
  · have first := writeMembers_filter each "sig"
    have again := writeMembers_written _ first
    simp only [before, after, okOr, ok_bind, canonicalize, writeValue, first, again]

theorem verifySignedObject_written (done : writeValue value = .ok written) :
    verifySignedObject ext written = verifySignedObject ext value := by
  unfold verifySignedObject
  rw [declaredSigner_written done, signingInput_written done]
  rcases get_written done "sig" with ⟨before, after⟩ | ⟨sig, other, before, after, one⟩
  · rw [before, after]
  · rw [before, after, Option.bind_some, Option.bind_some, getStr_written one]

theorem objectId_written (done : writeValue value = .ok written) : objectId ext written = objectId ext value := by
  unfold objectId objectHash canonicalize
  simp only [done, writeValue_written value done, ok_bind]

theorem filter_insert (members : Members) (name : String) (value : Value) :
    (Members.insert members name value).filter (fun member => member.1 != name) =
      members.filter fun member => member.1 != name := by
  unfold Members.insert
  dsimp only
  rw [List.filter_append, List.filter_cons_of_neg (by simp), ← List.filter_append, List.takeWhile_append_dropWhile,
    List.filter_filter]
  simp only [Bool.and_self]

/-- What a key signs verifies as signed by it. -/
theorem verifySignedObject_signObject {key : SigningKey} (signs : key.Signs ext) {object signed : Value}
    (done : signObject key object = .ok signed) : verifySignedObject ext signed = .ok key.id := by
  unfold signObject at done
  simp only [bind_eq_ok, okOr_eq_ok, pure_eq_ok] at done
  obtain ⟨members, isObject, message, canonical, rfl⟩ := done
  generalize isSig : Value.object [("alg", .string "ed25519"), ("key", .string key.id.text),
    ("value", .string (key.sign (.canonical message)))] = sig
  have declares : (Value.object (Members.insert (members.filter fun member => member.1 != "sig") "sig" sig)).get "sig" =
      some sig := by
    show Members.get _ "sig" = some sig
    exact Members.get_insert_self _ _ _
  have input : signingInput (.object (Members.insert (members.filter fun member => member.1 != "sig") "sig" sig)) =
      .ok message := by
    unfold signingInput
    show canonicalize (.object ((Members.insert _ "sig" sig).filter fun member => member.1 != "sig")) = .ok message
    rw [filter_insert, List.filter_filter]
    simp only [Bool.and_self]
    exact canonical
  subst isSig
  have signer : declaredSigner (.object (Members.insert (members.filter fun member => member.1 != "sig") "sig"
      (.object [("alg", .string "ed25519"), ("key", .string key.id.text),
        ("value", .string (key.sign (.canonical message)))]))) = .ok key.id := by
    unfold declaredSigner
    rw [declares]
    simp [Value.asObject, Members.get, Value.asStr, okOr, checkAlg, KeyId.parse_self]
  unfold verifySignedObject
  rw [signer, ok_bind, declares, input]
  simp [Value.getStr, Value.get, Value.asObject, Members.get, Value.asStr, okOr, signs.hex, Except.mapError, signs.verifies,
    require]

end Signed

end Stozher

namespace Stozher.Deployment

/-- One and a half, and a whole number that is kept as a binary64. -/
def halves : Value :=
  .object [("a", .number (.float 0x3ff8000000000000#64)), ("b", .number (.float 0x4340000000000000#64))]

end Stozher.Deployment
