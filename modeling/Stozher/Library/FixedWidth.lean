import Mathlib.Data.List.Induction
import Stozher.Library.Digits

namespace Stozher.Library.Text

/-- The lowest decimal digits of a number, most significant first. -/
def fixedDigits : Nat → Nat → List Char
  | 0, _ => []
  | width + 1, n => fixedDigits width (n / 10) ++ [Nat.digitChar (n % 10)]

variable {width m n : Nat}

@[simp]
theorem length_fixedDigits : (fixedDigits width n).length = width := by
  induction width generalizing n with
  | zero => rfl
  | succ width ih =>
      unfold fixedDigits
      rw [List.length_append, ih, List.length_singleton]

theorem fixedDigits_zero : fixedDigits width 0 = List.replicate width '0' := by
  induction width with
  | zero => rfl
  | succ width ih =>
      unfold fixedDigits
      rw [Nat.zero_div, ih, List.replicate_succ']
      rfl

/-- The digits of a number that fits, after the zeros that make up its width. -/
theorem padded_toDigits (fits : n < 10 ^ (width + 1)) :
    (Nat.toDigits 10 n).length ≤ width + 1 ∧
      List.replicate (width + 1 - (Nat.toDigits 10 n).length) '0' ++ Nat.toDigits 10 n = fixedDigits (width + 1) n := by
  induction width generalizing n with
  | zero =>
      have small : n < 10 := by simpa using fits
      rw [Nat.toDigits_of_lt_base small]
      unfold fixedDigits
      rw [Nat.mod_eq_of_lt small]
      exact ⟨by simp, rfl⟩
  | succ width ih =>
      by_cases small : n < 10
      · rw [Nat.toDigits_of_lt_base small]
        unfold fixedDigits
        rw [Nat.mod_eq_of_lt small, Nat.div_eq_of_lt small, fixedDigits_zero]
        exact ⟨by simp, rfl⟩
      · have fewer : n / 10 < 10 ^ (width + 1) := by
          rw [Nat.div_lt_iff_lt_mul (by decide), ← Nat.pow_succ]
          exact fits
        obtain ⟨short, whole⟩ := ih fewer
        have split : Nat.toDigits 10 n = Nat.toDigits 10 (n / 10) ++ [Nat.digitChar (n % 10)] := by
          rw [Nat.toDigits_eq_if (by decide), if_neg small]
        rw [split, List.length_append, List.length_singleton]
        constructor
        · omega
        · rw [← List.append_assoc, show width + 1 + 1 - ((Nat.toDigits 10 (n / 10)).length + 1) =
            width + 1 - (Nat.toDigits 10 (n / 10)).length by omega, whole]
          rfl

theorem digitChar_lt (less : m < n) (digit : n < 10) : Nat.digitChar m < Nat.digitChar n := by
  have digits : ∀ n < 10, ∀ m < n, Nat.digitChar m < Nat.digitChar n := by decide
  exact digits n digit m less

/-- Texts compare by a first part of the same length, and then by the rest. -/
theorem append_lt_append {first second rest others : List Char} (same : first.length = second.length)
    (less : first < second ∨ first = second ∧ rest < others) : first ++ rest < second ++ others := by
  induction first generalizing second with
  | nil =>
      obtain rfl := List.length_eq_zero_iff.mp same.symm
      rcases less with none | ⟨_, less⟩
      · exact absurd none (List.lt_irrefl _)
      · exact less
  | cons c tail ih =>
      cases second with
      | nil => cases same
      | cons d more =>
          have sizes : tail.length = more.length := Nat.succ.inj same
          rw [List.cons_append, List.cons_append, List.cons_lt_cons_iff]
          rcases less with less | ⟨equal, less⟩
          · rcases List.cons_lt_cons_iff.mp less with first | ⟨head, tails⟩
            · exact .inl first
            · exact .inr ⟨head, ih sizes (.inl tails)⟩
          · cases equal
            exact .inr ⟨rfl, ih rfl (.inr ⟨rfl, less⟩)⟩

theorem fixedDigits_lt (less : m < n) (fits : n < 10 ^ width) : fixedDigits width m < fixedDigits width n := by
  induction width generalizing m n with
  | zero =>
      rw [Nat.pow_zero] at fits
      omega
  | succ width ih =>
      unfold fixedDigits
      apply append_lt_append (by simp)
      rcases Nat.lt_or_ge (m / 10) (n / 10) with fewer | tens
      · refine .inl (ih fewer ?_)
        rw [Nat.div_lt_iff_lt_mul (by decide), ← Nat.pow_succ]
        exact fits
      · have same : m / 10 = n / 10 := by omega
        have last : Nat.digitChar (m % 10) < Nat.digitChar (n % 10) := digitChar_lt (by omega) (by omega)
        rw [same]
        exact .inr ⟨rfl, List.cons_lt_cons_iff.mpr (.inl last)⟩

/-- The same digits as octets. -/
def fixedOctets : Nat → Nat → List UInt8
  | 0, _ => []
  | width + 1, n => fixedOctets width (n / 10) ++ [UInt8.ofNat (0x30 + n % 10)]

@[simp]
theorem length_fixedOctets : (fixedOctets width n).length = width := by
  induction width generalizing n with
  | zero => rfl
  | succ width ih =>
      unfold fixedOctets
      rw [List.length_append, ih, List.length_singleton]

theorem digitOctet_spec : ∀ {digit : Nat}, digit < 10 → String.utf8EncodeChar (Nat.digitChar digit) =
    [UInt8.ofNat (0x30 + digit)] ∧ isAsciiDigit (UInt8.ofNat (0x30 + digit)) = true ∧
      digitOf (UInt8.ofNat (0x30 + digit)) = digit := by
  decide

theorem digits_fixedOctets : Digits (fixedOctets width n) := by
  induction width generalizing n with
  | zero => exact fun b member => absurd member List.not_mem_nil
  | succ width ih =>
      unfold fixedOctets
      rw [digits_append]
      refine ⟨ih, fun b member => ?_⟩
      rw [List.mem_singleton] at member
      rw [member]
      exact (digitOctet_spec (Nat.mod_lt n (by decide))).2.1

theorem decimalValue_fixedOctets (fits : n < 10 ^ width) : decimalValue (fixedOctets width n) = n := by
  induction width generalizing n with
  | zero =>
      rw [Nat.pow_zero] at fits
      rw [Nat.lt_one_iff.mp fits]
      rfl
  | succ width ih =>
      have fewer : n / 10 < 10 ^ width := by
        rw [Nat.div_lt_iff_lt_mul (by decide), ← Nat.pow_succ]
        exact fits
      have last : decimalValue [UInt8.ofNat (0x30 + n % 10)] = n % 10 := by
        rw [decimalValue_cons, (digitOctet_spec (Nat.mod_lt n (by decide))).2.2]
        simp [decimalValue]
      unfold fixedOctets
      rw [decimalValue_append, ih fewer, last, List.length_singleton]
      omega

variable {digits bytes : List UInt8}

theorem ofNat_digitOf {b : UInt8} (digit : isAsciiDigit b = true) : UInt8.ofNat (0x30 + digitOf b) = b := by
  unfold isAsciiDigit at digit
  rw [Bool.and_eq_true, decide_eq_true_iff, decide_eq_true_iff, UInt8.le_iff_toNat_le] at digit
  have lower : 0x30 ≤ b.toNat := digit.1
  unfold digitOf
  rw [Nat.add_sub_cancel' lower, UInt8.ofNat_toNat]

/-- Digits are written again as they were read. -/
theorem fixedOctets_decimalValue (all : Digits digits) : fixedOctets digits.length (decimalValue digits) = digits := by
  induction digits using List.reverseRecOn with
  | nil => rfl
  | append_singleton front b ih =>
      obtain ⟨before, last⟩ := digits_append.mp all
      have digit := last b List.mem_cons_self
      have small := digitOf_lt digit
      have value : decimalValue [b] = digitOf b := by simp [decimalValue, digitOf]
      rw [List.length_append, List.length_singleton, decimalValue_append, value, List.length_singleton, Nat.pow_one]
      unfold fixedOctets
      rw [show (decimalValue front * 10 + digitOf b) / 10 = decimalValue front by omega,
        show (decimalValue front * 10 + digitOf b) % 10 = digitOf b by omega, ih before, ofNat_digitOf digit]

theorem drop_field (bytes : List UInt8) {start stop : Nat} (le : start ≤ stop) :
    bytes.drop start = (bytes.take stop).drop start ++ bytes.drop stop := by
  have split := List.take_append_drop (stop - start) (bytes.drop start)
  rw [List.drop_drop, ← List.drop_take, Nat.add_sub_cancel' le] at split
  exact split.symm

theorem drop_mark {i : Nat} {b : UInt8} (mark : bytes[i]? = some b) : bytes.drop i = b :: bytes.drop (i + 1) := by
  obtain ⟨inside, same⟩ := List.getElem?_eq_some_iff.mp mark
  rw [List.drop_eq_getElem_cons inside, same]

theorem eq_of_octets {first second : String} (same : octets first = octets second) : first = second := by
  apply String.toByteArray_inj.mp
  apply ByteArray.ext
  exact Array.toList_inj.mp same

theorem octets_ofList (chars : List Char) : octets (String.ofList chars) = chars.flatMap String.utf8EncodeChar := by
  unfold octets
  rw [String.toByteArray_ofList]
  unfold List.utf8Encode
  rw [List.data_toByteArray]

theorem octets_fixedDigits : octets (String.ofList (fixedDigits width n)) = fixedOctets width n := by
  rw [octets_ofList]
  induction width generalizing n with
  | zero => rfl
  | succ width ih =>
      unfold fixedDigits fixedOctets
      rw [List.flatMap_append, ih, List.flatMap_singleton, (digitOctet_spec (Nat.mod_lt n (by decide))).1]

/-- The lowest hexadecimal digits of a number, most significant first. -/
def hexChars : Nat → Nat → List Char
  | 0, _ => []
  | width + 1, n => hexChars width (n / 16) ++ [Nat.digitChar (n % 16)]

end Stozher.Library.Text
