import Mathlib.Algebra.Ring.Int.Defs
import Mathlib.Data.Nat.Log
import Mathlib.Tactic.Ring
import Stozher.Library.Text

namespace Stozher.Library.Text

theorem toDigits_bounds {n : Nat} {c : Char} (member : c ∈ Nat.toDigits 10 n) : '0' ≤ c ∧ c ≤ '9' := by
  have digit := Nat.isDigit_of_mem_toDigits (by decide) (by decide) member
  unfold Char.isDigit at digit
  rw [Bool.and_eq_true, decide_eq_true_iff, decide_eq_true_iff] at digit
  exact digit

/-- Only ASCII digits. -/
def Digits (text : List UInt8) : Prop :=
  ∀ b ∈ text, isAsciiDigit b = true

def digitOf (b : UInt8) : Nat :=
  b.toNat - 0x30

theorem digitOf_lt {b : UInt8} (digit : isAsciiDigit b = true) : digitOf b < 10 := by
  unfold isAsciiDigit at digit
  rw [Bool.and_eq_true, decide_eq_true_iff, decide_eq_true_iff, UInt8.le_iff_toNat_le,
    UInt8.le_iff_toNat_le] at digit
  have upper : b.toNat ≤ 0x39 := digit.2
  unfold digitOf
  omega

theorem digits_append {first second : List UInt8} :
    Digits (first ++ second) ↔ Digits first ∧ Digits second := by
  unfold Digits
  simp only [List.mem_append, or_imp, forall_and]

theorem digits_replicate_zero (n : Nat) : Digits (List.replicate n 0x30) := by
  intro b member
  rw [List.eq_of_mem_replicate member]
  decide

theorem decimalValue_append (first second : List UInt8) :
    decimalValue (first ++ second) = decimalValue first * 10 ^ second.length + decimalValue second := by
  have shifted : ∀ (digits : List UInt8) (start : Nat),
      digits.foldl (fun value b => value * 10 + (b.toNat - 0x30)) start =
        start * 10 ^ digits.length + digits.foldl (fun value b => value * 10 + (b.toNat - 0x30)) 0 := by
    intro digits
    induction digits with
    | nil => simp
    | cons b rest ih =>
        intro start
        rw [List.foldl_cons, List.foldl_cons, ih, ih (0 * 10 + (b.toNat - 0x30)), List.length_cons, pow_succ]
        ring
  unfold decimalValue
  rw [List.foldl_append, shifted]

theorem decimalValue_cons (b : UInt8) (rest : List UInt8) :
    decimalValue (b :: rest) = digitOf b * 10 ^ rest.length + decimalValue rest := by
  have split := decimalValue_append [b] rest
  rw [List.singleton_append] at split
  rw [split]
  simp [decimalValue, digitOf]

theorem decimalValue_lt {digits : List UInt8} (all : Digits digits) :
    decimalValue digits < 10 ^ digits.length := by
  induction digits with
  | nil => simp [decimalValue]
  | cons b rest ih =>
      have first := digitOf_lt (all b List.mem_cons_self)
      have others := ih fun other member => all other (List.mem_cons_of_mem _ member)
      rw [decimalValue_cons, List.length_cons, pow_succ]
      have bounded := Nat.mul_le_mul_right (10 ^ rest.length) (Nat.le_of_lt_succ first)
      omega

theorem decimalValue_zeros (n : Nat) : decimalValue (List.replicate n 0x30) = 0 := by
  induction n with
  | zero => rfl
  | succ n ih =>
      rw [List.replicate_succ, decimalValue_cons, ih]
      simp [digitOf]

/-- How many digits a number is written with, where none of them leads in vain. -/
def digitCount (n : Nat) : Nat :=
  Nat.log 10 n + 1

theorem digitCount_mono {m n : Nat} (le : m ≤ n) : digitCount m ≤ digitCount n :=
  Nat.succ_le_succ (Nat.log_mono_right le)

theorem digitCount_eq {digits : List UInt8} {first : UInt8} {rest : List UInt8} (all : Digits digits)
    (split : digits = first :: rest) (nonzero : first ≠ 0x30) :
    digits.length = digitCount (decimalValue digits) := by
  subst split
  have upper := decimalValue_lt all
  have digit := all first List.mem_cons_self
  have positive : 1 ≤ digitOf first := by
    unfold isAsciiDigit at digit
    rw [Bool.and_eq_true, decide_eq_true_iff, UInt8.le_iff_toNat_le] at digit
    have lower : 0x30 ≤ first.toNat := digit.1
    have other : first.toNat ≠ 0x30 := fun same => nonzero (UInt8.toNat_inj.mp same)
    unfold digitOf
    omega
  have lower : 10 ^ rest.length ≤ decimalValue (first :: rest) := by
    rw [decimalValue_cons]
    have scaled := Nat.mul_le_mul_right (10 ^ rest.length) positive
    omega
  unfold digitCount
  rw [List.length_cons] at upper ⊢
  rw [Nat.log_eq_of_pow_le_of_lt_pow lower upper]

end Stozher.Library.Text
