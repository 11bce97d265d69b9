import Mathlib.Algebra.Order.Floor.Semifield
import Mathlib.Data.NNRat.Defs
import Mathlib.Data.Rat.Floor
import Mathlib.Tactic.FieldSimp
import Stozher.DecimalSum
import Stozher.Library.Tally

namespace Stozher.Decimal

open Library Library.Text

/-- A decimal text, with the number it stands for and the digits it has after the point. -/
def Denotes (text : String) (value : ℚ) (scale : Nat) : Prop :=
  ∃ integer fraction, Reads text integer fraction ∧ fraction.length = scale ∧
    (decimalValue (integer ++ fraction) : ℚ) / 10 ^ scale = value

/-- A text the arithmetic accepts. -/
def IsDecimal (text : String) : Prop :=
  ∃ value scale, Denotes text value scale

/-- Whether a sum fits the texts amounts are kept as. -/
def Fits (value : ℚ) (scale : Nat) : Prop :=
  digitCount ⌊value⌋₊ + (if scale = 0 then 0 else scale + 1) ≤ maxLen

theorem Fits.mono {value larger : ℚ} {scale wider : Nat} (fits : Fits larger wider) (le : value ≤ larger)
    (narrow : scale ≤ wider) : Fits value scale := by
  unfold Fits at fits ⊢
  have counts := digitCount_mono (Nat.floor_mono le)
  split <;> split at fits <;> omega

theorem isDecimal_iff {text : String} : IsDecimal text ↔ isOk (parts text) = true := by
  rw [isOk_iff]
  constructor
  · rintro ⟨_, _, integer, fraction, reads, _⟩
    exact ⟨_, reads.read⟩
  · rintro ⟨⟨integer, fraction⟩, read⟩
    exact ⟨_, _, integer, fraction, parts_eq_ok read, rfl, rfl⟩

theorem Denotes.unique {text : String} {value other : ℚ} {scale width : Nat} (one : Denotes text value scale)
    (two : Denotes text other width) : value = other ∧ scale = width := by
  obtain ⟨integer, fraction, reads, rfl, rfl⟩ := one
  obtain ⟨integer', fraction', reads', rfl, rfl⟩ := two
  have same := reads.read.symm.trans reads'.read
  cases same
  exact ⟨rfl, rfl⟩

theorem Denotes.nonneg {text : String} {value : ℚ} {scale : Nat} (denotes : Denotes text value scale) :
    0 ≤ value := by
  obtain ⟨integer, fraction, _, rfl, rfl⟩ := denotes
  positivity

theorem scaled {units scale width : Nat} (narrow : scale ≤ width) :
    ((units * 10 ^ (width - scale) : Nat) : ℚ) / 10 ^ width = (units : ℚ) / 10 ^ scale := by
  have split : (10 : ℚ) ^ width = 10 ^ (width - scale) * 10 ^ scale := by
    rw [← pow_add, Nat.sub_add_cancel narrow]
  rw [split]
  push_cast
  field_simp

/-- The sum of two amounts denotes the sum of their numbers, and there is one exactly when it fits. -/
theorem add_denotes {left right : String} {a b : ℚ} {s t : Nat} (one : Denotes left a s)
    (other : Denotes right b t) :
    (Fits (a + b) (max s t) → ∃ total, add left right = .ok total ∧ Denotes total (a + b) (max s t)) ∧
      (¬ Fits (a + b) (max s t) → ∃ e, add left right = .error e) := by
  obtain ⟨leftInt, leftFrac, leftReads, rfl, rfl⟩ := one
  obtain ⟨rightInt, rightFrac, rightReads, rfl, rfl⟩ := other
  have spec := add_spec leftReads rightReads
  dsimp only at spec
  have sum : ((sumUnits leftInt leftFrac rightInt rightFrac : Nat) : ℚ) /
      10 ^ max leftFrac.length rightFrac.length =
      (decimalValue (leftInt ++ leftFrac) : ℚ) / 10 ^ leftFrac.length +
        (decimalValue (rightInt ++ rightFrac) : ℚ) / 10 ^ rightFrac.length := by
    unfold sumUnits
    rw [Nat.cast_add, add_div, scaled (le_max_left _ _), scaled (le_max_right _ _)]
  have floor : ⌊(decimalValue (leftInt ++ leftFrac) : ℚ) / 10 ^ leftFrac.length +
      (decimalValue (rightInt ++ rightFrac) : ℚ) / 10 ^ rightFrac.length⌋₊ =
        sumUnits leftInt leftFrac rightInt rightFrac / 10 ^ max leftFrac.length rightFrac.length := by
    rw [← sum]
    have cast : (10 : ℚ) ^ max leftFrac.length rightFrac.length =
        ((10 ^ max leftFrac.length rightFrac.length : Nat) : ℚ) := by push_cast; rfl
    rw [cast, Nat.floor_div_eq_div]
  unfold Fits
  rw [floor]
  constructor
  · intro fits
    obtain ⟨total, integer, fraction, added, reads, units, scale, _⟩ := spec.1 fits
    refine ⟨total, added, integer, fraction, reads, scale, ?_⟩
    rw [units, sum]
  · intro tooLong
    exact spec.2 (Nat.lt_of_not_le tooLong)

theorem add_eq_ok {left right total : String} (added : add left right = .ok total) :
    ∃ a b s t, Denotes left a s ∧ Denotes right b t ∧ Denotes total (a + b) (max s t) ∧
      Fits (a + b) (max s t) := by
  have reads := added
  unfold add at reads
  simp only [bind_eq_ok] at reads
  obtain ⟨⟨leftInt, leftFrac⟩, left, ⟨rightInt, rightFrac⟩, right, _⟩ := reads
  have one : Denotes _ _ _ := ⟨leftInt, leftFrac, parts_eq_ok left, rfl, rfl⟩
  have other : Denotes _ _ _ := ⟨rightInt, rightFrac, parts_eq_ok right, rfl, rfl⟩
  refine ⟨_, _, _, _, one, other, ?_⟩
  have spec := add_denotes one other
  by_cases fits : Fits ((decimalValue (leftInt ++ leftFrac) : ℚ) / 10 ^ leftFrac.length +
      (decimalValue (rightInt ++ rightFrac) : ℚ) / 10 ^ rightFrac.length)
      (max leftFrac.length rightFrac.length)
  · obtain ⟨other, added', denotes⟩ := spec.1 fits
    cases added.symm.trans added'
    exact ⟨denotes, fits⟩
  · obtain ⟨e, refused⟩ := spec.2 fits
    rw [added] at refused
    cases refused

/-- What an amount stands for: a number, and the digits written of it after the point. -/
@[ext]
structure Quantity where
  value : ℚ≥0
  scale : Nat

namespace Quantity

instance : Add Quantity where
  add a b := { value := a.value + b.value, scale := max a.scale b.scale }

instance : Zero Quantity where
  zero := { value := 0, scale := 0 }

theorem add_def (a b : Quantity) : a + b = { value := a.value + b.value, scale := max a.scale b.scale } := rfl

theorem zero_def : (0 : Quantity) = { value := 0, scale := 0 } := rfl

instance : AddCommMonoid Quantity where
  add_assoc a b c := by simp only [add_def, add_assoc, max_assoc]
  zero_add a := by simp only [add_def, zero_def, zero_add, Nat.zero_max]
  add_zero a := by simp only [add_def, zero_def, add_zero, Nat.max_zero]
  add_comm a b := by simp only [add_def, add_comm, max_comm]
  nsmul := nsmulRec

end Quantity

/-- A text an amount is kept as. -/
def Amount (text : String) (quantity : Quantity) : Prop :=
  Denotes text quantity.value quantity.scale

theorem isDecimal_iff_amount {text : String} : IsDecimal text ↔ ∃ quantity, Amount text quantity := by
  constructor
  · intro decimal
    obtain ⟨value, scale, denotes⟩ := decimal
    exact ⟨{ value := ⟨value, denotes.nonneg⟩, scale }, denotes⟩
  · intro amount
    obtain ⟨quantity, denotes⟩ := amount
    exact ⟨_, _, denotes⟩

/-- Adding amounts adds what they stand for, as long as the sum fits. -/
theorem adds : Adds add Amount fun quantity => Fits quantity.value quantity.scale where
  unique := by
    intro text one other isOne isOther
    obtain ⟨value, scale⟩ := isOne.unique isOther
    exact Quantity.ext (NNRat.coe_injective value) scale
  sum := by
    intro left right one other isLeft isRight fits
    exact (add_denotes isLeft isRight).1 fits
  fit := by
    intro left right total one other isLeft isRight added
    by_contra tooLong
    obtain ⟨e, refused⟩ := (add_denotes isLeft isRight).2 tooLong
    rw [added] at refused
    cases refused
  part := by
    intro one other fits
    refine fits.mono ?_ (le_max_left _ _)
    exact_mod_cast le_add_of_nonneg_right other.value.2
  operands := by
    intro left right total added
    obtain ⟨_, _, _, _, isLeft, isRight, _⟩ := add_eq_ok added
    obtain ⟨one, isOne⟩ := isDecimal_iff_amount.mp ⟨_, _, isLeft⟩
    obtain ⟨other, isOther⟩ := isDecimal_iff_amount.mp ⟨_, _, isRight⟩
    exact ⟨one, other, isOne, isOther⟩

end Stozher.Decimal
