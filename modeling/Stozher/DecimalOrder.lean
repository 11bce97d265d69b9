import Stozher.DecimalValue

namespace Stozher.Decimal

open Library Library.Text

/-- Numbers compare by their leading parts first. -/
theorem compare_positional {m x y a b : Nat} (low : a < m) (other : b < m) :
    Ord.compare (x * m + a) (y * m + b) = (Ord.compare x y).then (Ord.compare a b) := by
  rcases Nat.lt_trichotomy x y with less | same | more
  · have scaled := Nat.mul_le_mul_right m (Nat.succ_le_of_lt less)
    rw [Nat.succ_mul] at scaled
    rw [Nat.compare_eq_lt.mpr less, Nat.compare_eq_lt.mpr (by omega)]
    rfl
  · subst same
    rw [Nat.compare_eq_eq.mpr (Eq.refl x)]
    show _ = Ord.compare a b
    rcases Nat.lt_trichotomy a b with less | same | more
    · rw [Nat.compare_eq_lt.mpr less, Nat.compare_eq_lt.mpr (by omega)]
    · rw [Nat.compare_eq_eq.mpr same, Nat.compare_eq_eq.mpr (by omega)]
    · rw [Nat.compare_eq_gt.mpr more, Nat.compare_eq_gt.mpr (by omega)]
  · have scaled := Nat.mul_le_mul_right m (Nat.succ_le_of_lt more)
    rw [Nat.succ_mul] at scaled
    rw [Nat.compare_eq_gt.mpr more, Nat.compare_eq_gt.mpr (by omega)]
    rfl

theorem compare_digit {a b : UInt8} (left : isAsciiDigit a = true) (right : isAsciiDigit b = true) :
    Ord.compare a b = Ord.compare (digitOf a) (digitOf b) := by
  unfold isAsciiDigit at left right
  rw [Bool.and_eq_true, decide_eq_true_iff, decide_eq_true_iff, UInt8.le_iff_toNat_le,
    UInt8.le_iff_toNat_le] at left right
  have lowA : 0x30 ≤ a.toNat := left.1
  have lowB : 0x30 ≤ b.toNat := right.1
  unfold digitOf
  show compareOfLessAndEq a b = compareOfLessAndEq (a.toNat - 0x30) (b.toNat - 0x30)
  unfold compareOfLessAndEq
  have less : a < b ↔ a.toNat - 0x30 < b.toNat - 0x30 := by
    rw [UInt8.lt_iff_toNat_lt]
    omega
  have same : a = b ↔ a.toNat - 0x30 = b.toNat - 0x30 := by
    rw [← UInt8.toNat_inj]
    omega
  simp only [less, same]

/-- The first digits of a side, a missing digit being a zero. -/
def leading (side : List UInt8) (count : Nat) : List UInt8 :=
  (List.range count).map fun i => side.getD i 0x30

theorem leading_eq {side : List UInt8} {count : Nat} (covers : side.length ≤ count) :
    leading side count = side ++ List.replicate (count - side.length) 0x30 := by
  unfold leading
  apply List.ext_getElem
  · rw [List.length_map, List.length_range, List.length_append, List.length_replicate]
    omega
  · intro i _ _
    rw [List.getElem_map, List.getElem_range]
    by_cases within_ : i < side.length
    · rw [List.getElem_append_left within_, List.getD_eq_getElem _ _ within_]
    · rw [List.getElem_append_right (by omega), List.getElem_replicate, List.getD_eq_default _ _ (by omega)]

theorem digit_leading {side : List UInt8} (all : Digits side) (i : Nat) : isAsciiDigit (side.getD i 0x30) = true := by
  by_cases within_ : i < side.length
  · rw [List.getD_eq_getElem _ _ within_]
    exact all _ (List.getElem_mem within_)
  · rw [List.getD_eq_default _ _ (by omega)]
    decide

/-- A comparison from the left is the comparison of what the digits so far stand for. -/
theorem compared {left right : List UInt8} (leftDigits : Digits left) (rightDigits : Digits right) (count : Nat) :
    (List.range count).foldl (fun order i =>
      order.then (Ord.compare (left.getD i 0x30) (right.getD i 0x30))) Ordering.eq =
      Ord.compare (decimalValue (leading left count)) (decimalValue (leading right count)) := by
  induction count with
  | zero => rfl
  | succ count ih =>
      have grow : ∀ side : List UInt8, decimalValue (leading side (count + 1)) =
          decimalValue (leading side count) * 10 + digitOf (side.getD count 0x30) := by
        intro side
        unfold leading
        rw [List.range_succ, List.map_append, List.map_singleton, decimalValue_append, decimalValue_cons]
        simp [decimalValue]
      have digitL := digit_leading leftDigits count
      have digitR := digit_leading rightDigits count
      rw [List.range_succ, List.foldl_append, ih, List.foldl_cons, List.foldl_nil, grow left, grow right,
        compare_positional (digitOf_lt digitL) (digitOf_lt digitR), compare_digit digitL digitR]

theorem decimalValue_leading {side : List UInt8} {count : Nat} (covers : side.length ≤ count) :
    decimalValue (leading side count) = decimalValue side * 10 ^ (count - side.length) := by
  rw [leading_eq covers, decimalValue_append, List.length_replicate, decimalValue_zeros, Nat.add_zero]

theorem compareDigits_eq {left right : List UInt8} (leftDigits : Digits left) (rightDigits : Digits right) :
    compareDigits left right =
      Ord.compare (decimalValue left * 10 ^ (max left.length right.length - left.length))
        (decimalValue right * 10 ^ (max left.length right.length - right.length)) := by
  unfold compareDigits
  rw [compared leftDigits rightDigits, decimalValue_leading (Nat.le_max_left _ _),
    decimalValue_leading (Nat.le_max_right _ _)]

/-- Whole numbers without leading zeros: the longer is the greater. -/
theorem compare_trimmed {left right : List UInt8} (leftDigits : Digits left) (rightDigits : Digits right) :
    (Ord.compare (trim left).length (trim right).length).then (compareDigits (trim left) (trim right)) =
      Ord.compare (decimalValue left) (decimalValue right) := by
  rw [compareDigits_eq (trim_digits leftDigits) (trim_digits rightDigits), decimalValue_trim, decimalValue_trim,
    trim_length leftDigits, trim_length rightDigits]
  rcases Nat.lt_trichotomy (digitCount (decimalValue left)) (digitCount (decimalValue right)) with less | same | more
  · have below : decimalValue left < decimalValue right := by
      by_contra above
      have counts := digitCount_mono (Nat.le_of_not_lt above)
      omega
    rw [Nat.compare_eq_lt.mpr less, Nat.compare_eq_lt.mpr below]
    rfl
  · rw [same, Nat.compare_eq_eq.mpr rfl, Nat.max_self, Nat.sub_self, Nat.pow_zero, Nat.mul_one, Nat.mul_one]
    rfl
  · have above : decimalValue right < decimalValue left := by
      by_contra below
      have counts := digitCount_mono (Nat.le_of_not_lt below)
      omega
    rw [Nat.compare_eq_gt.mpr more, Nat.compare_eq_gt.mpr above]
    rfl

/-- What two decimal texts are, in units of the finer of the two. -/
def units (integer fraction : List UInt8) (width : Nat) : Nat :=
  decimalValue (integer ++ fraction) * 10 ^ (width - fraction.length)

theorem compare_units {left right : String} {leftInt leftFrac rightInt rightFrac : List UInt8}
    (one : Reads left leftInt leftFrac) (other : Reads right rightInt rightFrac) :
    compare left right = .ok (Ord.compare (units leftInt leftFrac (max leftFrac.length rightFrac.length))
      (units rightInt rightFrac (max leftFrac.length rightFrac.length))) := by
  have split : ∀ {integer fraction : List UInt8} {width : Nat}, fraction.length ≤ width →
      units integer fraction width =
        decimalValue integer * 10 ^ width + decimalValue fraction * 10 ^ (width - fraction.length) := by
    intro integer fraction width narrow
    unfold units
    rw [decimalValue_append, Nat.add_mul, Nat.mul_assoc, ← Nat.pow_add, Nat.add_sub_cancel' narrow]
  have small : ∀ {fraction : List UInt8} {width : Nat}, Digits fraction → fraction.length ≤ width →
      decimalValue fraction * 10 ^ (width - fraction.length) < 10 ^ width := by
    intro fraction width all narrow
    have scaled := Nat.mul_lt_mul_of_pos_right (decimalValue_lt all)
      (Nat.pow_pos (n := width - fraction.length) (show 0 < 10 by decide))
    rwa [← Nat.pow_add, Nat.add_sub_cancel' narrow] at scaled
  rw [split (Nat.le_max_left _ _), split (Nat.le_max_right _ _),
    compare_positional (small one.fractions (Nat.le_max_left _ _)) (small other.fractions (Nat.le_max_right _ _))]
  unfold compare
  rw [one.read, ok_bind]
  dsimp only
  rw [other.read, ok_bind]
  dsimp only
  rw [compare_trimmed one.integers other.integers, compareDigits_eq one.fractions other.fractions]
  cases whole : Ord.compare (decimalValue leftInt) (decimalValue rightInt) <;> rfl

/-- The comparison of decimal texts is that of the numbers they stand for. -/
theorem atMost_denotes {left right : String} {a b : ℚ} {s t : Nat} (one : Denotes left a s)
    (other : Denotes right b t) : atMost left right = .ok (decide (a ≤ b)) := by
  obtain ⟨leftInt, leftFrac, leftReads, rfl, rfl⟩ := one
  obtain ⟨rightInt, rightFrac, rightReads, rfl, rfl⟩ := other
  unfold atMost
  rw [compare_units leftReads rightReads, ok_bind]
  have widen : ∀ {integer fraction : List UInt8} {width : Nat}, fraction.length ≤ width →
      (decimalValue (integer ++ fraction) : ℚ) / 10 ^ fraction.length = (units integer fraction width : ℚ) / 10 ^ width := by
    intro integer fraction width narrow
    exact (scaled narrow).symm
  rw [@widen _ _ (max leftFrac.length rightFrac.length) (Nat.le_max_left _ _),
    @widen _ _ (max leftFrac.length rightFrac.length) (Nat.le_max_right _ _)]
  generalize units leftInt leftFrac _ = x
  generalize units rightInt rightFrac _ = y
  have positive : (0 : ℚ) < 10 ^ max leftFrac.length rightFrac.length := by positivity
  have order : ((x : ℚ) / 10 ^ max leftFrac.length rightFrac.length ≤
      (y : ℚ) / 10 ^ max leftFrac.length rightFrac.length) ↔ x ≤ y := by
    rw [div_le_div_iff_of_pos_right positive, Nat.cast_le]
  show Except.ok _ = Except.ok _
  congr 1
  rw [Bool.eq_iff_iff, decide_eq_true_iff, order, bne_iff_ne, Ne, Nat.compare_eq_gt, Nat.not_lt]

theorem atMost_eq_ok {left right : String} {within_ : Bool} (compared : atMost left right = .ok within_) :
    ∃ a b s t, Denotes left a s ∧ Denotes right b t ∧ within_ = decide (a ≤ b) := by
  have reads := compared
  unfold atMost compare at reads
  simp only [bind_eq_ok] at reads
  obtain ⟨_, ⟨⟨leftInt, leftFrac⟩, readLeft, ⟨rightInt, rightFrac⟩, readRight, _⟩, _⟩ := reads
  have one : Denotes left _ _ := ⟨leftInt, leftFrac, parts_eq_ok readLeft, rfl, rfl⟩
  have other : Denotes right _ _ := ⟨rightInt, rightFrac, parts_eq_ok readRight, rfl, rfl⟩
  refine ⟨_, _, _, _, one, other, ?_⟩
  exact Except.ok.inj (compared.symm.trans (atMost_denotes one other))

theorem atMost_trans {low middle high : String} (first : atMost low middle = .ok true)
    (second : atMost middle high = .ok true) : atMost low high = .ok true := by
  obtain ⟨a, b, s, t, lowIs, middleIs, below⟩ := atMost_eq_ok first
  obtain ⟨b', c, t', u, middleIs', highIs, above⟩ := atMost_eq_ok second
  obtain ⟨same, _⟩ := middleIs.unique middleIs'
  have lower : a ≤ b := of_decide_eq_true below.symm
  have upper : b' ≤ c := of_decide_eq_true above.symm
  rw [atMost_denotes lowIs highIs, decide_eq_true (lower.trans (same ▸ upper))]

end Stozher.Decimal
