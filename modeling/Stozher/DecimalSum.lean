import Mathlib.Data.List.GetD
import Mathlib.Data.List.TakeWhile
import Stozher.Decimal
import Stozher.Library.Digits

namespace Stozher.Decimal

open Library Library.Text

/-- The units and the scale a decimal text is read as. -/
structure Reads (text : String) (integer fraction : List UInt8) : Prop where
  read : parts text = .ok (integer, fraction)
  nonempty : integer ≠ []
  integers : Digits integer
  fractions : Digits fraction
  size : text.utf8ByteSize ≤ maxLen

theorem not_dot_of_digits {digits : List UInt8} (all : Digits digits) : ∀ b ∈ digits, (b != 0x2e) = true := by
  intro b member
  rw [bne_iff_ne]
  rintro rfl
  exact absurd (all _ member) (by decide)

theorem digits_iff {part : List UInt8} :
    (!part.isEmpty && part.all isAsciiDigit) = true ↔ part ≠ [] ∧ Digits part := by
  unfold Digits
  rw [Bool.and_eq_true, List.all_eq_true, Bool.not_eq_true', List.isEmpty_eq_false_iff]

theorem parts_eq_ok {text : String} {integer fraction : List UInt8}
    (read : parts text = .ok (integer, fraction)) : Reads text integer fraction := by
  have read' := read
  unfold parts at read'
  simp only [bind_eq_ok, require_eq_ok, pure_eq_ok, digits_iff, Prod.mk.injEq] at read'
  obtain ⟨_, ⟨_, size⟩, _, ⟨⟨nonempty, integers⟩, dotted⟩, rfl, rfl⟩ := read'
  refine ⟨read, nonempty, integers, ?_, size⟩
  intro b member
  by_cases dot : (octets text).contains 0x2e = true
  · exact (dotted dot).2 b member
  · have none : (octets text).dropWhile (· != 0x2e) = [] := by
      rw [List.dropWhile_eq_nil_iff]
      intro other inside
      rw [bne_iff_ne]
      rintro rfl
      exact dot (List.contains_iff_mem.mpr inside)
    rw [none] at member
    cases member

/-- What a text of digits, or of digits around a point, is read as. -/
theorem parts_of_octets {text : String} {integer fraction : List UInt8} (nonempty : integer ≠ [])
    (integers : Digits integer) (fractions : Digits fraction) (size : text.utf8ByteSize ≤ maxLen)
    (spelled : octets text = if fraction = [] then integer else integer ++ 0x2e :: fraction) :
    parts text = .ok (integer, fraction) := by
  have length : text.utf8ByteSize = (octets text).length := by simp [octets]
  have some_ : text.utf8ByteSize ≠ 0 := by
    rw [length, spelled]
    intro zero
    split at zero
    · exact nonempty (List.length_eq_zero_iff.mp zero)
    · simp at zero
  have plain := not_dot_of_digits integers
  unfold parts
  simp only [bind_eq_ok, require_eq_ok, pure_eq_ok, digits_iff]
  refine ⟨(), ⟨some_, size⟩, (), ?_, ?_⟩
  all_goals rw [spelled]
  · by_cases whole : fraction = []
    · rw [if_pos whole, List.takeWhile_eq_self_iff.mpr plain]
      refine ⟨⟨nonempty, integers⟩, fun dot => ?_⟩
      exact absurd (plain _ (List.contains_iff_mem.mp dot)) (by decide)
    · rw [if_neg whole, List.takeWhile_append_of_pos plain, List.dropWhile_append_of_pos plain]
      simp only [List.takeWhile_cons, List.dropWhile_cons]
      simp
      exact ⟨⟨nonempty, integers⟩, whole, fractions⟩
  · by_cases whole : fraction = []
    · rw [if_pos whole, List.takeWhile_eq_self_iff.mpr plain, List.dropWhile_eq_nil_iff.mpr plain, whole]
      rfl
    · rw [if_neg whole, List.takeWhile_append_of_pos plain, List.dropWhile_append_of_pos plain]
      simp

theorem trim_digits {digits : List UInt8} (all : Digits digits) : Digits (trim digits) := by
  unfold trim
  dsimp only
  split
  · intro b member
    rw [List.mem_singleton.mp member]
    decide
  · intro b member
    exact all b ((List.dropWhile_sublist _).subset member)

theorem decimalValue_trim (digits : List UInt8) : decimalValue (trim digits) = decimalValue digits := by
  have dropped : decimalValue (digits.dropWhile (· == 0x30)) = decimalValue digits := by
    induction digits with
    | nil => rfl
    | cons b rest ih =>
        rw [List.dropWhile_cons]
        split
        · rename_i zero
          rw [ih, decimalValue_cons, eq_of_beq zero]
          simp [digitOf]
        · rfl
  unfold trim
  dsimp only
  split
  · rename_i empty
    rw [List.isEmpty_iff.mp empty] at dropped
    rw [← dropped]
    rfl
  · exact dropped

theorem trim_length {digits : List UInt8} (all : Digits digits) :
    (trim digits).length = digitCount (decimalValue digits) := by
  have whole := decimalValue_trim digits
  have trimmed := trim_digits all
  unfold trim at whole trimmed ⊢
  dsimp only at whole trimmed ⊢
  split at whole
  · rename_i empty
    rw [if_pos empty]
    rw [← whole]
    simp [decimalValue, digitCount]
  · rename_i some_
    rw [if_neg some_] at trimmed ⊢
    cases kept : digits.dropWhile (· == 0x30) with
    | nil =>
        rw [kept] at some_
        exact absurd rfl some_
    | cons first rest =>
        rw [kept] at whole trimmed
        rw [digitCount_eq trimmed rfl ?_, whole]
        have stops := List.head?_dropWhile_not (· == (0x30 : UInt8)) digits
        rw [kept] at stops
        simpa using stops

theorem trim_ne_nil (digits : List UInt8) : trim digits ≠ [] := by
  unfold trim
  dsimp only
  split
  · exact List.cons_ne_nil _ _
  · rename_i some_
    exact fun empty => some_ (List.isEmpty_iff.mpr empty)

/-- What the lowest digits are worth, where a missing digit is a zero. -/
def lowValue (side : List UInt8) : Nat → Nat
  | 0 => 0
  | count + 1 => lowValue side count + digit side count * 10 ^ count

theorem digit_cons_of_lt {b : UInt8} {rest : List UInt8} {i : Nat} (within_ : i < rest.length) :
    digit (b :: rest) i = digit rest i := by
  unfold digit
  rw [List.reverse_cons, List.getD_append _ _ _ _ (by rwa [List.length_reverse])]

theorem digit_cons_length (b : UInt8) (rest : List UInt8) : digit (b :: rest) rest.length = digitOf b := by
  unfold digit digitOf
  rw [List.reverse_cons, List.getD_append_right _ _ _ _ (by rw [List.length_reverse]), List.length_reverse,
    Nat.sub_self]
  rfl

theorem digit_of_length_le {side : List UInt8} {i : Nat} (beyond : side.length ≤ i) : digit side i = 0 := by
  unfold digit
  rw [List.getD_eq_default _ _ (by rwa [List.length_reverse])]
  rfl

theorem digit_lt {side : List UInt8} (all : Digits side) (i : Nat) : digit side i < 10 := by
  by_cases within_ : i < side.length
  · unfold digit
    have inside : i < side.reverse.length := by rwa [List.length_reverse]
    rw [List.getD_eq_getElem _ _ inside]
    exact digitOf_lt (all _ (List.mem_reverse.mp (List.getElem_mem inside)))
  · rw [digit_of_length_le (by omega)]
    decide

theorem lowValue_cons {b : UInt8} {rest : List UInt8} {count : Nat} (within_ : count ≤ rest.length) :
    lowValue (b :: rest) count = lowValue rest count := by
  induction count with
  | zero => rfl
  | succ count ih => rw [lowValue, lowValue, ih (by omega), digit_cons_of_lt (by omega)]

theorem lowValue_length (side : List UInt8) : lowValue side side.length = decimalValue side := by
  induction side with
  | nil => rfl
  | cons b rest ih =>
      rw [List.length_cons, lowValue, lowValue_cons (le_refl _), ih, digit_cons_length, decimalValue_cons]
      omega

theorem lowValue_eq {side : List UInt8} {count : Nat} (covers : side.length ≤ count) :
    lowValue side count = decimalValue side := by
  induction count with
  | zero =>
      rw [List.length_eq_zero_iff.mp (Nat.le_zero.mp covers)]
      rfl
  | succ count ih =>
      by_cases exact_ : side.length = count + 1
      · rw [← exact_, lowValue_length]
      · rw [lowValue, ih (by omega), digit_of_length_le (by omega), Nat.zero_mul, Nat.add_zero]

theorem digitOf_ofNat {d : Nat} (small : d < 10) :
    isAsciiDigit (UInt8.ofNat (0x30 + d)) = true ∧ digitOf (UInt8.ofNat (0x30 + d)) = d := by
  have all : ∀ d < 10, isAsciiDigit (UInt8.ofNat (0x30 + d)) = true ∧ digitOf (UInt8.ofNat (0x30 + d)) = d := by
    decide
  exact all d small

/-- What is known of a sum after its lowest positions. -/
structure Summed (a b : List UInt8) (count : Nat) (acc : List UInt8 × Nat) : Prop where
  digits : Digits acc.1
  length : acc.1.length = count
  carry : acc.2 ≤ 1
  value : decimalValue acc.1 + acc.2 * 10 ^ count = lowValue a count + lowValue b count

theorem Summed.addDigit {a b : List UInt8} (left : Digits a) (right : Digits b) {count : Nat}
    {acc : List UInt8 × Nat} (summed : Summed a b count acc) :
    Summed a b (count + 1) (addDigit a b acc count) := by
  obtain ⟨digits, length, carry, value⟩ := summed
  have one := digit_lt left count
  have other := digit_lt right count
  obtain ⟨isDigit, worth⟩ := digitOf_ofNat (Nat.mod_lt (digit a count + digit b count + acc.2) (by decide : 10 > 0))
  unfold Decimal.addDigit
  constructor
  · intro b' member
    rcases List.mem_cons.mp member with rfl | later
    · exact isDigit
    · exact digits b' later
  · rw [List.length_cons, length]
  · show (digit a count + digit b count + acc.2) / 10 ≤ 1
    omega
  · show decimalValue (_ :: acc.1) + _ = _
    rw [decimalValue_cons, worth, length, lowValue, lowValue, pow_succ]
    have split := Nat.div_add_mod (digit a count + digit b count + acc.2) 10
    have scaled := congrArg (· * 10 ^ count) split
    dsimp only at scaled ⊢
    rw [Nat.add_mul, Nat.add_mul, Nat.add_mul] at scaled
    have shift : (digit a count + digit b count + acc.2) / 10 * (10 ^ count * 10) =
        10 * ((digit a count + digit b count + acc.2) / 10) * 10 ^ count := by ring
    rw [shift]
    omega

theorem summed {a b : List UInt8} (left : Digits a) (right : Digits b) (count : Nat) :
    Summed a b count ((List.range count).foldl (Decimal.addDigit a b) ([], 0)) := by
  induction count with
  | zero =>
      constructor
      · intro b member
        cases member
      · rfl
      · exact Nat.zero_le 1
      · rfl
  | succ count ih =>
      rw [List.range_succ, List.foldl_append]
      exact ih.addDigit left right

/-- Adding digit by digit adds the numbers. -/
theorem addDigits_spec {a b : List UInt8} (left : Digits a) (right : Digits b) :
    Digits (addDigits a b) ∧ decimalValue (addDigits a b) = decimalValue a + decimalValue b ∧
      max a.length b.length ≤ (addDigits a b).length := by
  have sums := summed left right (max a.length b.length)
  have total := sums.value
  rw [lowValue_eq (le_max_left _ _), lowValue_eq (le_max_right _ _)] at total
  unfold addDigits
  dsimp only
  split
  · rename_i carried
    have one : ((List.range (max a.length b.length)).foldl (addDigit a b) ([], 0)).2 = 1 := by
      have := sums.carry
      omega
    obtain ⟨isDigit, worth⟩ := digitOf_ofNat (by decide : 1 < 10)
    rw [one] at total ⊢
    refine ⟨?_, ?_, ?_⟩
    · intro b' member
      rcases List.mem_cons.mp member with rfl | later
      · exact isDigit
      · exact sums.digits b' later
    · rw [decimalValue_cons, worth, sums.length]
      omega
    · rw [List.length_cons, sums.length]
      omega
  · rename_i none
    have zero : ((List.range (max a.length b.length)).foldl (addDigit a b) ([], 0)).2 = 0 := by omega
    rw [zero] at total
    refine ⟨sums.digits, by omega, ?_⟩
    rw [sums.length]

theorem octets_ofDigits {bytes : List UInt8} (ascii : ∀ b ∈ bytes, b.toNat < 128) :
    octets (ofDigits bytes) = bytes := by
  unfold ofDigits octets
  rw [String.toByteArray_ofList]
  unfold List.utf8Encode
  rw [flatMap_ascii ascii]
  simp

theorem utf8ByteSize_eq (text : String) : text.utf8ByteSize = (octets text).length := by
  simp [octets]

theorem ascii_of_digits {digits : List UInt8} (all : Digits digits) : ∀ b ∈ digits, b.toNat < 128 := by
  intro b member
  have digit := all b member
  unfold isAsciiDigit at digit
  rw [Bool.and_eq_true, decide_eq_true_iff, decide_eq_true_iff, UInt8.le_iff_toNat_le,
    UInt8.le_iff_toNat_le] at digit
  have upper : b.toNat ≤ 0x39 := digit.2
  omega

/-- The digits around the point, as a text. -/
def render (integer fraction : List UInt8) : List UInt8 :=
  if fraction = [] then integer else integer ++ 0x2e :: fraction

theorem render_length (integer fraction : List UInt8) :
    (render integer fraction).length =
      integer.length + if fraction.length = 0 then 0 else fraction.length + 1 := by
  unfold render
  by_cases whole : fraction = []
  · rw [if_pos whole, whole, List.length_nil, if_pos rfl, Nat.add_zero]
  · rw [if_neg whole, if_neg fun none => whole (List.length_eq_zero_iff.mp none), List.length_append,
      List.length_cons]

theorem render_ascii {integer fraction : List UInt8} (integers : Digits integer) (fractions : Digits fraction) :
    ∀ b ∈ render integer fraction, b.toNat < 128 := by
  intro b member
  unfold render at member
  split at member
  · exact ascii_of_digits integers b member
  · rcases List.mem_append.mp member with front | back
    · exact ascii_of_digits integers b front
    · rcases List.mem_cons.mp back with rfl | back
      · decide
      · exact ascii_of_digits fractions b back

theorem reads_render {integer fraction : List UInt8} (nonempty : integer ≠ []) (integers : Digits integer)
    (fractions : Digits fraction) (size : (render integer fraction).length ≤ maxLen) :
    Reads (ofDigits (render integer fraction)) integer fraction := by
  have spelled := octets_ofDigits (render_ascii integers fractions)
  have short : (ofDigits (render integer fraction)).utf8ByteSize ≤ maxLen := by
    rw [utf8ByteSize_eq, spelled]
    exact size
  exact parts_eq_ok (parts_of_octets nonempty integers fractions short spelled)

/-- The length of a decimal text, where its integer part has no zeros it could do without. -/
def textLength (units scale : Nat) : Nat :=
  digitCount (units / 10 ^ scale) + if scale = 0 then 0 else scale + 1

/-- The units of two amounts at the wider of their scales. -/
def sumUnits (leftInt leftFrac rightInt rightFrac : List UInt8) : Nat :=
  decimalValue (leftInt ++ leftFrac) * 10 ^ (max leftFrac.length rightFrac.length - leftFrac.length) +
    decimalValue (rightInt ++ rightFrac) * 10 ^ (max leftFrac.length rightFrac.length - rightFrac.length)

/-- Cutting the digits of a sum at its scale. -/
theorem cut_spec {digits : List UInt8} (all : Digits digits) {scale : Nat} (enough : scale ≤ digits.length) :
    let integer := trim (digits.take (digits.length - scale))
    let fraction := digits.drop (digits.length - scale)
    Digits integer ∧ Digits fraction ∧ fraction.length = scale ∧
      decimalValue (integer ++ fraction) = decimalValue digits ∧
      integer.length = digitCount (decimalValue digits / 10 ^ scale) := by
  intro integer fraction
  have both := List.take_append_drop (digits.length - scale) digits
  have front : Digits (digits.take (digits.length - scale)) :=
    fun b member => all b (List.mem_of_mem_take member)
  have back : Digits fraction := fun b member => all b (List.mem_of_mem_drop member)
  have length : fraction.length = scale := by
    rw [List.length_drop]
    omega
  have value : decimalValue (digits.take (digits.length - scale)) * 10 ^ scale + decimalValue fraction =
      decimalValue digits := by
    have joined := decimalValue_append (digits.take (digits.length - scale)) fraction
    rw [both, length] at joined
    exact joined.symm
  have small : decimalValue fraction < 10 ^ scale := by
    rw [← length]
    exact decimalValue_lt back
  have whole : decimalValue digits / 10 ^ scale = decimalValue (digits.take (digits.length - scale)) := by
    rw [← value, Nat.mul_comm, Nat.mul_add_div (Nat.pow_pos (by decide)), Nat.div_eq_of_lt small, Nat.add_zero]
  refine ⟨trim_digits front, back, length, ?_, ?_⟩
  · rw [decimalValue_append, decimalValue_trim, length, value]
  · rw [whole]
    exact trim_length front

def paddedTo (scale : Nat) (integer fraction : List UInt8) : List UInt8 :=
  integer ++ fraction ++ List.replicate (scale - fraction.length) 0x30

theorem paddedTo_spec {text : String} {integer fraction : List UInt8} (reads : Reads text integer fraction)
    {scale : Nat} (wide : fraction.length ≤ scale) :
    Digits (paddedTo scale integer fraction) ∧ scale ≤ (paddedTo scale integer fraction).length ∧
      decimalValue (paddedTo scale integer fraction) =
        decimalValue (integer ++ fraction) * 10 ^ (scale - fraction.length) := by
  unfold paddedTo
  refine ⟨digits_append.mpr ⟨digits_append.mpr ⟨reads.integers, reads.fractions⟩, digits_replicate_zero _⟩, ?_, ?_⟩
  · rw [List.length_append, List.length_append, List.length_replicate]
    omega
  · rw [decimalValue_append, decimalValue_zeros, List.length_replicate, Nat.add_zero]

/-- A sum is the sum of the amounts at the wider scale, and there is one exactly when it is short enough. -/
theorem add_spec {left right : String} {leftInt leftFrac rightInt rightFrac : List UInt8}
    (one : Reads left leftInt leftFrac) (other : Reads right rightInt rightFrac) :
    let scale := max leftFrac.length rightFrac.length
    let units := sumUnits leftInt leftFrac rightInt rightFrac
    (textLength units scale ≤ maxLen → ∃ total integer fraction, add left right = .ok total ∧
      Reads total integer fraction ∧ decimalValue (integer ++ fraction) = units ∧ fraction.length = scale ∧
      integer.length = digitCount (units / 10 ^ scale)) ∧
    (maxLen < textLength units scale → ∃ e, add left right = .error e) := by
  intro scale units
  obtain ⟨leftDigits, leftLong, leftValue⟩ := paddedTo_spec one (le_max_left _ _ : leftFrac.length ≤ scale)
  obtain ⟨rightDigits, _, rightValue⟩ := paddedTo_spec other (le_max_right _ _ : rightFrac.length ≤ scale)
  obtain ⟨all, value, long⟩ := addDigits_spec leftDigits rightDigits
  have enough : scale ≤ (addDigits (paddedTo scale leftInt leftFrac) (paddedTo scale rightInt rightFrac)).length :=
    (leftLong.trans (le_max_left _ _)).trans long
  obtain ⟨integers, fractions, length, whole, count⟩ := cut_spec all enough
  rw [leftValue, rightValue] at value
  have isUnits : decimalValue (addDigits (paddedTo scale leftInt leftFrac) (paddedTo scale rightInt rightFrac)) =
      units := value
  rw [isUnits] at whole count
  generalize cutInt : trim (List.take ((addDigits (paddedTo scale leftInt leftFrac)
    (paddedTo scale rightInt rightFrac)).length - scale) (addDigits (paddedTo scale leftInt leftFrac)
      (paddedTo scale rightInt rightFrac))) = integer at integers whole count
  generalize cutFrac : List.drop ((addDigits (paddedTo scale leftInt leftFrac)
    (paddedTo scale rightInt rightFrac)).length - scale) (addDigits (paddedTo scale leftInt leftFrac)
      (paddedTo scale rightInt rightFrac)) = fraction at fractions length whole
  have nonempty : integer ≠ [] := cutInt ▸ trim_ne_nil _
  have spelled : (if scale = 0 then integer else integer ++ 0x2e :: fraction) = render integer fraction := by
    unfold render
    refine if_congr ?_ rfl rfl
    rw [← length, List.length_eq_zero_iff]
  have size : (render integer fraction).length = textLength units scale := by
    rw [render_length, count, length]
    rfl
  have sum : add left right = (do
      require ((render integer fraction).length ≤ maxLen)
        (err "schema-type-mismatch" s!"the sum of {left} and {right} exceeds {maxLen} characters")
      return ofDigits (render integer fraction)) := by
    rw [← spelled, ← cutInt, ← cutFrac]
    unfold add
    rw [one.read, other.read]
    rfl
  rw [sum, size]
  constructor
  · intro short
    refine ⟨ofDigits (render integer fraction), integer, fraction, ?_, ?_, whole, length, count⟩
    · rw [require_bind_eq_ok]
      exact ⟨short, rfl⟩
    · exact reads_render nonempty integers fractions (size ▸ short)
  · intro tooLong
    unfold require
    rw [if_neg (by omega)]
    exact ⟨_, rfl⟩

end Stozher.Decimal
