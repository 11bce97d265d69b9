import Mathlib.Order.Compare
import Stozher.BudgetAgreement

namespace Stozher

open Library Library.Text

namespace Gateway.Spending

open MandateWalk

/-- `money.compare` -/
def compare (left right : Value) : Result Int := do
  let (a, scaleA) ← parse left
  let (b, scaleB) ← parse right
  let a := a * 10 ^ scaleB
  let b := b * 10 ^ scaleA
  return if a = b then 0 else if a < b then -1 else 1

theorem atMost_eq_compare (left right : Value) :
    atMost left right = (compare left right).bind fun order => .ok (decide (order ≤ 0)) := by
  unfold atMost compare
  cases parse left with
  | error e => rfl
  | ok one =>
      cases parse right with
      | error e => rfl
      | ok other =>
          show Except.ok _ = Except.ok _
          congr 1
          rw [decide_eq_decide]
          split
          · omega
          · split <;> omega

end Gateway.Spending

namespace Decimal

open Gateway.Spending Gateway.MandateWalk

/-- Digits, and more digits after a point where there is one, thirty-two characters in all. -/
def Written (text : String) : Prop :=
  ∃ integer fraction, Spelled text integer fraction

def characterOf (b : UInt8) : Char :=
  Char.ofNat b.toNat

theorem characterOf_digit {b : UInt8} (digit : isAsciiDigit b = true) :
    Gateway.Structure.isDigit (characterOf b) = true := by
  have all : ∀ n < 58, 48 ≤ n → Gateway.Structure.isDigit (Char.ofNat n) = true := by decide
  unfold isAsciiDigit at digit
  rw [Bool.and_eq_true, decide_eq_true_iff, decide_eq_true_iff, UInt8.le_iff_toNat_le,
    UInt8.le_iff_toNat_le] at digit
  exact all b.toNat (Nat.lt_succ_of_le digit.2) digit.1

/-- What is read as an amount is its digits around a point. -/
theorem Reads.octets_eq {text : String} {integer fraction : List UInt8} (reads : Reads text integer fraction) :
    octets text = render integer fraction := by
  have read := reads.read
  unfold parts at read
  simp only [bind_eq_ok, require_eq_ok, pure_eq_ok, digits_iff, Prod.mk.injEq] at read
  obtain ⟨_, _, _, ⟨_, dotted⟩, isInteger, isFraction⟩ := read
  have both := List.takeWhile_append_dropWhile (p := (· != 0x2e)) (l := octets text)
  rw [isInteger] at both
  rw [isFraction] at dotted
  unfold render
  cases rest : (octets text).dropWhile (· != 0x2e) with
  | nil =>
      rw [rest, List.drop_nil] at isFraction
      rw [rest, List.append_nil] at both
      rw [if_pos isFraction.symm, both]
  | cons first others =>
      have dot : first = 0x2e := by
        have stops := List.head?_dropWhile_not (· != 0x2e) (octets text)
        rw [rest] at stops
        simpa using stops
      have isDot : (octets text).contains 0x2e = true := by
        rw [List.contains_iff_mem, ← both, rest, dot]
        exact List.mem_append_right _ List.mem_cons_self
      rw [rest, List.drop_one, List.tail_cons] at isFraction
      rw [if_neg (dotted isDot).1, ← both, rest, dot, isFraction]

/-- What the kernel reads is written as an amount. -/
theorem Reads.written {text : String} {integer fraction : List UInt8} (reads : Reads text integer fraction) :
    Written text := by
  have ascii := render_ascii reads.integers reads.fractions
  have same : text = ofDigits (render integer fraction) :=
    eq_of_octets (reads.octets_eq.trans (octets_ofDigits ascii).symm)
  have characters : ∀ {digits : List UInt8}, Digits digits →
      ∀ c ∈ digits.map characterOf, Gateway.Structure.isDigit c = true := by
    intro digits all c member
    obtain ⟨b, held, rfl⟩ := List.mem_map.mp member
    exact characterOf_digit (all b held)
  have toList : text.toList = (render integer fraction).map characterOf := by
    rw [same]
    exact String.toList_ofList
  refine ⟨integer.map characterOf, fraction.map characterOf, ?_, ?_, characters reads.integers,
    characters reads.fractions, ?_⟩
  · rw [toList]
    unfold render
    by_cases whole : fraction = []
    · rw [whole]
      exact (List.append_nil _).symm
    · rw [if_neg whole, if_neg fun none => whole (List.map_eq_nil_iff.mp none), List.map_append, List.map_cons]
      rfl
  · exact fun none => reads.nonempty (List.map_eq_nil_iff.mp none)
  · rw [toList, List.length_map, ← reads.octets_eq, ← utf8ByteSize_eq]
    exact reads.size

theorem isDecimal_iff_written {text : String} : IsDecimal text ↔ Written text := by
  constructor
  · rintro ⟨_, _, integer, fraction, reads, _⟩
    exact reads.written
  · rintro ⟨integer, fraction, spelled⟩
    exact ⟨_, _, _, _, spelled.reads, rfl, rfl⟩

/-- A text is determined by what it is read as. -/
theorem Reads.unique {text other : String} {integer fraction integer' fraction' : List UInt8}
    (one : Reads text integer fraction) (two : Reads other integer' fraction')
    (value : decimalValue (integer ++ fraction) = decimalValue (integer' ++ fraction'))
    (scale : fraction.length = fraction'.length) (size : integer.length = integer'.length) : text = other := by
  have lengths : (integer ++ fraction).length = (integer' ++ fraction').length := by
    rw [List.length_append, List.length_append, scale, size]
  have same : integer ++ fraction = integer' ++ fraction' := by
    rw [← fixedOctets_decimalValue (digits_append.mpr ⟨one.integers, one.fractions⟩), lengths, value,
      fixedOctets_decimalValue (digits_append.mpr ⟨two.integers, two.fractions⟩)]
  obtain ⟨integers, fractions⟩ := List.append_inj same size
  apply eq_of_octets
  rw [one.octets_eq, two.octets_eq, integers, fractions]

/-- The text of an amount at a scale, where it is short enough. -/
def textOf (value : ℚ) (scale : Nat) : Option String :=
  if digitCount ⌊value⌋₊ + (if scale = 0 then 0 else scale + 1) ≤ maxLen then
    some (rendered ⌊value * 10 ^ scale⌋₊ scale)
  else none

theorem textOf_units (units scale : Nat) : textOf ((units : ℚ) / 10 ^ scale) scale =
    if textLength units scale ≤ maxLen then some (rendered units scale) else none := by
  have positive : (10 : ℚ) ^ scale ≠ 0 := by positivity
  have cast : (10 : ℚ) ^ scale = ((10 ^ scale : Nat) : ℚ) := by
    push_cast
    rfl
  unfold textOf textLength
  rw [div_mul_cancel₀ _ positive, Nat.floor_natCast, cast, Nat.floor_div_eq_div]

theorem textOf_eq_none {value : ℚ} {scale : Nat} : textOf value scale = none ↔ ¬Fits value scale := by
  unfold textOf Fits
  split <;> simp_all

theorem reads_rendered {units scale : Nat} (short : textLength units scale ≤ maxLen) : ∃ integer fraction,
    Reads (rendered units scale) integer fraction ∧ decimalValue (integer ++ fraction) = units ∧
      fraction.length = scale ∧ integer.length = digitCount (units / 10 ^ scale) := by
  rw [← rendered_length] at short
  have spelled := spelled_rendered short
  refine ⟨_, _, spelled.reads, ?_, ?_, ?_⟩
  · rw [spelled.value, number_rendered]
  · rw [List.length_map, length_fixedDigits]
  · rw [List.length_map, length_toDigits]

theorem sumUnits_div {leftInt leftFrac rightInt rightFrac : List UInt8} :
    ((sumUnits leftInt leftFrac rightInt rightFrac : Nat) : ℚ) / 10 ^ max leftFrac.length rightFrac.length =
      (decimalValue (leftInt ++ leftFrac) : ℚ) / 10 ^ leftFrac.length +
        (decimalValue (rightInt ++ rightFrac) : ℚ) / 10 ^ rightFrac.length := by
  unfold sumUnits
  rw [Nat.cast_add, add_div, scaled (le_max_left _ _), scaled (le_max_right _ _)]

/-- The sum of two amounts is the text of the sum of their numbers at the wider of their scales. -/
theorem add_toOption {left right : String} {a b : ℚ} {s t : Nat} (one : Denotes left a s) (other : Denotes right b t) :
    (add left right).toOption = textOf (a + b) (max s t) := by
  obtain ⟨leftInt, leftFrac, leftReads, rfl, rfl⟩ := one
  obtain ⟨rightInt, rightFrac, rightReads, rfl, rfl⟩ := other
  obtain ⟨sums, refuses⟩ := add_spec leftReads rightReads
  rw [← sumUnits_div, textOf_units]
  by_cases short : textLength (sumUnits leftInt leftFrac rightInt rightFrac)
      (max leftFrac.length rightFrac.length) ≤ maxLen
  · obtain ⟨total, integer, fraction, added, reads, units, scale, size⟩ := sums short
    obtain ⟨integer', fraction', reads', units', scale', size'⟩ := reads_rendered short
    rw [if_pos short, added, reads.unique reads' (units.trans units'.symm) (scale.trans scale'.symm)
      (size.trans size'.symm)]
    rfl
  · obtain ⟨e, refused⟩ := refuses (Nat.lt_of_not_le short)
    rw [if_neg short, refused]
    rfl

theorem add_none {left right : String} (other : ¬(Written left ∧ Written right)) : (add left right).toOption = none := by
  cases added : add left right with
  | error e => rfl
  | ok total =>
      obtain ⟨a, b, s, t, isLeft, isRight, _⟩ := add_eq_ok added
      exact absurd ⟨isDecimal_iff_written.mp ⟨a, s, isLeft⟩, isDecimal_iff_written.mp ⟨b, t, isRight⟩⟩ other

/-- The comparison of decimal texts is that of the numbers they stand for. -/
theorem compare_denotes {left right : String} {a b : ℚ} {s t : Nat} (one : Denotes left a s)
    (other : Denotes right b t) : compare left right = .ok (cmp a b) := by
  obtain ⟨leftInt, leftFrac, leftReads, rfl, rfl⟩ := one
  obtain ⟨rightInt, rightFrac, rightReads, rfl, rfl⟩ := other
  rw [compare_units leftReads rightReads]
  have positive : (0 : ℚ) < 10 ^ max leftFrac.length rightFrac.length := by positivity
  have widen : ∀ {integer fraction : List UInt8}, fraction.length ≤ max leftFrac.length rightFrac.length →
      (decimalValue (integer ++ fraction) : ℚ) / 10 ^ fraction.length =
        (units integer fraction (max leftFrac.length rightFrac.length) : ℚ) /
          10 ^ max leftFrac.length rightFrac.length := fun narrow => (scaled narrow).symm
  rw [widen (Nat.le_max_left _ _), widen (Nat.le_max_right _ _), ← cmp_eq_compare]
  congr 1
  generalize units leftInt leftFrac _ = x
  generalize units rightInt rightFrac _ = y
  rcases lt_trichotomy x y with less | same | more
  · rw [(cmp_eq_lt_iff x y).mpr less]
    exact ((cmp_eq_lt_iff _ _).mpr ((div_lt_div_iff_of_pos_right positive).mpr (Nat.cast_lt.mpr less))).symm
  · rw [same, cmp_self_eq_eq, cmp_self_eq_eq]
  · rw [(cmp_eq_gt_iff x y).mpr more]
    exact ((cmp_eq_gt_iff _ _).mpr ((div_lt_div_iff_of_pos_right positive).mpr (Nat.cast_lt.mpr more))).symm

theorem compare_none {left right : String} (other : ¬(Written left ∧ Written right)) :
    (compare left right).toOption = none := by
  cases compared : compare left right with
  | error e => rfl
  | ok order =>
      have same : atMost left right = .ok (order != .gt) := by
        unfold atMost
        rw [compared, ok_bind]
        rfl
      obtain ⟨a, b, s, t, isLeft, isRight, _⟩ := atMost_eq_ok same
      exact absurd ⟨isDecimal_iff_written.mp ⟨a, s, isLeft⟩, isDecimal_iff_written.mp ⟨b, t, isRight⟩⟩ other

/-- A text written as an amount stands for the number its digits and their place make. -/
theorem denotes_of_spelled {text : String} {integer fraction : List Char} (spelled : Spelled text integer fraction) :
    Denotes text ((Gateway.Structure.number (integer ++ fraction) : ℚ) / 10 ^ fraction.length) fraction.length :=
  parse_denotes (parse_of_spelled spelled)

/-- `-1`, `0` or `1` -/
def sign : Ordering → Int
  | .lt => -1
  | .eq => 0
  | .gt => 1

theorem written_of_parse {text : String} {amount : Nat × Nat} (parsed : parse (.string text) = .ok amount) :
    Written text := by
  obtain ⟨integer, fraction, spelled, _⟩ := parse_eq_ok parsed
  exact ⟨integer, fraction, spelled⟩

theorem gateway_add {left right : String} : (Gateway.Spending.add (.string left) (.string right)).toOption =
    (add left right).toOption := by
  by_cases both : Written left ∧ Written right
  · obtain ⟨⟨leftInt, leftFrac, one⟩, rightInt, rightFrac, other⟩ := both
    rw [add_toOption (denotes_of_spelled one) (denotes_of_spelled other), ← scaled (le_max_left _ rightFrac.length),
      ← scaled (le_max_right leftFrac.length rightFrac.length), ← add_div, ← Nat.cast_add, textOf_units, ← rendered_length]
    unfold Gateway.Spending.add
    rw [parse_of_spelled one, ok_bind]
    dsimp only
    rw [parse_of_spelled other, ok_bind]
    dsimp only
    unfold require
    split
    · rename_i short
      exact (if_pos short).symm
    · rename_i long
      exact (if_neg long).symm
  · rw [add_none both]
    cases added : Gateway.Spending.add (.string left) (.string right) with
    | error e => rfl
    | ok result =>
        unfold Gateway.Spending.add at added
        simp only [bind_eq_ok] at added
        obtain ⟨_, one, _, other, _⟩ := added
        exact absurd ⟨written_of_parse one, written_of_parse other⟩ both

theorem gateway_compare {left right : String} : (Gateway.Spending.compare (.string left) (.string right)).toOption =
    (compare left right).toOption.map sign := by
  by_cases both : Written left ∧ Written right
  · obtain ⟨⟨leftInt, leftFrac, one⟩, rightInt, rightFrac, other⟩ := both
    rw [compare_denotes (denotes_of_spelled one) (denotes_of_spelled other)]
    unfold Gateway.Spending.compare
    rw [parse_of_spelled one, ok_bind]
    dsimp only
    rw [parse_of_spelled other, ok_bind]
    dsimp only
    generalize Gateway.Structure.number (leftInt ++ leftFrac) = x
    generalize Gateway.Structure.number (rightInt ++ rightFrac) = y
    have order : ((x : ℚ) / 10 ^ leftFrac.length < (y : ℚ) / 10 ^ rightFrac.length ↔
        x * 10 ^ rightFrac.length < y * 10 ^ leftFrac.length) ∧
        ((y : ℚ) / 10 ^ rightFrac.length < (x : ℚ) / 10 ^ leftFrac.length ↔
          y * 10 ^ leftFrac.length < x * 10 ^ rightFrac.length) := by
      rw [div_lt_div_iff₀ (by positivity) (by positivity), div_lt_div_iff₀ (by positivity) (by positivity)]
      constructor <;> exact_mod_cast Iff.rfl
    rcases lt_trichotomy (x * 10 ^ rightFrac.length) (y * 10 ^ leftFrac.length) with less | same | more
    · rw [if_neg (Nat.ne_of_lt less), if_pos less, (cmp_eq_lt_iff _ _).mpr (order.1.mpr less)]
      rfl
    · have equal : (x : ℚ) / 10 ^ leftFrac.length = (y : ℚ) / 10 ^ rightFrac.length := by
        apply le_antisymm
        · exact not_lt.mp fun more => absurd (order.2.mp more) (by omega)
        · exact not_lt.mp fun less => absurd (order.1.mp less) (by omega)
      rw [if_pos same, equal, cmp_self_eq_eq]
      rfl
    · rw [if_neg (Nat.ne_of_gt more), if_neg (by omega), (cmp_eq_gt_iff _ _).mpr (order.2.mpr more)]
      rfl
  · rw [compare_none both]
    cases compared : Gateway.Spending.compare (.string left) (.string right) with
    | error e => rfl
    | ok result =>
        unfold Gateway.Spending.compare at compared
        simp only [bind_eq_ok] at compared
        obtain ⟨_, one, _, other, _⟩ := compared
        exact absurd ⟨written_of_parse one, written_of_parse other⟩ both

theorem add_swap (left right : String) : (add left right).toOption = (add right left).toOption := by
  by_cases both : Written left ∧ Written right
  · obtain ⟨⟨_, _, one⟩, _, _, other⟩ := both
    rw [add_toOption (denotes_of_spelled one) (denotes_of_spelled other),
      add_toOption (denotes_of_spelled other) (denotes_of_spelled one), add_comm, max_comm]
  · rw [add_none both, add_none fun swapped => both swapped.symm]

theorem denotes_of_added {left right total : String} {a b : ℚ} {s t : Nat} (one : Denotes left a s)
    (other : Denotes right b t) (added : (add left right).toOption = some total) : Denotes total (a + b) (max s t) := by
  obtain ⟨a', b', s', t', one', other', denotes, _⟩ := add_eq_ok (toOption_eq_some.mp added)
  obtain ⟨rfl, rfl⟩ := one.unique one'
  obtain ⟨rfl, rfl⟩ := other.unique other'
  exact denotes

/-- Three amounts come to one text from the left, where they come to any. -/
theorem add_add_toOption {left middle right : String} {a b c : ℚ} {s t u : Nat} (one : Denotes left a s)
    (two : Denotes middle b t) (three : Denotes right c u) :
    (add left middle).toOption.bind (fun sum => (add sum right).toOption) = textOf (a + b + c) (max (max s t) u) := by
  cases added : (add left middle).toOption with
  | some sum => exact add_toOption (denotes_of_added one two added) three
  | none =>
      rw [add_toOption one two, textOf_eq_none] at added
      refine (textOf_eq_none.mpr fun fits => added (fits.mono ?_ (le_max_left _ _))).symm
      exact le_add_of_nonneg_right three.nonneg

theorem add_regroup (left middle right : String) :
    (add left middle).toOption.bind (fun sum => (add sum right).toOption) =
      (add middle right).toOption.bind fun sum => (add left sum).toOption := by
  by_cases all : Written left ∧ Written middle ∧ Written right
  · obtain ⟨⟨_, _, first⟩, ⟨_, _, second⟩, _, _, third⟩ := all
    have one := denotes_of_spelled first
    have two := denotes_of_spelled second
    have three := denotes_of_spelled third
    have swapped : ((add middle right).toOption.bind fun sum => (add left sum).toOption) =
        (add middle right).toOption.bind fun sum => (add sum left).toOption :=
      congrArg _ (funext fun sum => add_swap left sum)
    rw [swapped, add_add_toOption one two three, add_add_toOption two three one]
    congr 1
    · ring
    · exact (max_assoc _ _ _).trans (max_comm _ _)
  · have leftNone : (add left middle).toOption.bind (fun sum => (add sum right).toOption) = none := by
      rw [Option.bind_eq_none_iff]
      intro sum added
      refine add_none fun both => all ?_
      by_contra others
      rw [add_none fun pair => others ⟨pair.1, pair.2, both.2⟩] at added
      cases added
    have rightNone : ((add middle right).toOption.bind fun sum => (add left sum).toOption) = none := by
      rw [Option.bind_eq_none_iff]
      intro sum added
      refine add_none fun both => all ?_
      by_contra others
      rw [add_none fun pair => others ⟨both.1, pair.1, pair.2⟩] at added
      cases added
    rw [leftNone, rightNone]

theorem isOk_toOption {α : Type} (x : Result α) : isOk x = x.toOption.isSome := by
  cases x <;> rfl

theorem add_isOk_iff (left right : String) : isOk (add left right) = true ↔
    ∃ a s b t, Denotes left a s ∧ Denotes right b t ∧ Fits (a + b) (max s t) := by
  constructor
  · intro added
    obtain ⟨total, added⟩ := isOk_iff.mp added
    obtain ⟨a, b, s, t, one, other, _, fits⟩ := add_eq_ok added
    exact ⟨a, s, b, t, one, other, fits⟩
  · rintro ⟨a, s, b, t, one, other, fits⟩
    rw [isOk_toOption, add_toOption one other, Option.isSome_iff_ne_none]
    exact fun none => textOf_eq_none.mp none fits

theorem compare_isOk_iff (left right : String) : isOk (compare left right) = true ↔ Written left ∧ Written right := by
  rw [isOk_toOption]
  by_cases both : Written left ∧ Written right
  · obtain ⟨⟨_, _, one⟩, _, _, other⟩ := both
    rw [compare_denotes (denotes_of_spelled one) (denotes_of_spelled other)]
    exact iff_of_true rfl ⟨⟨_, _, one⟩, _, _, other⟩
  · rw [compare_none both]
    exact iff_of_false (by decide) both

theorem atMost_isOk (left right : String) : isOk (atMost left right) = isOk (compare left right) := by
  unfold atMost
  cases compare left right <;> rfl

/-- What a text written as an amount stands for is what its digits and their place make; comparing, and adding as far
as the sum fits, are defined on such texts and on no others, and follow the numbers; a sum is written the same way
whatever the order, and the gateway orders and adds alike. -/
theorem arithmetic_exact :
    (∀ text integer fraction, Spelled text integer fraction →
      Denotes text ((Gateway.Structure.number (integer ++ fraction) : ℚ) / 10 ^ fraction.length) fraction.length) ∧
    (∀ left right, (isOk (compare left right) = true ↔ Written left ∧ Written right) ∧
      (isOk (atMost left right) = true ↔ Written left ∧ Written right) ∧
      (isOk (add left right) = true ↔
        ∃ a s b t, Denotes left a s ∧ Denotes right b t ∧ Fits (a + b) (max s t))) ∧
    (∀ left right a s b t, Denotes left a s → Denotes right b t →
      compare left right = .ok (cmp a b) ∧ atMost left right = .ok (decide (a ≤ b)) ∧
      ∀ total, add left right = .ok total → Written total ∧ Denotes total (a + b) (max s t)) ∧
    (∀ left right, (add left right).toOption = (add right left).toOption) ∧
    (∀ left middle right, (add left middle).toOption.bind (fun sum => (add sum right).toOption) =
      (add middle right).toOption.bind fun sum => (add left sum).toOption) ∧
    ∀ left right,
      (Gateway.Spending.compare (.string left) (.string right)).toOption = (compare left right).toOption.map sign ∧
      (Gateway.Spending.add (.string left) (.string right)).toOption = (add left right).toOption := by
  refine ⟨fun _ _ _ => denotes_of_spelled, ?_, ?_, add_swap, add_regroup, fun _ _ => ⟨gateway_compare, gateway_add⟩⟩
  · intro left right
    exact ⟨compare_isOk_iff left right, atMost_isOk left right ▸ compare_isOk_iff left right, add_isOk_iff left right⟩
  · intro left right a s b t one other
    refine ⟨compare_denotes one other, atMost_denotes one other, ?_⟩
    intro total added
    have denotes := denotes_of_added one other (toOption_eq_some.mpr added)
    exact ⟨isDecimal_iff_written.mp ⟨_, _, denotes⟩, denotes⟩

end Decimal

end Stozher
