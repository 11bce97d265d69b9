import Stozher.ApproverSet
import Stozher.DecimalOrder
import Stozher.Gateway.Spending
import Stozher.MandateLine
import Stozher.StructureAgreement

namespace Stozher.Gateway.Spending

open Library Library.Text MandateWalk

section Money

/-- The characters of a monetary value, before the point and after it. -/
structure Spelled (s : String) (integer fraction : List Char) : Prop where
  text : s.toList = integer ++ if fraction = [] then [] else '.' :: fraction
  nonempty : integer ≠ []
  integers : ∀ c ∈ integer, Structure.isDigit c = true
  fractions : ∀ c ∈ fraction, Structure.isDigit c = true
  short : s.toList.length ≤ maxLen

theorem parse_eq_ok {s : String} {units scale : Nat} (parsed : parse (.string s) = .ok (units, scale)) :
    ∃ integer fraction, Spelled s integer fraction ∧ units = Structure.number (integer ++ fraction) ∧
      scale = fraction.length := by
  unfold parse at parsed
  simp only [bind_eq_ok, okOr_eq_ok, require_eq_ok, pure_eq_ok, Prod.mk.injEq] at parsed
  obtain ⟨text, isText, _, ⟨_, short⟩, _, ⟨nonempty, dotted⟩, units, scale⟩ := parsed
  cases isText
  have begins : s.toList.takeWhile Structure.isDigit <+: s.toList := List.takeWhile_prefix _
  have splits := List.take_append_drop (s.toList.takeWhile Structure.isDigit).length s.toList
  rw [← List.prefix_iff_eq_take.mp begins] at splits
  have integers : ∀ c ∈ s.toList.takeWhile Structure.isDigit, Structure.isDigit c = true :=
    fun c member => List.mem_takeWhile_imp member
  generalize s.toList.takeWhile Structure.isDigit = integer at *
  generalize s.toList.drop integer.length = rest at *
  refine ⟨integer, rest.drop 1, ⟨?_, nonempty, integers, ?_, short⟩, units.symm, scale.symm⟩
  · rw [← splits]
    rcases dotted with none | ⟨dot, some_, _⟩
    · rw [none]
      rfl
    · rw [if_neg some_]
      cases rest with
      | nil => cases dot
      | cons first others =>
          cases dot
          rfl
  · rcases dotted with none | ⟨_, _, digits⟩
    · rw [none]
      exact fun c member => absurd member List.not_mem_nil
    · exact List.all_eq_true.mp digits

theorem parse_of_spelled {s : String} {integer fraction : List Char} (spelled : Spelled s integer fraction) :
    parse (.string s) = .ok (Structure.number (integer ++ fraction), fraction.length) := by
  have stops : (if fraction = [] then [] else '.' :: fraction).takeWhile Structure.isDigit = [] := by
    split
    · rfl
    · rw [List.takeWhile_cons_of_neg (by decide)]
  have integers : s.toList.takeWhile Structure.isDigit = integer := by
    rw [spelled.text, List.takeWhile_append_of_pos spelled.integers, stops, List.append_nil]
  have rest : s.toList.drop integer.length = if fraction = [] then [] else '.' :: fraction := by
    rw [spelled.text, List.drop_left]
  have after : (if fraction = [] then [] else '.' :: fraction).drop 1 = fraction := by
    split
    · rename_i none
      rw [none]
      rfl
    · rfl
  unfold parse
  simp only [bind_eq_ok, okOr_eq_ok, require_eq_ok, pure_eq_ok, Prod.mk.injEq]
  refine ⟨s, rfl, (), ⟨?_, spelled.short⟩, (), ?_, ?_⟩
  · rw [spelled.text]
    exact fun none => spelled.nonempty (List.append_eq_nil_iff.mp none).1
  · rw [integers, rest, after]
    refine ⟨spelled.nonempty, ?_⟩
    by_cases whole : fraction = []
    · exact .inl (if_pos whole)
    · rw [if_neg whole]
      exact .inr ⟨rfl, whole, List.all_eq_true.mpr spelled.fractions⟩
  · rw [integers, rest, after]
    exact ⟨rfl, rfl⟩

theorem Spelled.ascii {s : String} {integer fraction : List Char} (spelled : Spelled s integer fraction) :
    ∀ c ∈ s.toList, c.toNat < 128 := by
  rw [spelled.text]
  intro c member
  rcases List.mem_append.mp member with front | back
  · exact Structure.digits_match.ascii c (spelled.integers c front)
  · split at back
    · cases back
    · rcases List.mem_cons.mp back with rfl | back
      · decide
      · exact Structure.digits_match.ascii c (spelled.fractions c back)

/-- What is spelled as an amount the kernel reads, as the octets of its digits. -/
theorem Spelled.reads {s : String} {integer fraction : List Char} (spelled : Spelled s integer fraction) :
    Decimal.Reads s (integer.map octetOf) (fraction.map octetOf) := by
  have octetDigits : ∀ {digits : List Char}, (∀ c ∈ digits, Structure.isDigit c = true) →
      Digits (digits.map octetOf) := by
    intro digits all b member
    obtain ⟨c, held, rfl⟩ := List.mem_map.mp member
    exact Structure.digits_match.octet c (all c held)
  have written := octets_of_ascii spelled.ascii
  have size : s.utf8ByteSize ≤ Decimal.maxLen := by
    rw [utf8ByteSize_eq, written, List.length_map]
    exact spelled.short
  apply Decimal.parts_eq_ok
  refine Decimal.parts_of_octets ?_ (octetDigits spelled.integers) (octetDigits spelled.fractions) size ?_
  · exact fun none => spelled.nonempty (List.map_eq_nil_iff.mp none)
  · rw [written, spelled.text, List.map_append]
    by_cases whole : fraction = []
    · rw [whole]
      exact List.append_nil _
    · rw [if_neg whole, if_neg fun none => whole (List.map_eq_nil_iff.mp none)]
      rfl

theorem Spelled.value {s : String} {integer fraction : List Char} (spelled : Spelled s integer fraction) :
    decimalValue (integer.map octetOf ++ fraction.map octetOf) = Structure.number (integer ++ fraction) := by
  rw [← List.map_append]
  apply decimalValue_octetOf
  intro c member
  rcases List.mem_append.mp member with front | back
  · exact Structure.digits_match.ascii c (spelled.integers c front)
  · exact Structure.digits_match.ascii c (spelled.fractions c back)

/-- What the gateway reads as an amount the kernel does. -/
theorem parse_denotes {s : String} {units scale : Nat} (parsed : parse (.string s) = .ok (units, scale)) :
    Decimal.Denotes s ((units : ℚ) / 10 ^ scale) scale := by
  obtain ⟨integer, fraction, spelled, rfl, rfl⟩ := parse_eq_ok parsed
  refine ⟨_, _, spelled.reads, List.length_map _, ?_⟩
  rw [spelled.value]

theorem isDigit_of_toDigits {n : Nat} : ∀ c ∈ Nat.toDigits 10 n, Structure.isDigit c = true := by
  intro c member
  unfold Structure.isDigit
  rw [Bool.and_eq_true, decide_eq_true_iff, decide_eq_true_iff]
  exact toDigits_bounds member

theorem number_append (first second : List Char) :
    Structure.number (first ++ second) = Structure.number first * 10 ^ second.length + Structure.number second := by
  have shifted : ∀ (digits : List Char) (start : Nat),
      digits.foldl (fun value c => value * 10 + (c.toNat - 48)) start =
        start * 10 ^ digits.length + digits.foldl (fun value c => value * 10 + (c.toNat - 48)) 0 := by
    intro digits
    induction digits with
    | nil => simp
    | cons c rest ih =>
        intro start
        rw [List.foldl_cons, List.foldl_cons, ih, ih (0 * 10 + (c.toNat - 48)), List.length_cons, pow_succ]
        ring
  unfold Structure.number
  rw [List.foldl_append, shifted]

theorem digitChar_value {n : Nat} (digit : n < 10) :
    (Nat.digitChar n).toNat - 48 = n ∧ Structure.isDigit (Nat.digitChar n) = true := by
  have all : ∀ n < 10, (Nat.digitChar n).toNat - 48 = n ∧ Structure.isDigit (Nat.digitChar n) = true := by decide
  exact all n digit

theorem number_toDigits (n : Nat) : Structure.number (Nat.toDigits 10 n) = n := by
  induction n using Nat.strong_induction_on with
  | _ n ih =>
      rw [Nat.toDigits_eq_if (by decide)]
      by_cases small : n < 10
      · rw [if_pos small]
        unfold Structure.number
        rw [List.foldl_cons, List.foldl_nil, Nat.zero_mul, Nat.zero_add]
        exact (digitChar_value small).1
      · rw [if_neg small, number_append, ih (n / 10) (by omega)]
        have last := (digitChar_value (Nat.mod_lt n (by decide : 0 < 10))).1
        unfold Structure.number
        rw [List.foldl_cons, List.foldl_nil, Nat.zero_mul, Nat.zero_add, last, List.length_singleton, pow_one]
        omega

theorem fixedDigits_spec (width n : Nat) : (∀ c ∈ fixedDigits width n, Structure.isDigit c = true) ∧
    Structure.number (fixedDigits width n) = n % 10 ^ width := by
  induction width generalizing n with
  | zero =>
      constructor
      · exact fun c member => absurd member List.not_mem_nil
      · rw [pow_zero, Nat.mod_one]
        rfl
  | succ width ih =>
      obtain ⟨digits, value⟩ := ih (n / 10)
      obtain ⟨last, digit⟩ := digitChar_value (Nat.mod_lt n (by decide : 0 < 10))
      unfold fixedDigits
      constructor
      · intro c member
        rcases List.mem_append.mp member with front | back
        · exact digits c front
        · rw [List.mem_singleton.mp back]
          exact digit
      · rw [number_append, value, List.length_singleton, pow_one, pow_succ']
        unfold Structure.number
        rw [List.foldl_cons, List.foldl_nil, Nat.zero_mul, Nat.zero_add, last, Nat.mod_mul]
        ring

theorem length_toDigits (n : Nat) : (Nat.toDigits 10 n).length = digitCount n := by
  unfold digitCount
  apply Nat.le_antisymm
  · rw [Nat.length_toDigits_le_iff (by decide) (Nat.succ_pos _)]
    exact Nat.lt_pow_succ_log_self (by decide) n
  · by_contra few
    have fewer : (Nat.toDigits 10 n).length ≤ Nat.log 10 n := by omega
    have positive : 0 < Nat.log 10 n := Nat.lt_of_lt_of_le Nat.length_toDigits_pos fewer
    rw [Nat.length_toDigits_le_iff (by decide) positive] at fewer
    have nonzero : n ≠ 0 := by
      intro zero
      rw [zero, Nat.log_zero_right] at positive
      cases positive
    exact absurd (Nat.pow_log_le_self 10 nonzero) (Nat.not_le.mpr fewer)

theorem fixedDigits_ne_nil (width n : Nat) : fixedDigits (width + 1) n ≠ [] := by
  intro none
  have size := congrArg List.length none
  rw [length_fixedDigits] at size
  cases size

theorem rendered_toList (units scale : Nat) :
    (rendered units scale).toList = Nat.toDigits 10 (units / 10 ^ scale) ++
      if fixedDigits scale units = [] then [] else '.' :: fixedDigits scale units := by
  unfold rendered
  cases scale with
  | zero =>
      rw [if_pos rfl, pow_zero, Nat.div_one]
      exact Nat.toList_repr.trans (List.append_nil _).symm
  | succ scale =>
      have some_ := fixedDigits_ne_nil scale units
      rw [if_neg (Nat.succ_ne_zero scale), if_neg some_, String.toList_append, String.toList_append,
        String.toList_ofList]
      have digits : (toString (units / 10 ^ (scale + 1))).toList = Nat.toDigits 10 (units / 10 ^ (scale + 1)) :=
        Nat.toList_repr
      rw [digits]
      simp

theorem rendered_length (units scale : Nat) : (rendered units scale).length = Decimal.textLength units scale := by
  have size : (rendered units scale).length = (rendered units scale).toList.length := rfl
  rw [size, rendered_toList, List.length_append, length_toDigits]
  unfold Decimal.textLength
  cases scale with
  | zero => rfl
  | succ scale =>
      have some_ := fixedDigits_ne_nil scale units
      rw [if_neg some_, List.length_cons, length_fixedDigits, if_neg (Nat.succ_ne_zero scale)]

theorem spelled_rendered {units scale : Nat} (short : (rendered units scale).length ≤ maxLen) :
    Spelled (rendered units scale) (Nat.toDigits 10 (units / 10 ^ scale)) (fixedDigits scale units) :=
  ⟨rendered_toList units scale, Nat.toDigits_ne_nil, isDigit_of_toDigits, (fixedDigits_spec scale units).1, short⟩

theorem number_rendered (units scale : Nat) :
    Structure.number (Nat.toDigits 10 (units / 10 ^ scale) ++ fixedDigits scale units) = units := by
  rw [number_append, number_toDigits, (fixedDigits_spec scale units).2, length_fixedDigits, Nat.mul_comm,
    Nat.div_add_mod]

/-- A total that is short enough is read back as what it was rendered from. -/
theorem parse_rendered {units scale : Nat} (short : (rendered units scale).length ≤ maxLen) :
    parse (.string (rendered units scale)) = .ok (units, scale) := by
  rw [parse_of_spelled (spelled_rendered short), number_rendered, length_fixedDigits]

/-- A sum the gateway comes to stands for the sum of the amounts, and fits. -/
theorem add_eq_ok {left right total : String} (added : add (.string left) (.string right) = .ok total) :
    ∃ a b s t, Decimal.Denotes left a s ∧ Decimal.Denotes right b t ∧ Decimal.Denotes total (a + b) (max s t) ∧
      Decimal.Fits (a + b) (max s t) := by
  unfold add at added
  simp only [bind_eq_ok, require_eq_ok, pure_eq_ok] at added
  obtain ⟨⟨a, s⟩, readLeft, ⟨b, t⟩, readRight, _, short, rfl⟩ := added
  dsimp only at short ⊢
  have sum : ((a * 10 ^ (max s t - s) + b * 10 ^ (max s t - t) : Nat) : ℚ) / 10 ^ max s t =
      (a : ℚ) / 10 ^ s + (b : ℚ) / 10 ^ t := by
    rw [Nat.cast_add, add_div, Decimal.scaled (le_max_left s t), Decimal.scaled (le_max_right s t)]
  have denotes := parse_denotes (parse_rendered short)
  rw [sum] at denotes
  refine ⟨_, _, s, t, parse_denotes readLeft, parse_denotes readRight, denotes, ?_⟩
  have cast : (10 : ℚ) ^ max s t = ((10 ^ max s t : Nat) : ℚ) := by
    push_cast
    rfl
  rw [rendered_length] at short
  unfold Decimal.Fits
  rw [← sum, cast, Nat.floor_div_eq_div]
  exact short

theorem atMost_eq_ok {left right : String} {within_ : Bool}
    (compared : atMost (.string left) (.string right) = .ok within_) :
    ∃ a b s t, Decimal.Denotes left a s ∧ Decimal.Denotes right b t ∧ within_ = decide (a ≤ b) := by
  unfold atMost at compared
  simp only [bind_eq_ok, pure_eq_ok] at compared
  obtain ⟨⟨a, s⟩, readLeft, ⟨b, t⟩, readRight, rfl⟩ := compared
  refine ⟨_, _, s, t, parse_denotes readLeft, parse_denotes readRight, ?_⟩
  rw [decide_eq_decide, div_le_div_iff₀ (by positivity) (by positivity)]
  exact_mod_cast Iff.rfl

end Money

variable {ext : External}

/-- A mandate of a chain the kernel resolved: its caps, and what is charged to it. -/
structure Resolved where
  mandate : String
  budget : Value
  spent : Budget.Amounts

namespace Resolved

/-- The amounts as members of an answer. -/
def texts (spent : Budget.Amounts) : Members :=
  spent.map fun entry => (entry.1, .string entry.2)

/-- The entry of a mandate in the kernel's answer. -/
def entry (link : Resolved) : Value :=
  .object [("mandate", .string link.mandate), ("resolved", .bool true), ("budget", link.budget),
    ("spent", .object (texts link.spent))]

end Resolved

/-- A whole number the kernel reads no cap in. -/
def TooLarge (cap : Value) : Prop :=
  ∃ n fits, cap = .number (.posInt n fits) ∧ 2 ^ 63 ≤ n

theorem get_texts (spent : Budget.Amounts) (dimension : String) :
    Members.get (Resolved.texts spent) dimension = (spent.lookup dimension).map Value.string := by
  unfold Members.get Resolved.texts
  induction spent with
  | nil => rfl
  | cons entry rest ih =>
      obtain ⟨name, amount⟩ := entry
      rw [List.map_cons, List.find?_cons, List.lookup_cons]
      by_cases same : name = dimension
      · subst same
        simp
      · have other : (dimension == name) = false := by simpa using Ne.symm same
        have apart : (name == dimension) = false := by simpa using same
        rw [other]
        dsimp only
        rw [apart]
        exact ih

theorem held_texts (spent : Budget.Amounts) (dimension : String) :
    MandateWalk.str ext ((Members.get (Resolved.texts spent) dimension).getD (.string "0")) =
      (spent.lookup dimension).getD "0" := by
  rw [get_texts]
  cases spent.lookup dimension with
  | none => rfl
  | some amount => rfl

/-- A cap the gateway reads is the same to the kernel, or too large for it. -/
theorem amountOf_asDecimal {cap : Value} {text : String} (read : asDecimal cap = .ok text) :
    Budget.amountOf cap = some text ∧ ¬ TooLarge cap ∨ Budget.amountOf cap = none ∧ TooLarge cap := by
  cases cap with
  | string s =>
      cases read
      refine .inl ⟨rfl, ?_⟩
      rintro ⟨_, _, same, _⟩
      cases same
  | number n =>
      cases n with
      | posInt n fits =>
          cases read
          by_cases small : n < 2 ^ 63
          · refine .inl ⟨?_, ?_⟩
            · show (if n < 2 ^ 63 then some (n : Int) else none).map toString = _
              rw [if_pos small]
              rfl
            · rintro ⟨_, _, same, large⟩
              cases same
              omega
          · refine .inr ⟨?_, n, fits, rfl, Nat.le_of_not_lt small⟩
            show (if n < 2 ^ 63 then some (n : Int) else none).map toString = _
            rw [if_neg small]
            rfl
      | negInt i fits =>
          cases read
          refine .inl ⟨rfl, ?_⟩
          rintro ⟨_, _, same, _⟩
          cases same
      | float bits => cases read
  | _ => cases read

/-- Where the gateway has room under a cap the kernel has too, unless the cap is too large for it. -/
theorem exceeds_of_room {spent adding : Budget.Amounts} {entry : String × Value}
    (roomy : exceeds ext (Resolved.texts spent) adding entry = false) :
    Budget.exceeds spent adding entry = true ↔ (adding.lookup entry.1).isSome = true ∧ TooLarge entry.2 := by
  obtain ⟨dimension, cap⟩ := entry
  unfold exceeds wouldHold at roomy
  unfold Budget.exceeds
  dsimp only at roomy ⊢
  rw [held_texts] at roomy
  cases adds : adding.lookup dimension with
  | none =>
      dsimp only
      exact ⟨fun none => absurd none (by decide), fun both => absurd both.1 (by decide)⟩
  | some added =>
      rw [adds] at roomy
      dsimp only at roomy ⊢
      split at roomy
      · rename_i fits within_
        rw [bind_eq_ok] at within_
        obtain ⟨total, sum, within_⟩ := within_
        rw [bind_eq_ok] at within_
        obtain ⟨limit, read, within_⟩ := within_
        rw [Bool.not_eq_false'] at roomy
        subst roomy
        rcases amountOf_asDecimal read with ⟨amount, small⟩ | ⟨amount, large⟩
        · rw [amount]
          dsimp only
          obtain ⟨a, b, s, t, isHeld, isAdded, isTotal, short⟩ := add_eq_ok sum
          obtain ⟨whole, c, width, scale, isTotal', isLimit, below⟩ := atMost_eq_ok within_
          obtain ⟨same, _⟩ := isTotal.unique isTotal'
          obtain ⟨total', sum', isSum⟩ := (Decimal.add_denotes isHeld isAdded).1 short
          rw [sum']
          dsimp only
          rw [Decimal.atMost_denotes isSum isLimit, same, ← below]
          exact ⟨fun none => absurd none (by decide), fun both => absurd both.2 small⟩
        · rw [amount]
          exact ⟨fun _ => ⟨rfl, large⟩, fun _ => rfl⟩
      · cases roomy

theorem exceededDimensions_eq_nil {chain : List Value} {adding : Budget.Amounts} :
    exceededDimensions ext chain adding = [] ↔ ∀ entry ∈ chain, exceededOf ext adding entry = [] := by
  unfold exceededDimensions
  constructor
  · intro none entry member
    have empty := List.Perm.nil_eq (none ▸ (List.perm_insertionSort (· ≤ ·) _))
    apply List.eq_nil_iff_forall_not_mem.mpr
    intro dimension named
    have listed : dimension ∈ (chain.flatMap (exceededOf ext adding)).dedup :=
      List.mem_dedup.mpr (List.mem_flatMap.mpr ⟨entry, member, named⟩)
    rw [← empty] at listed
    cases listed
  · intro each
    have empty : chain.flatMap (exceededOf ext adding) = [] := List.flatMap_eq_nil_iff.mpr each
    rw [empty]
    rfl

theorem exceededOf_entry (link : Resolved) (adding : Budget.Amounts) : exceededOf ext adding link.entry =
    ((link.budget.asObject.getD []).filter (exceeds ext (Resolved.texts link.spent) adding)).map Prod.fst := rfl

/-- A call the gateway finds room for on a chain of resolved mandates is within every cap of it for the kernel too,
exactly when no cap on a dimension it adds to is an integer from 2^63 on. -/
theorem room_for_both {chain : List Resolved} {adding : Budget.Amounts}
    (roomy : exceededDimensions ext (chain.map Resolved.entry) adding = []) :
    (∀ link ∈ chain, Budget.wouldExceed link.budget link.spent adding = []) ↔
      ∀ link ∈ chain, ∀ entry ∈ link.budget.asObject.getD [], (adding.lookup entry.1).isSome = true →
        ¬ TooLarge entry.2 := by
  rw [exceededDimensions_eq_nil, List.forall_mem_map] at roomy
  refine forall₂_congr fun link member => ?_
  have own := roomy link member
  rw [exceededOf_entry, List.map_eq_nil_iff, List.filter_eq_nil_iff] at own
  unfold Budget.wouldExceed
  rw [List.map_eq_nil_iff, List.filter_eq_nil_iff]
  refine forall₂_congr fun entry listed => ?_
  rw [exceeds_of_room (Bool.eq_false_iff.mpr (own entry listed)), not_and]

/-- A mandate capped at one more request than it has spent. -/
def lastRequest : Resolved :=
  { mandate := "m", budget := .object [("requests", .number (.posInt 4 (by decide))), ("money-eur", .string "0.50")],
    spent := [("requests", "3"), ("money-eur", "0.5")] }

theorem last_request_within : Budget.wouldExceed lastRequest.budget lastRequest.spent [("requests", "1")] = [] := by
  have roomy : exceededDimensions Deployment.ext ([lastRequest].map Resolved.entry) [("requests", "1")] = [] := by
    decide +kernel
  refine (room_for_both roomy).mpr ?_ lastRequest List.mem_cons_self
  intro link member entry listed _ large
  cases List.mem_singleton.mp member
  obtain ⟨n, fits, isCap, beyond⟩ := large
  have caps : entry = ("requests", .number (.posInt 4 (by decide))) ∨ entry = ("money-eur", .string "0.50") := by
    simpa [lastRequest, Value.asObject] using listed
  rcases caps with rfl | rfl
  · cases isCap
    omega
  · cases isCap

/-- A cap of 2^63 requests leaves the gateway room, and the kernel none. -/
theorem huge_cap_flagged : ¬∀ (ext : External) (chain : List Resolved) (adding : Budget.Amounts),
    exceededDimensions ext (chain.map Resolved.entry) adding = [] →
      ∀ link ∈ chain, Budget.wouldExceed link.budget link.spent adding = [] := by
  intro strict
  have within_ := strict Deployment.ext
    [{ mandate := "m", budget := .object [("requests", .number (.posInt (2 ^ 63) (by decide)))], spent := [] }]
    [("requests", "1")] (by decide +kernel) _ List.mem_cons_self
  exact absurd within_ (by decide +kernel)

end Stozher.Gateway.Spending

namespace Stozher.Store

open Library Ingest Gateway.Spending

variable {ext : External} {store : Store}

/-- What the kernel answers of one mandate's budget. -/
def budgetEntry (store : Store) (id : String) : Value :=
  match store.mandate id with
  | none => .object [("mandate", .string id), ("resolved", .bool false)]
  | some mandate => Resolved.entry {
      mandate := id
      budget := (mandate.get "budget").getD .null
      spent := store.spendOf id }

/-- The chain in the kernel's answer of a mandate's budget. -/
def budgetChain (store : Store) (id : String) : List Value :=
  (store.mandateLine id).map store.budgetEntry

/-- A call let through on current figures passes no budget it is charged to, but for caps the kernel cannot read. -/
theorem passesBudget_of_room {leafRef : String} {adding : Budget.Amounts}
    (roomy : exceededDimensions ext (store.budgetChain leafRef) adding = []) {id : String}
    (charged : id ∈ store.mandateLine leafRef) (passes : passesBudget store adding id = true) :
    ∃ mandate cap, store.mandate id = some mandate ∧ mandate.get "budget" = some cap ∧
      ∃ entry ∈ cap.asObject.getD [], (adding.lookup entry.1).isSome = true ∧ TooLarge entry.2 := by
  have own := exceededDimensions_eq_nil.mp roomy _ (List.mem_map_of_mem charged)
  unfold passesBudget at passes
  unfold budgetEntry at own
  cases stored : store.mandate id with
  | none =>
      rw [stored] at passes
      cases passes
  | some mandate =>
      rw [stored] at own passes
      rw [Option.bind_some] at passes
      cases capped : mandate.get "budget" with
      | none =>
          rw [capped] at passes
          cases passes
      | some cap =>
          dsimp only at own
          rw [capped] at own passes
          dsimp only at passes
          rw [Option.getD_some, exceededOf_entry, List.map_eq_nil_iff, List.filter_eq_nil_iff] at own
          rw [Bool.not_eq_true', List.isEmpty_eq_false_iff] at passes
          obtain ⟨dimension, listed⟩ := List.exists_mem_of_ne_nil _ passes
          unfold Budget.wouldExceed at listed
          obtain ⟨entry, inside, _⟩ := List.mem_map.mp listed
          obtain ⟨inside, flagged⟩ := List.mem_filter.mp inside
          have roomy := Bool.eq_false_iff.mpr (own entry inside)
          exact ⟨mandate, cap, rfl, capped, entry, inside, (exceeds_of_room roomy).mp flagged⟩

end Stozher.Store

namespace Stozher.World

open Library Ingest Gateway.Spending

variable {ext : External} {config : Config} {world : World}

/-- A stored mandate came in a valid envelope. -/
theorem mandate_checked (reached : (kernel ext config).Reachable world) {id : String} {mandate : Value}
    (found : world.store.mandate id = some mandate) : ∃ path, Envelope.checkNumbers ext mandate path = .ok () := by
  obtain ⟨taken, inside, name, projected⟩ := mandate_taken reached found
  obtain ⟨before, after, at_⟩ := (traced reached).accepted taken inside
  obtain ⟨subjectKey, payloads, admitted⟩ := at_.origin.admitted
  have carried : taken.plan.envelope.get "mandate" = some mandate := by
    rcases admitted.rule.ceremony.grants projected with valid | ⟨policy, valid⟩
    · obtain ⟨_, _, carried, _, _, _, same⟩ := validateGenesisMandate_eq_ok valid
      rw [same] at projected
      cases projected
      exact carried
    · obtain ⟨_, _, _, _, carried, _, _, _, same⟩ := validateMandateGrant_eq_ok valid
      rw [same] at projected
      cases projected
      exact carried
  obtain ⟨map, kind, spec, valid⟩ := Envelope.validate_eq_ok admitted.valid
  exact Envelope.checkNumbers_of_get valid.numbers carried

/-- No mandate on record has a cap the kernel cannot read for its size. -/
theorem caps_small (reached : (kernel ext config).Reachable world) {id : String} {mandate cap : Value}
    (found : world.store.mandate id = some mandate) (capped : mandate.get "budget" = some cap) :
    ∀ entry ∈ cap.asObject.getD [], ¬ TooLarge entry.2 := by
  intro entry listed large
  obtain ⟨path, checked⟩ := mandate_checked reached found
  obtain ⟨inner, capChecked⟩ := Envelope.checkNumbers_of_get checked capped
  cases isObject : cap.asObject with
  | none =>
      rw [isObject] at listed
      cases listed
  | some members =>
      rw [isObject, Option.getD_some] at listed
      rw [Envelope.asObject_eq_some isObject, Envelope.checkNumbers] at capChecked
      obtain ⟨last, entryChecked⟩ := Envelope.checkNumbers_of_mem capChecked listed
      obtain ⟨n, fits, isCap, beyond⟩ := large
      rw [isCap] at entryChecked
      have small : n < 2 ^ 53 := Envelope.isSafe_of_checked ext entryChecked
      omega

/-- A call let through on the kernel's current figures passes no budget it is charged to. -/
theorem let_through_unflagged (reached : (kernel ext config).Reachable world) {leafRef : String}
    {adding : Budget.Amounts} (roomy : exceededDimensions ext (world.store.budgetChain leafRef) adding = []) :
    (world.store.mandateLine leafRef).any (passesBudget world.store adding) = false := by
  rw [List.any_eq_false]
  intro id charged passes
  obtain ⟨mandate, cap, found, capped, entry, listed, _, large⟩ := Store.passesBudget_of_room roomy charged passes
  exact caps_small reached found capped entry listed large

end Stozher.World
