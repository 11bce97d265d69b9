import Stozher.JcsText
import Stozher.SafeInteger

namespace Stozher

open Library Library.Text

namespace Binary64

variable {bits : Binary64} {n : Nat}

theorem isZero_of_wholeMagnitude (whole : bits.wholeMagnitude = some n) : bits.isZero = true ↔ n = 0 := by
  unfold wholeMagnitude at whole
  dsimp only at whole
  by_cases zero : bits.isZero = true
  · rw [if_pos zero] at whole
    exact iff_of_true zero (Option.some.inj whole).symm
  · rw [if_neg zero] at whole
    refine iff_of_false zero ?_
    split at whole
    · cases whole
    · split at whole
      · have same := Option.some.inj whole
        have positive := Nat.two_pow_pos (exponentBits bits - 1075)
        have more := Nat.mul_pos (show 0 < 2 ^ 52 + fractionBits bits by omega) positive
        omega
      · split at whole
        · rename_i divides
          have same := Option.some.inj whole
          have whole := Nat.div_add_mod (2 ^ 52 + fractionBits bits) (2 ^ (1075 - exponentBits bits))
          intro none
          rw [same, divides, none, Nat.mul_zero] at whole
          omega
        · cases whole

theorem isFinite_of_wholeMagnitude (whole : bits.wholeMagnitude = some n) (small : n < 2 ^ 53) :
    bits.isFinite = true := by
  unfold isFinite
  rw [bne_iff_ne]
  intro infinite
  unfold wholeMagnitude at whole
  dsimp only at whole
  rw [infinite] at whole
  by_cases zero : bits.isZero = true
  · unfold isZero at zero
    rw [beq_iff_eq] at zero
    unfold exponentBits at infinite
    omega
  · rw [if_neg zero, if_neg (by decide), if_pos (by decide)] at whole
    obtain ⟨shift, isShift⟩ : ∃ shift, shift = 2047 - 1075 := ⟨_, rfl⟩
    rw [← isShift] at whole
    have large : 2 ^ 53 ≤ n := calc
      2 ^ 53 ≤ 2 ^ shift := Nat.pow_le_pow_right (by decide) (by omega)
      _ = 1 * 2 ^ shift := (Nat.one_mul _).symm
      _ ≤ (2 ^ 52 + fractionBits bits) * 2 ^ shift :=
        Nat.mul_le_mul_right _ (show 1 ≤ 2 ^ 52 + fractionBits bits by omega)
      _ = n := Option.some.inj whole
    exact absurd small (Nat.not_lt.mpr large)

end Binary64

namespace Number

/-- An integer within plus or minus 2^53 - 1, however it is kept. -/
def Integral (n : Number) : Prop :=
  ∃ magnitude < 2 ^ 53, n.asF64.wholeMagnitude = some magnitude

/-- The integer in decimal. -/
def decimalText (n : Number) : List Char :=
  let magnitude := n.asF64.wholeMagnitude.getD 0
  (if n.asF64.isNegative = true ∧ magnitude ≠ 0 then ['-'] else []) ++ Nat.toDigits 10 magnitude

theorem integral_of_safe {n : Number} (safe : n.isSafe) : n.Integral := by
  cases n with
  | posInt n fits =>
      have small : n < 2 ^ 53 := safe
      refine ⟨n, small, ?_⟩
      by_cases zero : n = 0
      · subst zero
        show (Binary64.ofNat 0).wholeMagnitude = some 0
        decide
      · have positive : 0 < n := by omega
        exact Binary64.wholeMagnitude_of_magnitude positive small
          (Nat.mod_eq_of_lt (Binary64.ofNat_lt positive small))
  | negInt i fits =>
      have small : -2 ^ 53 < i := safe
      obtain ⟨k, rfl⟩ := Int.eq_negSucc_of_lt_zero fits.2
      have magnitude : k + 1 < 2 ^ 53 := by omega
      have below : (Binary64.ofNat (k + 1)).toNat < 2 ^ 63 := Binary64.ofNat_lt (Nat.succ_pos k) magnitude
      have word : (Binary64.ofInt (Int.negSucc k)).toNat = 2 ^ 63 + (Binary64.ofNat (k + 1)).toNat := by
        simp only [Binary64.ofInt, BitVec.toNat_ofNat]
        apply Nat.mod_eq_of_lt
        omega
      have same : (Binary64.ofInt (Int.negSucc k)).toNat % 2 ^ 63 = (Binary64.ofNat (k + 1)).toNat := by
        omega
      exact ⟨k + 1, magnitude, Binary64.wholeMagnitude_of_magnitude (Nat.succ_pos k) magnitude same⟩
  | float bits => cases safe

end Number

namespace Value

mutual

/-- The numbers of a value, at any depth. -/
def numbers : Value → List Number
  | .number n => [n]
  | .array items => itemNumbers items
  | .object members => memberNumbers members
  | _ => []

def itemNumbers : List Value → List Number
  | [] => []
  | item :: rest => numbers item ++ itemNumbers rest

def memberNumbers : List (String × Value) → List Number
  | [] => []
  | (_, value) :: rest => numbers value ++ memberNumbers rest

end

def Integers (value : Value) : Prop :=
  ∀ n ∈ value.numbers, n.Integral

/-- One JSON value as two maps of its members keep it: equal up to the order of the members of its objects. -/
inductive Reorders : Value → Value → Prop where
  | refl (value : Value) : Reorders value value
  | trans {first second third : Value} : Reorders first second → Reorders second third → Reorders first third
  | members {first second : Members} : (first.map Prod.fst).Nodup → first.Perm second →
      Reorders (.object first) (.object second)
  | item {before after : List Value} {first second : Value} : Reorders first second →
      Reorders (.array (before ++ first :: after)) (.array (before ++ second :: after))
  | member {before after : Members} {name : String} {first second : Value} : Reorders first second →
      Reorders (.object (before ++ (name, first) :: after)) (.object (before ++ (name, second) :: after))

/-- What is kept by arrays and objects holds of every value. -/
theorem induct {holds : Value → Prop} (scalar : ∀ value, value.asArray = none → value.asObject = none → holds value)
    (array : ∀ items, (∀ item ∈ items, holds item) → holds (.array items))
    (object : ∀ members : Members, (∀ member ∈ members, holds member.2) → holds (.object members))
    (value : Value) : holds value := by
  refine @Value.rec holds (fun items => ∀ item ∈ items, holds item) (fun members => ∀ member ∈ members, holds member.2)
    (fun member => holds member.2) (scalar _ rfl rfl) (fun b => scalar _ rfl rfl) (fun n => scalar _ rfl rfl)
    (fun s => scalar _ rfl rfl) array object ?_ ?_ ?_ ?_ ?_ value
  · exact fun item none => absurd none List.not_mem_nil
  · intro first rest one others item member
    rcases List.mem_cons.mp member with rfl | later
    · exact one
    · exact others item later
  · exact fun member none => absurd none List.not_mem_nil
  · intro first rest one others member within
    rcases List.mem_cons.mp within with rfl | later
    · exact one
    · exact others member later
  · exact fun name value known => known

theorem itemNumbers_eq (items : List Value) : itemNumbers items = items.flatMap numbers := by
  induction items with
  | nil => rfl
  | cons first rest ih =>
      unfold itemNumbers
      rw [ih, List.flatMap_cons]

theorem memberNumbers_eq (members : Members) : memberNumbers members = members.flatMap fun member => numbers member.2 := by
  induction members with
  | nil => rfl
  | cons first rest ih =>
      unfold memberNumbers
      rw [ih, List.flatMap_cons]

variable {value other : Value} {items : List Value} {members : Members}

theorem Integers.item (integers : Integers (.array items)) {item : Value} (member : item ∈ items) : Integers item := by
  intro n within
  apply integers
  unfold numbers
  rw [itemNumbers_eq]
  exact List.mem_flatMap.mpr ⟨item, member, within⟩

theorem Integers.member (integers : Integers (.object members)) {member : String × Value} (inside : member ∈ members) :
    Integers member.2 := by
  intro n within
  apply integers
  unfold numbers
  rw [memberNumbers_eq]
  exact List.mem_flatMap.mpr ⟨member, inside, within⟩

end Value

namespace Jcs.Text

mutual

/-- The canonical text of a value whose numbers are integers. -/
def render : Value → List Char
  | .null => "null".toList
  | .bool true => "true".toList
  | .bool false => "false".toList
  | .number n => n.decimalText
  | .string s => writeString s
  | .array items => '[' :: separated (renderItems items) ++ [']']
  | .object members =>
      '\x7b' :: separated ((sortBy (fun member => encodeUtf16 member.1) (renderMembers members)).map Prod.snd) ++ ['\x7d']

def renderItems : List Value → List (List Char)
  | [] => []
  | item :: rest => render item :: renderItems rest

/-- Each name with the text of its member. -/
def renderMembers : List (String × Value) → List (String × List Char)
  | [] => []
  | (name, value) :: rest => (name, writeString name ++ ':' :: render value) :: renderMembers rest

end

theorem renderItems_eq (items : List Value) : renderItems items = items.map render := by
  induction items with
  | nil => rfl
  | cons first rest ih =>
      unfold renderItems
      rw [ih, List.map_cons]

theorem renderMembers_eq (members : Members) :
    renderMembers members = members.map fun member => (member.1, writeString member.1 ++ ':' :: render member.2) := by
  induction members with
  | nil => rfl
  | cons first rest ih =>
      unfold renderMembers
      rw [ih, List.map_cons]

theorem render_object (members : Members) : render (.object members) =
    '\x7b' :: separated ((sortBy (fun member => encodeUtf16 member.1) members).map
      fun member => writeString member.1 ++ ':' :: render member.2) ++ ['\x7d'] := by
  have sorted : sortBy (fun member : String × List Char => encodeUtf16 member.1)
      (members.map fun member => (member.1, writeString member.1 ++ ':' :: render member.2)) =
        (sortBy (fun member => encodeUtf16 member.1) members).map
          fun member => (member.1, writeString member.1 ++ ':' :: render member.2) :=
    (map_sortBy _ (fun member => rfl) members).symm
  rw [render, renderMembers_eq, sorted, List.map_map]
  rfl

/-- What the writer of the kernel relies on: integers in plain decimal. -/
def PlainIntegers (formatFinite : Binary64 → String) : Prop :=
  ∀ bits magnitude, bits.wholeMagnitude = some magnitude → 0 < magnitude → magnitude < 2 ^ 53 →
    formatFinite bits = (if bits.isNegative = true then "-" else "") ++ toString magnitude

section

variable {ext : External} {formatFinite : Binary64 → String}

theorem numberToString_eq (plain : PlainIntegers formatFinite) {n : Number} (integral : n.Integral) :
    numberToString ext formatFinite n = .ok n.decimalText := by
  obtain ⟨magnitude, small, whole⟩ := integral
  have finite := Binary64.isFinite_of_wholeMagnitude whole small
  have zero := Binary64.isZero_of_wholeMagnitude whole
  unfold numberToString Number.decimalText
  dsimp only
  rw [require_bind_eq_ok, whole, Option.getD_some]
  refine ⟨finite, ?_⟩
  by_cases none : magnitude = 0
  · rw [if_pos (zero.mpr none), if_neg (fun both => both.2 none), none]
    rfl
  · rw [if_neg (fun isZero => none (zero.mp isZero)), plain _ magnitude whole (by omega) small, String.toList_append]
    have digits : (toString magnitude).toList = Nat.toDigits 10 magnitude := Nat.toList_repr
    rw [digits]
    by_cases negative : n.asF64.isNegative = true
    · rw [if_pos negative, if_pos ⟨negative, none⟩]
      rfl
    · rw [if_neg negative, if_neg (fun both => negative both.1)]
      rfl

theorem writeItems_eq (items : List Value) :
    writeItems ext formatFinite items = items.map (writeValue ext formatFinite) := by
  induction items with
  | nil => rfl
  | cons first rest ih =>
      unfold writeItems
      rw [ih, List.map_cons]

theorem writeMembers_eq (members : Members) : writeMembers ext formatFinite members =
    members.map fun member => (member.1, writeValue ext formatFinite member.2) := by
  induction members with
  | nil => rfl
  | cons first rest ih =>
      unfold writeMembers
      rw [ih, List.map_cons]

/-- The kernel writes the canonical text of every value whose numbers are integers. -/
theorem writeValue_eq (plain : PlainIntegers formatFinite) {value : Value} (integers : value.Integers) :
    writeValue ext formatFinite value = .ok (render value) := by
  induction value using Value.induct with
  | scalar value notArray notObject =>
      cases value with
      | null => rfl
      | bool b => cases b <;> rfl
      | number n => exact numberToString_eq plain (integers n List.mem_cons_self)
      | string s => rfl
      | array items => cases notArray
      | object members => cases notObject
  | array items ih =>
      have each : ∀ item ∈ items, id (writeValue ext formatFinite item) = .ok (render item) :=
        fun item member => ih item member (integers.item member)
      rw [writeValue, render, writeItems_eq, renderItems_eq, mapChecked_map, mapChecked_ok each]
      rfl
  | object members ih =>
      have each : ∀ member ∈ sortBy (fun member => encodeUtf16 member.1) members,
          writeMember (member.1, writeValue ext formatFinite member.2) =
            .ok (writeString member.1 ++ ':' :: render member.2) := by
        intro member within
        have inside := (sortBy_perm _ members).mem_iff.mp within
        unfold writeMember
        rw [ih member inside (integers.member inside)]
        rfl
      have sorted : sortedKeys (members.map fun member => (member.1, writeValue ext formatFinite member.2)) =
          (sortBy (fun member => encodeUtf16 member.1) members).map
            fun member => (member.1, writeValue ext formatFinite member.2) := by
        unfold sortedKeys
        rw [← map_sortBy _ fun member => rfl]
      rw [writeValue, writeMembers_eq, sorted, mapChecked_map, mapChecked_ok each, render_object]
      rfl

end

end Jcs.Text

end Stozher
