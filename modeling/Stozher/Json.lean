import Mathlib.Algebra.BigOperators.Group.List.Basic
import Mathlib.Algebra.Ring.Int.Defs
import Mathlib.Data.List.Basic
import Mathlib.Data.Option.Basic

namespace Stozher

/-- The bits of an IEEE 754 binary64. -/
abbrev Binary64 := BitVec 64

namespace Binary64

def exponentBits (bits : Binary64) : Nat :=
  bits.toNat / 2 ^ 52 % 2 ^ 11

def fractionBits (bits : Binary64) : Nat :=
  bits.toNat % 2 ^ 52

def isFinite (bits : Binary64) : Bool :=
  exponentBits bits != 2047

def isNegative (bits : Binary64) : Bool :=
  2 ^ 63 ≤ bits.toNat

def isZero (bits : Binary64) : Bool :=
  bits.toNat % 2 ^ 63 == 0

/-- The binary64 nearest to a natural number, ties to even. -/
def ofNat (n : Nat) : Binary64 :=
  if n = 0 then 0
  else
    let exponent := n.log2
    if exponent ≤ 52 then
      BitVec.ofNat 64 ((exponent + 1022) * 2 ^ 52 + n * 2 ^ (52 - exponent))
    else
      let unit := 2 ^ (exponent - 52)
      let kept := n / unit
      let lost := n % unit
      let rounded := if 2 * lost > unit ∨ (2 * lost = unit ∧ kept % 2 = 1) then kept + 1 else kept
      BitVec.ofNat 64 ((exponent + 1022) * 2 ^ 52 + rounded)

def ofInt (i : Int) : Binary64 :=
  match i with
  | .ofNat n => ofNat n
  | .negSucc n => BitVec.ofNat 64 (2 ^ 63 + (ofNat (n + 1)).toNat)

/-- The magnitude, when it is a whole number. -/
def wholeMagnitude (bits : Binary64) : Option Nat :=
  let exponent := exponentBits bits
  if isZero bits then some 0
  else if exponent = 0 then none
  else
    let significand := 2 ^ 52 + fractionBits bits
    if 1075 ≤ exponent then some (significand * 2 ^ (exponent - 1075))
    else if significand % 2 ^ (1075 - exponent) = 0 then
      some (significand / 2 ^ (1075 - exponent))
    else none

end Binary64

/-- A JSON number as the parser keeps it. -/
inductive Number where
  | posInt (n : Nat) (fits : n < 2 ^ 64)
  | negInt (i : Int) (fits : -2 ^ 63 ≤ i ∧ i < 0)
  | float (bits : Binary64)
  deriving DecidableEq

namespace Number

def asU64 : Number → Option Nat
  | posInt n _ => some n
  | _ => none

def asI64 : Number → Option Int
  | posInt n _ => if n < 2 ^ 63 then some n else none
  | negInt i _ => some i
  | float _ => none

def asF64 : Number → Binary64
  | posInt n _ => Binary64.ofNat n
  | negInt i _ => Binary64.ofInt i
  | float bits => bits

/-- `==` on numbers: floats compare as binary64 values, so the two zeros are equal. -/
def same : Number → Number → Bool
  | posInt n _, posInt m _ => n == m
  | negInt i _, negInt j _ => i == j
  | float a, float b => a == b || (a.isZero && b.isZero)
  | _, _ => false

/-- The number a canonical numeral reads back as. ECMAScript writes a whole number below `10^21`
without a point or an exponent, and such a numeral is an integer again where it fits. -/
def ofCanonical (bits : Binary64) : Number :=
  match bits.wholeMagnitude with
  | none => float bits
  | some n =>
      if sign : bits.isNegative = true ∧ n ≠ 0 ∧ n ≤ 2 ^ 63 then negInt (-(n : Int)) (by omega)
      else if fits : (bits.isNegative = false ∨ n = 0) ∧ n < 2 ^ 64 then posInt n fits.2
      else float bits

end Number

inductive Value where
  | null
  | bool (b : Bool)
  | number (n : Number)
  | string (s : String)
  | array (items : List Value)
  | object (members : List (String × Value))

abbrev Members := List (String × Value)

namespace Members

/-- The first member of the name, as a map lookup. -/
def get (members : Members) (name : String) : Option Value :=
  (members.find? fun member => member.1 == name).map Prod.snd

def containsKey (members : Members) (name : String) : Bool :=
  (get members name).isSome

def keys (members : Members) : List String :=
  members.map Prod.fst

/-- Inserts into a map, which keeps its names in order. -/
def insert (members : Members) (name : String) (value : Value) : Members :=
  let others := members.filter fun member => member.1 != name
  others.takeWhile (fun member => decide (member.1 < name)) ++
    (name, value) :: others.dropWhile (fun member => decide (member.1 < name))

theorem get_append (first second : Members) (name : String) :
    get (first ++ second) name = (get first name).or (get second name) := by
  unfold get
  rw [List.find?_append]
  cases first.find? fun member => member.1 == name <;> rfl

theorem get_cons_self (name : String) (value : Value) (rest : Members) :
    get ((name, value) :: rest) name = some value := by
  unfold get
  rw [List.find?_cons_of_pos (by simp)]
  rfl

theorem get_cons_of_ne {name other : String} (differ : other ≠ name) (value : Value) (rest : Members) :
    get ((other, value) :: rest) name = get rest name := by
  unfold get
  rw [List.find?_cons_of_neg (by simpa using differ)]

theorem get_filter_of_ne {name other : String} (differ : other ≠ name) (members : Members) :
    get (members.filter fun member => member.1 != other) name = get members name := by
  induction members with
  | nil => rfl
  | cons first rest ih =>
      obtain ⟨key, value⟩ := first
      by_cases same : key = other
      · subst same
        rw [List.filter_cons_of_neg (by simp), get_cons_of_ne differ, ih]
      · rw [List.filter_cons_of_pos (by simpa using same)]
        by_cases named : key = name
        · subst named
          rw [get_cons_self, get_cons_self]
        · rw [get_cons_of_ne named, get_cons_of_ne named, ih]

@[simp] theorem get_insert_self (members : Members) (name : String) (value : Value) :
    get (insert members name value) name = some value := by
  have none : get ((members.filter fun member => member.1 != name).takeWhile
      fun member => decide (member.1 < name)) name = none := by
    unfold get
    rw [Option.map_eq_none_iff, List.find?_eq_none]
    intro member kept
    simpa using (List.mem_filter.mp ((List.takeWhile_prefix _).subset kept)).2
  unfold insert
  rw [get_append, none, Option.none_or, get_cons_self]

theorem get_insert_of_ne {name other : String} (differ : other ≠ name) (members : Members)
    (value : Value) : get (insert members other value) name = get members name := by
  unfold insert
  rw [get_append, get_cons_of_ne differ, ← get_append, List.takeWhile_append_dropWhile,
    get_filter_of_ne differ]

end Members

namespace Value

def asObject : Value → Option Members
  | object members => some members
  | _ => none

def asArray : Value → Option (List Value)
  | array items => some items
  | _ => none

def asStr : Value → Option String
  | string s => some s
  | _ => none

def asBool : Value → Option Bool
  | bool b => some b
  | _ => none

def asU64 : Value → Option Nat
  | number n => n.asU64
  | _ => none

def asI64 : Value → Option Int
  | number n => n.asI64
  | _ => none

def isNull : Value → Bool
  | null => true
  | _ => false

def isString : Value → Bool
  | string _ => true
  | _ => false

def isObject : Value → Bool
  | object _ => true
  | _ => false

/-- `value.get(name)`. -/
def get (value : Value) (name : String) : Option Value :=
  value.asObject.bind (·.get name)

/-- `value[name]`: null where there is no such member. -/
def index (value : Value) (name : String) : Value :=
  (value.get name).getD null

/-- `value.get(name).and_then(Value::as_str)`. -/
def getStr (value : Value) (name : String) : Option String :=
  (value.get name).bind asStr

def getU64 (value : Value) (name : String) : Option Nat :=
  (value.get name).bind asU64

def nat (n : Nat) (fits : n < 2 ^ 64 := by decide) : Value :=
  number (.posInt n fits)

mutual

/-- `==` on values. -/
def same : Value → Value → Bool
  | null, null => true
  | bool a, bool b => a == b
  | number a, number b => a.same b
  | string a, string b => a == b
  | array a, array b => sameItems a b
  | object a, object b => sameMembers a b
  | _, _ => false

def sameItems : List Value → List Value → Bool
  | [], [] => true
  | a :: as, b :: bs => same a b && sameItems as bs
  | _, _ => false

def sameMembers : Members → Members → Bool
  | [], [] => true
  | (name, a) :: as, (other, b) :: bs => name == other && same a b && sameMembers as bs
  | _, _ => false

end

mutual

/-- Whether two values are one tree. -/
def equals : Value → Value → Bool
  | null, null => true
  | bool a, bool b => a == b
  | number a, number b => decide (a = b)
  | string a, string b => a == b
  | array a, array b => equalItems a b
  | object a, object b => equalMembers a b
  | _, _ => false

def equalItems : List Value → List Value → Bool
  | [], [] => true
  | a :: as, b :: bs => equals a b && equalItems as bs
  | _, _ => false

def equalMembers : Members → Members → Bool
  | [], [] => true
  | (name, a) :: as, (other, b) :: bs => name == other && equals a b && equalMembers as bs
  | _, _ => false

end

mutual

theorem equals_iff (a b : Value) : equals a b = true ↔ a = b := by
  cases a <;> cases b <;> simp [equals, equalItems_iff, equalMembers_iff]

theorem equalItems_iff (as bs : List Value) : equalItems as bs = true ↔ as = bs := by
  cases as <;> cases bs <;> simp [equalItems, equals_iff, equalItems_iff]

theorem equalMembers_iff (as bs : Members) : equalMembers as bs = true ↔ as = bs := by
  cases as with
  | nil => cases bs <;> simp [equalMembers]
  | cons first rest =>
      cases bs with
      | nil => simp [equalMembers]
      | cons second others => simp [equalMembers, Prod.ext_iff, equals_iff, equalMembers_iff, and_assoc]

end

instance : DecidableEq Value :=
  fun a b => decidable_of_iff _ (equals_iff a b)

def ofNat (n : Nat) : Value :=
  if fits : n < 2 ^ 64 then number (.posInt n fits) else null

def ofOption : Option String → Value
  | some s => string s
  | none => null

theorem index_asStr (value : Value) (name : String) :
    (value.index name).asStr = value.getStr name := by
  unfold index getStr
  cases value.get name <;> rfl

theorem asStr_eq_some {value : Value} {text : String} (isText : value.asStr = some text) : value = string text := by
  cases value with
  | string other => exact congrArg string (Option.some.inj isText)
  | _ => cases isText

theorem getStr_eq_some {value : Value} {name text : String} (found : value.getStr name = some text) :
    value.get name = some (string text) := by
  obtain ⟨member, has, isText⟩ := Option.bind_eq_some_iff.mp found
  rw [has, asStr_eq_some isText]

theorem getStr_of_asObject {value : Value} {map : Members} (object : value.asObject = some map) (name : String) :
    value.getStr name = (map.get name).bind asStr := by
  unfold getStr get
  rw [object, Option.bind_some]

end Value

end Stozher
