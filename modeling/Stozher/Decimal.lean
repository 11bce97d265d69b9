import Stozher.Error
import Stozher.Library.Checked

namespace Stozher.Decimal

open Library Library.Text

def maxLen : Nat := 32

/-- The integer and fraction digits of a decimal string. -/
def parts (value : String) : Result (List UInt8 × List UInt8) := do
  let len := value.utf8ByteSize
  require (len ≠ 0 ∧ len ≤ maxLen) (err "schema-type-mismatch"
    s!"a monetary value must be 1 to {maxLen} characters, not {len}")
  let bytes := octets value
  let integer := bytes.takeWhile (· != 0x2e)
  let fraction := (bytes.dropWhile (· != 0x2e)).drop 1
  let digits := fun part : List UInt8 => !part.isEmpty && part.all isAsciiDigit
  require (digits integer ∧ (bytes.contains 0x2e = true → digits fraction = true))
    (err "schema-type-mismatch" (debug value ++ " is not a decimal string: the form is digits, " ++
      "optionally a point and more digits — no sign, no exponent, no whitespace"))
  return (integer, fraction)

def trim (digits : List UInt8) : List UInt8 :=
  let trimmed := digits.dropWhile (· == 0x30)
  if trimmed.isEmpty then [0x30] else trimmed

/-- Digit by digit from the left, a missing digit being a zero. -/
def compareDigits (left right : List UInt8) : Ordering :=
  (List.range (max left.length right.length)).foldl
    (fun order i => order.then (Ord.compare (left.getD i 0x30) (right.getD i 0x30))) .eq

def compare (left right : String) : Result Ordering := do
  let (leftInt, leftFrac) ← parts left
  let (rightInt, rightFrac) ← parts right
  let leftInt := trim leftInt
  let rightInt := trim rightInt
  let integer := (Ord.compare leftInt.length rightInt.length).then (compareDigits leftInt rightInt)
  if integer ≠ .eq then return integer
  return compareDigits leftFrac rightFrac

def atMost (left right : String) : Result Bool := do
  return (← compare left right) != .gt

/-- The digit at a position counted from the right. -/
def digit (side : List UInt8) (index : Nat) : Nat :=
  (side.reverse.getD index 0x30).toNat - 0x30

/-- One position of a sum, carried on to the next. The digits are kept most significant first. -/
def addDigit (a b : List UInt8) (acc : List UInt8 × Nat) (index : Nat) : List UInt8 × Nat :=
  let total := digit a index + digit b index + acc.2
  (UInt8.ofNat (0x30 + total % 10) :: acc.1, total / 10)

def addDigits (a b : List UInt8) : List UInt8 :=
  let (sum, carry) := (List.range (max a.length b.length)).foldl (addDigit a b) ([], 0)
  if carry > 0 then UInt8.ofNat (0x30 + carry) :: sum else sum

def ofDigits (digits : List UInt8) : String :=
  String.ofList (digits.map fun b => Char.ofNat b.toNat)

def add (left right : String) : Result String := do
  let (leftInt, leftFrac) ← parts left
  let (rightInt, rightFrac) ← parts right
  let scale := max leftFrac.length rightFrac.length
  let pad := fun integer fraction : List UInt8 =>
    integer ++ fraction ++ List.replicate (scale - fraction.length) 0x30
  let a := pad leftInt leftFrac
  let b := pad rightInt rightFrac
  let digits := addDigits a b
  let integer := trim (digits.take (digits.length - scale))
  let fraction := digits.drop (digits.length - scale)
  let total := if scale = 0 then integer else integer ++ 0x2e :: fraction
  require (total.length ≤ maxLen)
    (err "schema-type-mismatch" s!"the sum of {left} and {right} exceeds {maxLen} characters")
  return ofDigits total

end Stozher.Decimal
