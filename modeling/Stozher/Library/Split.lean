import Mathlib.Algebra.Ring.Int.Defs
import Mathlib.Data.List.Basic
import Mathlib.Data.String.Basic

namespace Stozher.Library.Text

/-- A text cut at a separator into at most so many parts, the last of them uncut. -/
def splitN : Nat → Char → List Char → List (List Char)
  | 0, _, _ => []
  | 1, _, text => [text]
  | parts + 2, separator, text =>
      match text.dropWhile (· != separator) with
      | [] => [text]
      | _ :: rest => text.takeWhile (· != separator) :: splitN (parts + 1) separator rest

/-- A number without the sign that may stand before it. -/
def unsigned : List Char → List Char
  | '+' :: digits => digits
  | text => text

/-- A decimal number of 64 bits. -/
def parseU64 (text : List Char) : Option Nat :=
  let digits := unsigned text
  if digits ≠ [] ∧ digits.all Char.isDigit = true then
    (some (Nat.ofDigitChars 10 digits 0)).filter fun n => decide (n < 2 ^ 64)
  else none

/-- A decimal number of 64 bits with its sign. -/
def parseI64 (text : List Char) : Option Int :=
  let digits := if text.head? = some '-' then text.tail else unsigned text
  if digits ≠ [] ∧ digits.all Char.isDigit = true then
    let magnitude : Int := Nat.ofDigitChars 10 digits 0
    let value := if text.head? = some '-' then -magnitude else magnitude
    if -(2 ^ 63) ≤ value ∧ value < 2 ^ 63 then some value else none
  else none

theorem splitN_separated {parts : Nat} {separator : Char} {first rest : List Char} (plain : separator ∉ first) :
    splitN (parts + 2) separator (first ++ separator :: rest) = first :: splitN (parts + 1) separator rest := by
  have other : ∀ c ∈ first, (c != separator) = true := by
    intro c member
    rw [bne_iff_ne]
    rintro rfl
    exact plain member
  have dropped : (first ++ separator :: rest).dropWhile (· != separator) = separator :: rest := by
    rw [List.dropWhile_append_of_pos other, List.dropWhile_cons, bne_self_eq_false]
    rfl
  have taken : (first ++ separator :: rest).takeWhile (· != separator) = first := by
    rw [List.takeWhile_append_of_pos other, List.takeWhile_cons, bne_self_eq_false]
    simp
  rw [splitN, dropped]
  dsimp only
  rw [taken]

theorem isDigit_of_mem_toString {n : Nat} {c : Char} (member : c ∈ (toString n).toList) : c.isDigit = true := by
  rw [Nat.toString_eq_ofList_toDigits, String.toList_ofList] at member
  exact Nat.isDigit_of_mem_toDigits (by decide) (by decide) member

theorem parseU64_toString {n : Nat} (fits : n < 2 ^ 64) : parseU64 (toString n).toList = some n := by
  have digits : ∀ c ∈ (toString n).toList, c.isDigit = true := fun c member => isDigit_of_mem_toString member
  have value : Nat.ofDigitChars 10 (toString n).toList 0 = n := by
    rw [Nat.toString_eq_ofList_toDigits, String.toList_ofList, Nat.ofDigitChars_ten_toDigits]
  have nonempty : (toString n).toList ≠ [] := by
    rw [Nat.toString_eq_ofList_toDigits, String.toList_ofList]
    exact Nat.toDigits_ne_nil
  have bare : unsigned (toString n).toList = (toString n).toList := by
    unfold unsigned
    split
    · rename_i rest signed
      have plus := digits '+' (by rw [signed]; exact List.mem_cons_self)
      exact absurd plus (by decide)
    · rfl
  unfold parseU64
  dsimp only
  rw [bare, if_pos ⟨nonempty, List.all_eq_true.mpr digits⟩, value, Option.filter_some,
    if_pos (decide_eq_true fits)]

end Stozher.Library.Text
