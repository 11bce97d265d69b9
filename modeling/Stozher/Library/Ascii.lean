import Stozher.Library.Digits
import Stozher.Library.FixedWidth

namespace Stozher.Library.Text

/-- The octet of an ASCII character. -/
def octetOf (c : Char) : UInt8 :=
  UInt8.ofNat c.toNat

theorem char_le_iff {c d : Char} : c ≤ d ↔ c.toNat ≤ d.toNat := by
  rw [Char.le_def, UInt32.le_iff_toNat_le]
  rfl

/-- What is checked of the 128 ASCII characters holds of each of them. -/
theorem ascii_induction {holds : Char → Prop} (each : ∀ n < 128, holds (Char.ofNat n)) {c : Char}
    (ascii : c.toNat < 128) : holds c := by
  have known := each c.toNat ascii
  rw [Char.ofNat_toNat] at known
  exact known

theorem toNat_octetOf {c : Char} (ascii : c.toNat < 128) : (octetOf c).toNat = c.toNat := by
  unfold octetOf
  rw [UInt8.toNat_ofNat']
  omega

/-- An ASCII text has an octet for each character. -/
theorem octets_of_ascii {s : String} (ascii : ∀ c ∈ s.toList, c.toNat < 128) : octets s = s.toList.map octetOf := by
  have all : ∀ chars : List Char, (∀ c ∈ chars, c.toNat < 128) →
      chars.flatMap String.utf8EncodeChar = chars.map octetOf := by
    intro chars
    induction chars with
    | nil => exact fun _ => rfl
    | cons first rest ih =>
        intro small
        have head : String.utf8EncodeChar first = [octetOf first] := by
          have known := utf8EncodeChar_ascii first.toNat (small first List.mem_cons_self)
          rw [Char.ofNat_toNat] at known
          exact known
        rw [List.flatMap_cons, head, ih fun c member => small c (List.mem_cons_of_mem _ member)]
        rfl
  have same := octets_ofList s.toList
  rw [String.ofList_toList] at same
  rw [same]
  exact all _ ascii

theorem utf8ByteSize_eq (s : String) : s.utf8ByteSize = (octets s).length := rfl

/-- The number that digit characters write is the number their octets write. -/
theorem decimalValue_octetOf {digits : List Char} (ascii : ∀ c ∈ digits, c.toNat < 128) :
    decimalValue (digits.map octetOf) = digits.foldl (fun value c => value * 10 + (c.toNat - 48)) 0 := by
  have general : ∀ (digits : List Char) (start : Nat), (∀ c ∈ digits, c.toNat < 128) →
      (digits.map octetOf).foldl (fun value b => value * 10 + (b.toNat - 0x30)) start =
        digits.foldl (fun value c => value * 10 + (c.toNat - 48)) start := by
    intro digits
    induction digits with
    | nil => exact fun _ _ => rfl
    | cons first rest ih =>
        intro start small
        rw [List.map_cons, List.foldl_cons, List.foldl_cons, toNat_octetOf (small first List.mem_cons_self)]
        exact ih _ fun c member => small c (List.mem_cons_of_mem _ member)
  exact general digits 0 ascii

end Stozher.Library.Text
