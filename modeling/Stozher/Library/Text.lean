import Mathlib.Data.List.Basic
import Mathlib.Data.String.Basic

namespace Stozher.Library.Text

/-- The UTF-8 octets of a text. -/
def octets (text : String) : List UInt8 :=
  text.toByteArray.data.toList

def startsWith (text start : String) : Bool :=
  (octets start).isPrefixOf (octets text)

def stripPrefix (text start : String) : Option String :=
  if startsWith text start then some (String.ofList (text.toList.drop start.toList.length)) else none

def stripSuffix (text ending : String) : Option String :=
  if ending.toList.isSuffixOf text.toList then
    some (String.ofList (text.toList.take (text.toList.length - ending.toList.length)))
  else none

def contains (text : String) (c : Char) : Bool :=
  text.toList.contains c

def isAsciiDigit (b : UInt8) : Bool :=
  0x30 ≤ b && b ≤ 0x39

def isAsciiLowercase (b : UInt8) : Bool :=
  0x61 ≤ b && b ≤ 0x7a

def isAsciiUppercase (b : UInt8) : Bool :=
  0x41 ≤ b && b ≤ 0x5a

def isAsciiAlphanumeric (b : UInt8) : Bool :=
  isAsciiDigit b || isAsciiLowercase b || isAsciiUppercase b

def isLowerHexDigit (b : UInt8) : Bool :=
  isAsciiDigit b || (0x61 ≤ b && b ≤ 0x66)

def isAsciiHexDigit (b : UInt8) : Bool :=
  isLowerHexDigit b || (0x41 ≤ b && b ≤ 0x46)

/-- The value of a run of ASCII digits. -/
def decimalValue (digits : List UInt8) : Nat :=
  digits.foldl (fun value b => value * 10 + (b.toNat - 0x30)) 0

theorem octets_append (first second : String) :
    octets (first ++ second) = octets first ++ octets second := by
  simp [octets, String.toByteArray_append]

/-- The octets of one text begin with another's exactly when its characters do. -/
theorem octets_prefix_iff {text start : String} :
    octets start <+: octets text ↔ start.toList <+: text.toList := by
  constructor
  · rintro ⟨rest, joined⟩
    refine List.isPrefix_of_utf8Encode_append_eq_utf8Encode ⟨rest.toArray⟩ ?_
    rw [String.utf8Encode_toList, String.utf8Encode_toList]
    apply ByteArray.ext
    apply Array.toList_inj.mp
    simpa [octets] using joined
  · rintro ⟨rest, joined⟩
    have whole : text = start ++ String.ofList rest := by
      apply String.toList_injective
      simp [← joined]
    rw [whole, octets_append]
    exact List.prefix_append _ _

theorem startsWith_iff {text start : String} :
    startsWith text start = true ↔ ∃ rest, text = start ++ rest := by
  unfold startsWith
  rw [List.isPrefixOf_iff_prefix, octets_prefix_iff]
  constructor
  · rintro ⟨rest, joined⟩
    refine ⟨String.ofList rest, ?_⟩
    apply String.toList_injective
    simp [← joined]
  · rintro ⟨rest, rfl⟩
    exact ⟨rest.toList, by simp⟩

theorem stripPrefix_eq_some {text start rest : String} :
    stripPrefix text start = some rest ↔ text = start ++ rest := by
  unfold stripPrefix
  split
  · rename_i begins
    obtain ⟨tail, rfl⟩ := startsWith_iff.mp begins
    simp [String.append_right_inj]
  · rename_i other
    constructor
    · intro absent
      cases absent
    · intro joined
      exact absurd (startsWith_iff.mpr ⟨rest, joined⟩) other

/-- The octet after a text within a longer one is the first octet of what follows. -/
theorem octets_after (first rest : String) :
    (octets (first ++ rest))[first.utf8ByteSize]? = (octets rest).head? := by
  have size : first.utf8ByteSize = (octets first).length := by simp [octets]
  rw [octets_append, size, List.getElem?_append_right (le_refl _), Nat.sub_self, List.head?_eq_getElem?]

theorem head_octet_dot {rest : String} :
    (octets rest).head? = some 0x2e ↔ rest.toList.head? = some '.' := by
  have one : ∀ {α : Type} (c : α) (items : List α), [c] <+: items ↔ items.head? = some c := by
    intro α c items
    cases items with
    | nil => simp
    | cons first others => simp [List.cons_prefix_cons, eq_comm]
  have dot : octets "." = [0x2e] := by decide
  rw [← one, ← one, ← dot]
  exact octets_prefix_iff

/-- A text goes on with a dot after another, counted in octets and counted in characters. -/
theorem dotted_iff {text stem : String} :
    (stem.utf8ByteSize < text.utf8ByteSize ∧ startsWith text stem = true ∧
        (octets text)[stem.utf8ByteSize]? = some 0x2e) ↔
      startsWith text stem = true ∧ stem.toList.length < text.toList.length ∧
        text.toList[stem.toList.length]? = some '.' := by
  by_cases starts : startsWith text stem = true
  · obtain ⟨rest, rfl⟩ := startsWith_iff.mp starts
    have characters : (stem ++ rest).toList[stem.toList.length]? = rest.toList.head? := by
      rw [String.toList_append, List.getElem?_append_right (le_refl _), Nat.sub_self,
        List.head?_eq_getElem?]
    rw [octets_after, head_octet_dot, characters]
    have nonempty : rest.toList.head? = some '.' →
        stem.utf8ByteSize < (stem ++ rest).utf8ByteSize ∧
          stem.toList.length < (stem ++ rest).toList.length := by
      intro dot
      have some_ : rest ≠ "" := by
        intro empty
        rw [empty] at dot
        cases dot
      constructor
      · rw [String.utf8ByteSize_append]
        have := String.utf8ByteSize_eq_zero_iff.not.mpr some_
        omega
      · rw [String.toList_append, List.length_append]
        have := List.length_pos_iff.mpr (fun empty => some_ (String.toList_eq_nil_iff.mp empty))
        omega
    constructor
    · intro ⟨_, begins, dot⟩
      exact ⟨begins, (nonempty dot).2, dot⟩
    · intro ⟨begins, _, dot⟩
      exact ⟨(nonempty dot).1, begins, dot⟩
  · simp [starts]

theorem utf8EncodeChar_ascii : ∀ n < 128, String.utf8EncodeChar (Char.ofNat n) = [UInt8.ofNat n] := by
  decide +kernel

theorem flatMap_ascii {bytes : List UInt8} (ascii : ∀ b ∈ bytes, b.toNat < 128) :
    (bytes.map fun b => Char.ofNat b.toNat).flatMap String.utf8EncodeChar = bytes := by
  induction bytes with
  | nil => rfl
  | cons first rest ih =>
      have small := ascii first List.mem_cons_self
      rw [List.map_cons, List.flatMap_cons, utf8EncodeChar_ascii _ small,
        ih fun b member => ascii b (List.mem_cons_of_mem _ member), UInt8.ofNat_toNat,
        List.singleton_append]

/-- The text of some ASCII octets. -/
def ofAscii (bytes : List UInt8) (ascii : ∀ b ∈ bytes, b.toNat < 128) : String where
  toByteArray := ⟨⟨bytes⟩⟩
  isValidUTF8 := by
    refine ⟨bytes.map fun b => Char.ofNat b.toNat, ?_⟩
    unfold List.utf8Encode
    rw [flatMap_ascii ascii]
    apply ByteArray.ext
    rw [List.data_toByteArray]

def hexDigit (d : Nat) : UInt8 :=
  UInt8.ofNat (if d < 10 then 0x30 + d else 0x57 + d)

/-- The lowest hexadecimal digits of a number, most significant first. -/
def hexDigits : Nat → Nat → List UInt8
  | 0, _ => []
  | width + 1, n => hexDigit (n / 16 ^ width % 16) :: hexDigits width n

theorem hexDigit_ascii : ∀ d < 16, (hexDigit d).toNat < 128 := by decide

theorem hexDigits_ascii (width n : Nat) : ∀ b ∈ hexDigits width n, b.toNat < 128 := by
  induction width with
  | zero => simp [hexDigits]
  | succ width ih =>
      intro b member
      rcases List.mem_cons.mp member with rfl | later
      · exact hexDigit_ascii _ (Nat.mod_lt _ (by decide))
      · exact ih b later

/-- A number in lowercase hexadecimal. -/
def hex (width n : Nat) : String :=
  ofAscii (hexDigits width n) (hexDigits_ascii width n)

end Stozher.Library.Text
