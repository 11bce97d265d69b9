import Stozher.CanonicalAgreement
import Stozher.JcsParse
import Stozher.JsonText
import Mathlib.Tactic.IntervalCases

namespace Stozher

open Library Library.Text

namespace Number

theorem ofCanonical_unsigned {bits : Binary64} {n : Nat} (whole : bits.wholeMagnitude = some n)
    (unsigned : ¬(bits.isNegative = true ∧ n ≠ 0)) (fits : n < 2 ^ 64) : ofCanonical bits = posInt n fits := by
  by_cases sign : bits.isNegative = false
  · exact ofCanonical_posInt whole sign fits
  · have zero : n = 0 := by
      by_contra nonzero
      exact unsigned ⟨Bool.eq_true_of_not_eq_false sign, nonzero⟩
    unfold ofCanonical
    rw [whole]
    dsimp only
    rw [dif_neg (fun all => all.2.1 zero), dif_pos ⟨.inr zero, fits⟩]

/-- However an integer is kept, its plain spelling is kept as an integer. -/
theorem ofCanonical_safe {n : Number} (integral : n.Integral) : (ofCanonical n.asF64).isSafe := by
  obtain ⟨magnitude, small, whole⟩ := integral
  by_cases negative : n.asF64.isNegative = true ∧ magnitude ≠ 0
  · have positive : 0 < magnitude := Nat.pos_of_ne_zero negative.2
    rw [ofCanonical_negInt whole negative.1 (Eq.refl (-(magnitude : Int))) ⟨by omega, by omega⟩]
    show -2 ^ 53 < -(magnitude : Int)
    omega
  · rw [ofCanonical_unsigned whole negative (by omega)]
    exact small

theorem ofCanonical_of_safe {n : Number} (safe : n.isSafe) : ofCanonical n.asF64 = n := by
  have canonical := Jcs.canonicalNumber_of_safe safe
  unfold Jcs.canonicalNumber at canonical
  obtain ⟨_, same⟩ := require_bind_eq_ok.mp canonical
  exact Except.ok.inj same

end Number

namespace Value

mutual

/-- The value with its integers spelled in one way each. -/
def plain : Value → Value
  | .number n => .number (Number.ofCanonical n.asF64)
  | .array items => .array (plainItems items)
  | .object members => .object (plainMembers members)
  | value => value

def plainItems : List Value → List Value
  | [] => []
  | item :: rest => plain item :: plainItems rest

def plainMembers : List (String × Value) → List (String × Value)
  | [] => []
  | (name, value) :: rest => (name, plain value) :: plainMembers rest

end

mutual

/-- The plain value with its members in the canonical order. -/
def arranged : Value → Value
  | .number n => .number (Number.ofCanonical n.asF64)
  | .array items => .array (arrangedItems items)
  | .object members => .object (sortBy (fun member => encodeUtf16 member.1) (arrangedMembers members))
  | value => value

def arrangedItems : List Value → List Value
  | [] => []
  | item :: rest => arranged item :: arrangedItems rest

def arrangedMembers : List (String × Value) → List (String × Value)
  | [] => []
  | (name, value) :: rest => (name, arranged value) :: arrangedMembers rest

end

mutual

/-- How many arrays and objects stand within each other. -/
def nesting : Value → Nat
  | .array items => nestingItems items + 1
  | .object members => nestingMembers members + 1
  | _ => 0

def nestingItems : List Value → Nat
  | [] => 0
  | item :: rest => max (nesting item) (nestingItems rest)

def nestingMembers : List (String × Value) → Nat
  | [] => 0
  | (_, value) :: rest => max (nesting value) (nestingMembers rest)

end

/-- A value whose objects are maps: no name stands twice in one. -/
inductive Maps : Value → Prop where
  | scalar {value : Value} : value.asArray = none → value.asObject = none → Maps value
  | array {items : List Value} : (∀ item ∈ items, Maps item) → Maps (.array items)
  | object {members : Members} : (members.map Prod.fst).Nodup → (∀ member ∈ members, Maps member.2) →
      Maps (.object members)

theorem plain_array (items : List Value) : plain (.array items) = .array (items.map plain) := by
  have each : plainItems items = items.map plain := by
    induction items with
    | nil => rfl
    | cons first rest ih =>
        unfold plainItems
        rw [ih, List.map_cons]
  rw [plain, each]

theorem plain_object (members : Members) :
    plain (.object members) = .object (members.map fun member => (member.1, plain member.2)) := by
  have each : plainMembers members = members.map fun member => (member.1, plain member.2) := by
    induction members with
    | nil => rfl
    | cons first rest ih =>
        unfold plainMembers
        rw [ih, List.map_cons]
  rw [plain, each]

theorem arranged_array (items : List Value) : arranged (.array items) = .array (items.map arranged) := by
  have each : arrangedItems items = items.map arranged := by
    induction items with
    | nil => rfl
    | cons first rest ih =>
        unfold arrangedItems
        rw [ih, List.map_cons]
  rw [arranged, each]

theorem arranged_object (members : Members) : arranged (.object members) =
    .object ((sortBy (fun member => encodeUtf16 member.1) members).map fun member => (member.1, arranged member.2)) := by
  have each : arrangedMembers members = members.map fun member => (member.1, arranged member.2) := by
    induction members with
    | nil => rfl
    | cons first rest ih =>
        unfold arrangedMembers
        rw [ih, List.map_cons]
  rw [arranged, each]
  exact congrArg Value.object (map_sortBy _ (fun member => rfl) members).symm

end Value

namespace JsonText

open Jcs.Text

variable {nearest : List Char → Binary64} {rest : List Char}

theorem readChar_control : ∀ code < 0x20, ∀ rest,
    readChar (writeChar (Char.ofNat code) ++ rest) = some (Char.ofNat code, rest) := by
  intro code small rest
  interval_cases code <;> rfl

theorem writeChar_plain {c : Char} (quote : c ≠ '"') (backslash : c ≠ '\\') (visible : 0x20 ≤ c.toNat) :
    writeChar c = [c] := by
  have noQuote : c.toNat ≠ 0x22 := fun same => quote (Char.toNat_inj.mp same)
  have noBackslash : c.toNat ≠ 0x5c := fun same => backslash (Char.toNat_inj.mp same)
  unfold writeChar
  split <;> first | omega | contradiction | skip
  exact if_neg (Nat.not_lt.mpr visible)

theorem readChar_plain {c : Char} (quote : c ≠ '"') (backslash : c ≠ '\\') (visible : 0x20 ≤ c.toNat) (rest : List Char) :
    readChar (c :: rest) = some (c, rest) := by
  unfold readChar
  split
  · contradiction
  · rename_i same
    exact absurd (List.cons.inj same).1 backslash
  · rename_i same
    exact absurd (List.cons.inj same).1 backslash
  · rename_i same
    obtain ⟨rfl, rfl⟩ := List.cons.inj same
    rw [if_neg]
    simp only [Bool.or_eq_true, beq_iff_eq, decide_eq_true_iff, not_or]
    exact ⟨⟨quote, backslash⟩, Nat.not_lt.mpr visible⟩

/-- A character is read back from how it is written. -/
theorem readChar_writeChar (c : Char) (rest : List Char) : readChar (writeChar c ++ rest) = some (c, rest) := by
  by_cases control : c.toNat < 0x20
  · have read := readChar_control c.toNat control rest
    rwa [Char.ofNat_toNat] at read
  by_cases quote : c = '"'
  · subst quote
    rfl
  by_cases backslash : c = '\\'
  · subst backslash
    rfl
  have visible := Nat.not_lt.mp control
  rw [writeChar_plain quote backslash visible]
  exact readChar_plain quote backslash visible rest

/-- What is written for a character does not begin as the end of a string does. -/
theorem writeChar_head (c : Char) : ∃ first more, writeChar c = first :: more ∧ first ≠ '"' := by
  have controls : ∀ code < 0x20, ∃ more, writeChar (Char.ofNat code) = '\\' :: more := by
    intro code small
    interval_cases code <;> exact ⟨_, rfl⟩
  by_cases control : c.toNat < 0x20
  · obtain ⟨more, written⟩ := controls c.toNat control
    rw [Char.ofNat_toNat] at written
    exact ⟨_, more, written, by decide⟩
  by_cases quote : c = '"'
  · subst quote
    exact ⟨_, _, rfl, by decide⟩
  by_cases backslash : c = '\\'
  · subst backslash
    exact ⟨_, _, rfl, by decide⟩
  exact ⟨c, [], writeChar_plain quote backslash (Nat.not_lt.mp control), quote⟩

theorem readChars_write (characters : List Char) {fuel : Nat} (enough : characters.length < fuel) :
    readChars fuel (characters.flatMap writeChar ++ '"' :: rest) = some (characters, rest) := by
  induction characters generalizing fuel with
  | nil =>
      cases fuel with
      | zero => cases enough
      | succ fuel => rfl
  | cons c more ih =>
      cases fuel with
      | zero => cases enough
      | succ fuel =>
          obtain ⟨first, others, written, differs⟩ := writeChar_head c
          have opens : (writeChar c ++ (more.flatMap writeChar ++ '"' :: rest)).head? ≠ some '"' := by
            rw [written]
            exact fun same => differs (Option.some.inj same)
          unfold readChars
          rw [List.flatMap_cons, List.append_assoc, if_neg opens, readChar_writeChar]
          have later := ih (Nat.lt_of_succ_lt_succ enough)
          show ((readChars fuel (more.flatMap writeChar ++ '"' :: rest)).bind fun read => some (c :: read.1, read.2)) = _
          rw [later]
          rfl

theorem length_le_written (characters : List Char) : characters.length ≤ (characters.flatMap writeChar).length := by
  induction characters with
  | nil => exact Nat.le_refl 0
  | cons c more ih =>
      obtain ⟨first, others, written, _⟩ := writeChar_head c
      rw [List.flatMap_cons, List.length_append, written, List.length_cons, List.length_cons]
      omega

theorem readString_write (s : String) :
    readString (s.toList.flatMap writeChar ++ '"' :: rest) = some (s, rest) := by
  have room := length_le_written s.toList
  have read : readChars ((s.toList.flatMap writeChar ++ '"' :: rest).length + 1)
      (s.toList.flatMap writeChar ++ '"' :: rest) = some (s.toList, rest) := by
    apply readChars_write
    rw [List.length_append, List.length_cons]
    omega
  unfold readString
  rw [read]
  show some (String.ofList s.toList, rest) = _
  rw [String.ofList_toList]

/-- Nothing that carries a number on. -/
def Boundary (rest : List Char) : Prop :=
  ∀ c, rest.head? = some c → isDigit c = false ∧ c ≠ '.' ∧ c ≠ 'e' ∧ c ≠ 'E'

theorem boundary_cons {c : Char} (stops : isDigit c = false ∧ c ≠ '.' ∧ c ≠ 'e' ∧ c ≠ 'E') : Boundary (c :: rest) := by
  intro d same
  rwa [← Option.some.inj same]

theorem readFraction_boundary (stops : Boundary rest) : readFraction rest = some ([], rest) := by
  unfold readFraction
  exact if_neg fun point => (stops '.' point).2.1 rfl

theorem readExponent_boundary (stops : Boundary rest) : readExponent rest = some ([], rest) := by
  unfold readExponent
  rw [if_neg]
  rintro (small | large)
  · exact (stops 'e' small).2.2.1 rfl
  · exact (stops 'E' large).2.2.2 rfl

theorem isDigit_written {magnitude : Nat} : ∀ c ∈ Nat.toDigits 10 magnitude, isDigit c = true := by
  intro c member
  unfold isDigit
  rw [Bool.and_eq_true, decide_eq_true_iff, decide_eq_true_iff]
  exact toDigits_bounds member

theorem decimal_written (magnitude : Nat) : decimal (Nat.toDigits 10 magnitude) = magnitude := by
  have folded : decimal (Nat.toDigits 10 magnitude) = Nat.ofDigitChars 10 (Nat.toDigits 10 magnitude) 0 := by
    rw [Nat.ofDigitChars_eq_foldl]
    unfold decimal
    congr 1
    funext value c
    rw [Nat.mul_comm]
    rfl
  rw [folded, Nat.ofDigitChars_ten_toDigits]

theorem takeWhile_written (magnitude : Nat) (stops : Boundary rest) :
    (Nat.toDigits 10 magnitude ++ rest).takeWhile isDigit = Nat.toDigits 10 magnitude := by
  have none : rest.takeWhile isDigit = [] := by
    cases rest with
    | nil => rfl
    | cons c more =>
        apply List.takeWhile_cons_of_neg
        rw [(stops c rfl).1]
        decide
  rw [List.takeWhile_append_of_pos isDigit_written, none, List.append_nil]

/-- The digits of a number up to a boundary are all of them, a zero standing alone. -/
theorem digits_written (magnitude : Nat) :
    (if (Nat.toDigits 10 magnitude).head? = some '0' then ['0'] else Nat.toDigits 10 magnitude) =
      Nat.toDigits 10 magnitude := by
  by_cases zero : magnitude = 0
  · subst zero
    rfl
  · exact if_neg (Gateway.Canonical.toDigits_head (Nat.pos_of_ne_zero zero))

theorem readNumber_signed (negative : Bool) (magnitude : Nat) (stops : Boundary rest) :
    ∃ token, readNumber nearest ((if negative then ['-'] else []) ++ (Nat.toDigits 10 magnitude ++ rest)) =
      some (numberOf nearest token negative (Nat.toDigits 10 magnitude) true, rest) := by
  obtain ⟨text, isText⟩ : ∃ text, text = (if negative then ['-'] else []) ++ (Nat.toDigits 10 magnitude ++ rest) :=
    ⟨_, rfl⟩
  have sign : (text.head? == some '-') = negative := by
    rw [isText]
    cases negative with
    | true => rfl
    | false =>
        rw [if_neg (by decide), List.nil_append, List.head?_append_of_ne_nil _ Nat.toDigits_ne_nil]
        have nonempty : Nat.toDigits 10 magnitude ≠ [] := Nat.toDigits_ne_nil
        have digits : ∀ c ∈ Nat.toDigits 10 magnitude, isDigit c = true := isDigit_written
        cases written : Nat.toDigits 10 magnitude with
        | nil => exact absurd written nonempty
        | cons first more =>
            rw [beq_eq_false_iff_ne]
            intro same
            have digit := digits first (by rw [written]; exact List.mem_cons_self)
            rw [Option.some.inj same] at digit
            exact absurd digit (by decide)
  have unsigned : text.drop (if negative then 1 else 0) = Nat.toDigits 10 magnitude ++ rest := by
    rw [isText]
    cases negative <;> rfl
  refine ⟨text.take (text.length - rest.length), ?_⟩
  rw [← isText]
  unfold readNumber
  dsimp only
  rw [sign, unsigned, takeWhile_written magnitude stops, digits_written, if_neg Nat.toDigits_ne_nil, List.drop_left]
  rw [readFraction_boundary stops]
  show ((readExponent rest).bind fun read =>
    some (numberOf nearest (text.take (text.length - read.2.length)) negative (Nat.toDigits 10 magnitude)
      (List.isEmpty [] && read.1.isEmpty), read.2)) = _
  rw [readExponent_boundary stops]
  rfl

/-- An integer is read back as the one its decimal text spells. -/
theorem readNumber_decimalText {n : Number} (integral : n.Integral) (stops : Boundary rest) :
    readNumber nearest (n.decimalText ++ rest) = some (Number.ofCanonical n.asF64, rest) := by
  obtain ⟨magnitude, small, whole⟩ := integral
  have text : n.decimalText ++ rest =
      (if decide (n.asF64.isNegative = true ∧ magnitude ≠ 0) then ['-'] else []) ++ (Nat.toDigits 10 magnitude ++ rest) := by
    unfold Number.decimalText
    dsimp only
    rw [whole, Option.getD_some, List.append_assoc]
    congr 1
    exact if_congr decide_eq_true_iff.symm rfl rfl
  obtain ⟨token, read⟩ := @readNumber_signed nearest rest
    (decide (n.asF64.isNegative = true ∧ magnitude ≠ 0)) magnitude stops
  rw [text, read]
  congr 2
  unfold numberOf
  by_cases negative : n.asF64.isNegative = true ∧ magnitude ≠ 0
  · have positive : 0 < magnitude := Nat.pos_of_ne_zero negative.2
    rw [decide_eq_true negative, dif_pos (by rw [decimal_written]; exact ⟨rfl, rfl, positive, by omega⟩)]
    rw [Number.ofCanonical_negInt whole negative.1 (Eq.refl (-(magnitude : Int))) ⟨by omega, by omega⟩]
    congr 1
    rw [decimal_written]
  · rw [decide_eq_false negative, dif_neg (fun all => absurd all.2.1 (by decide)),
      dif_pos (by rw [decimal_written]; exact ⟨rfl, rfl, by omega⟩), Number.ofCanonical_unsigned whole negative (by omega)]
    congr 1
    exact decimal_written magnitude

theorem skipSpace_cons {c : Char} (visible : isSpace c = false) (rest : List Char) : skipSpace (c :: rest) = c :: rest := by
  apply List.dropWhile_cons_of_neg
  rw [visible]
  decide

/-- What the text of a value begins with: no space, and no bracket that closes. -/
theorem render_head {value : Value} : ∃ first more, render value = first :: more ∧
    isSpace first = false ∧ first ≠ ']' := by
  have digits : ∀ c, isDigit c = true → isSpace c = false ∧ c ≠ ']' := by
    intro c digit
    constructor
    · unfold isSpace
      simp only [Bool.or_eq_false_iff, beq_eq_false_iff_ne]
      refine ⟨⟨⟨?_, ?_⟩, ?_⟩, ?_⟩ <;>
        · rintro rfl
          exact absurd digit (by decide)
    · rintro rfl
      exact absurd digit (by decide)
  cases value with
  | null => exact ⟨_, _, rfl, by decide, by decide⟩
  | bool b => cases b <;> exact ⟨_, _, rfl, by decide, by decide⟩
  | number n =>
      unfold render Number.decimalText
      dsimp only
      split
      · exact ⟨_, _, rfl, by decide, by decide⟩
      · rw [List.nil_append]
        cases written : Nat.toDigits 10 (n.asF64.wholeMagnitude.getD 0) with
        | nil => exact absurd written Nat.toDigits_ne_nil
        | cons first more =>
            exact ⟨first, more, rfl, digits first (isDigit_written first (by rw [written]; exact List.mem_cons_self))⟩
  | string s => exact ⟨_, _, rfl, by decide, by decide⟩
  | array items => exact ⟨_, _, rfl, by decide, by decide⟩
  | object members => exact ⟨_, _, rfl, by decide, by decide⟩

theorem skipSpace_render (value : Value) (rest : List Char) : skipSpace (render value ++ rest) = render value ++ rest := by
  obtain ⟨first, more, text, visible, _⟩ := @render_head value
  rw [text, List.cons_append, skipSpace_cons visible]

/-- The text of a value is read back as the value arranged, in fuel twice its length. -/
def ReadsBack (nearest : List Char → Binary64) (value : Value) : Prop :=
  ∀ fuel rest, 2 * (render value).length ≤ fuel → Boundary rest →
    readValue nearest fuel (render value ++ rest) = some (value.arranged, rest)

theorem separated_cons (first second : List Char) (rest : List (List Char)) :
    separated (first :: second :: rest) = first ++ ',' :: separated (second :: rest) := by
  unfold separated
  rw [List.intercalate_cons_cons, List.append_assoc, List.singleton_append]

theorem skipSpace_separated {part : List Char} {parts : List (List Char)}
    (visible : ∃ first more, part = first :: more ∧ isSpace first = false) (rest : List Char) :
    skipSpace (separated (part :: parts) ++ rest) = separated (part :: parts) ++ rest := by
  obtain ⟨first, more, rfl, shown⟩ := visible
  cases parts with
  | nil =>
      have one : separated [first :: more] = first :: more := List.intercalate_singleton
      rw [one]
      exact skipSpace_cons shown _
  | cons second others =>
      rw [separated_cons]
      exact skipSpace_cons shown _

theorem readItems_write {items : List Value} (each : ∀ item ∈ items, ReadsBack nearest item) (some_ : items ≠ [])
    {fuel : Nat} (enough : 2 * (separated (items.map render)).length + 1 ≤ fuel) :
    readItems nearest fuel (separated (items.map render) ++ ']' :: rest) =
      some (items.map Value.arranged, rest) := by
  induction items generalizing fuel with
  | nil => contradiction
  | cons item others ih =>
      cases fuel with
      | zero => cases enough
      | succ fuel =>
          have first := each item List.mem_cons_self
          unfold readItems
          cases others with
          | nil =>
              have one : separated ([item].map render) = render item := List.intercalate_singleton
              rw [one] at enough ⊢
              rw [first fuel (']' :: rest) (by omega) (boundary_cons (by decide))]
              rfl
          | cons second others =>
              have text : separated ((item :: second :: others).map render) =
                  render item ++ ',' :: separated ((second :: others).map render) := separated_cons _ _ _
              have later : ∀ fuel, 2 * (separated ((second :: others).map render)).length + 1 ≤ fuel →
                  readItems nearest fuel (separated ((second :: others).map render) ++ ']' :: rest) =
                    some ((second :: others).map Value.arranged, rest) :=
                fun fuel room => ih (fun item member => each item (List.mem_cons_of_mem _ member)) (by simp) room
              rw [text, List.length_append, List.length_cons] at enough
              rw [text, List.append_assoc, List.cons_append]
              rw [first fuel _ (by omega) (boundary_cons (by decide))]
              have starts : skipSpace (separated ((second :: others).map render) ++ ']' :: rest) =
                  separated ((second :: others).map render) ++ ']' :: rest := by
                obtain ⟨c, more, shown, visible, _⟩ := @render_head second
                exact skipSpace_separated ⟨c, more, shown, visible⟩ _
              show ((readItems nearest fuel (skipSpace (separated ((second :: others).map render) ++ ']' :: rest))).bind
                fun read => some (item.arranged :: read.1, read.2)) = _
              rw [starts, later fuel (by omega)]
              rfl

def memberText (member : String × Value) : List Char :=
  writeString member.1 ++ ':' :: render member.2

theorem memberText_append (member : String × Value) (rest : List Char) : memberText member ++ rest =
    '"' :: (member.1.toList.flatMap writeChar ++ '"' :: ':' :: (render member.2 ++ rest)) := by
  unfold memberText writeString
  simp

theorem readMember_quote (fuel : Nat) (rest : List Char) : readMember nearest (fuel + 1) ('"' :: rest) = (do
    let (name, rest) ← readString rest
    let ':' :: rest := skipSpace rest | none
    let (value, rest) ← readValue nearest fuel (skipSpace rest)
    some ((name, value), rest)) := rfl

theorem readMember_write {member : String × Value} (reads : ReadsBack nearest member.2) {fuel : Nat}
    (enough : 2 * (memberText member).length ≤ fuel) (stops : Boundary rest) :
    readMember nearest fuel (memberText member ++ rest) = some ((member.1, member.2.arranged), rest) := by
  have longer : (render member.2).length + 1 ≤ (memberText member).length := by
    unfold memberText
    rw [List.length_append, List.length_cons]
    omega
  cases fuel with
  | zero => omega
  | succ fuel =>
      rw [memberText_append, readMember_quote, readString_write]
      show ((readValue nearest fuel (skipSpace (render member.2 ++ rest))).bind
        fun (value, rest) => some ((member.1, value), rest)) = _
      rw [skipSpace_render, reads fuel rest (by omega) stops]
      rfl

theorem readMembers_write {members : Members} (each : ∀ member ∈ members, ReadsBack nearest member.2) (some_ : members ≠ [])
    {fuel : Nat} (enough : 2 * (separated (members.map memberText)).length + 1 ≤ fuel) :
    readMembers nearest fuel (separated (members.map memberText) ++ '\x7d' :: rest) =
      some (members.map fun member => (member.1, member.2.arranged), rest) := by
  induction members generalizing fuel with
  | nil => contradiction
  | cons member others ih =>
      cases fuel with
      | zero => cases enough
      | succ fuel =>
          have first := each member List.mem_cons_self
          unfold readMembers
          cases others with
          | nil =>
              have one : separated ([member].map memberText) = memberText member := List.intercalate_singleton
              rw [one] at enough ⊢
              rw [readMember_write first (by omega) (boundary_cons (by decide))]
              rfl
          | cons second others =>
              have text : separated ((member :: second :: others).map memberText) =
                  memberText member ++ ',' :: separated ((second :: others).map memberText) := separated_cons _ _ _
              have later : ∀ fuel, 2 * (separated ((second :: others).map memberText)).length + 1 ≤ fuel →
                  readMembers nearest fuel (separated ((second :: others).map memberText) ++ '\x7d' :: rest) =
                    some ((second :: others).map fun member => (member.1, member.2.arranged), rest) :=
                fun fuel room => ih (fun member inside => each member (List.mem_cons_of_mem _ inside)) (by simp) room
              have starts : skipSpace (separated ((second :: others).map memberText) ++ '\x7d' :: rest) =
                  separated ((second :: others).map memberText) ++ '\x7d' :: rest :=
                skipSpace_separated ⟨'"', _, rfl, by decide⟩ _
              rw [text, List.length_append, List.length_cons] at enough
              rw [text, List.append_assoc, List.cons_append]
              rw [readMember_write first (by omega) (boundary_cons (by decide))]
              show ((readMembers nearest fuel (skipSpace (separated ((second :: others).map memberText) ++ '\x7d' :: rest))).bind
                fun read => some ((member.1, member.2.arranged) :: read.1, read.2)) = _
              rw [starts, later fuel (by omega)]
              rfl

theorem readValue_quote (fuel : Nat) (rest : List Char) :
    readValue nearest (fuel + 1) ('"' :: rest) = (readString rest).map fun (s, rest) => (.string s, rest) := rfl

theorem readValue_bracket (fuel : Nat) (rest : List Char) : readValue nearest (fuel + 1) ('[' :: rest) =
    if (skipSpace rest).head? = some ']' then some (.array [], (skipSpace rest).drop 1)
    else (readItems nearest fuel (skipSpace rest)).map fun (items, rest) => (.array items, rest) := rfl

theorem readValue_brace (fuel : Nat) (rest : List Char) : readValue nearest (fuel + 1) ('\x7b' :: rest) =
    if (skipSpace rest).head? = some '\x7d' then some (.object [], (skipSpace rest).drop 1)
    else (readMembers nearest fuel (skipSpace rest)).map fun (members, rest) => (.object members, rest) := rfl

theorem readValue_number {c : Char} (starts : isDigit c = true ∨ c = '-') (fuel : Nat) (more : List Char) :
    readValue nearest (fuel + 1) (c :: more) = (readNumber nearest (c :: more)).map fun (n, rest) => (.number n, rest) := by
  unfold readValue
  split
  all_goals
    first
      | rfl
      | rename_i same
        obtain ⟨rfl, _⟩ := List.cons.inj same
        rcases starts with digit | minus
        · exact absurd digit (by decide)
        · exact absurd minus (by decide)

theorem decimalText_head (n : Number) : ∃ c more, n.decimalText = c :: more ∧ (isDigit c = true ∨ c = '-') := by
  unfold Number.decimalText
  dsimp only
  split
  · exact ⟨'-', _, rfl, .inr rfl⟩
  · rw [List.nil_append]
    cases written : Nat.toDigits 10 (n.asF64.wholeMagnitude.getD 0) with
    | nil => exact absurd written Nat.toDigits_ne_nil
    | cons first more => exact ⟨first, more, rfl, .inl (isDigit_written first (by rw [written]; exact List.mem_cons_self))⟩

theorem readsBack_scalar {value : Value} (integers : value.Integers) (notArray : value.asArray = none)
    (notObject : value.asObject = none) : ReadsBack nearest value := by
  intro fuel rest enough stops
  obtain ⟨first, more, text, _⟩ := @render_head value
  have room : 2 ≤ fuel := by
    rw [text, List.length_cons] at enough
    omega
  obtain ⟨fuel, rfl⟩ : ∃ less, fuel = less + 1 := ⟨fuel - 1, by omega⟩
  cases value with
  | null => rfl
  | bool b => cases b <;> rfl
  | number n =>
      obtain ⟨c, more, spelled, starts⟩ := decimalText_head n
      have whole : render (.number n) = n.decimalText := by rw [render]
      rw [whole]
      have dispatched : readValue nearest (fuel + 1) (n.decimalText ++ rest) =
          (readNumber nearest (n.decimalText ++ rest)).map fun (n, rest) => (.number n, rest) := by
        rw [spelled]
        exact readValue_number starts fuel (more ++ rest)
      rw [dispatched, readNumber_decimalText (integers n List.mem_cons_self) stops]
      rfl
  | string s =>
      have opened : render (.string s) ++ rest = '"' :: (s.toList.flatMap writeChar ++ '"' :: rest) := by
        unfold render writeString
        simp
      rw [opened, readValue_quote, readString_write]
      rfl
  | array items => cases notArray
  | object members => cases notObject

theorem readsBack_array {items : List Value} (each : ∀ item ∈ items, ReadsBack nearest item) :
    ReadsBack nearest (.array items) := by
  intro fuel rest enough stops
  have text : render (.array items) ++ rest = '[' :: (separated (items.map render) ++ ']' :: rest) := by
    rw [render, renderItems_eq]
    simp
  have length : (render (.array items)).length = (separated (items.map render)).length + 2 := by
    rw [render, renderItems_eq]
    simp
  obtain ⟨fuel, rfl⟩ : ∃ less, fuel = less + 1 := ⟨fuel - 1, by omega⟩
  rw [text, Value.arranged_array, readValue_bracket]
  cases items with
  | nil => rfl
  | cons item others =>
      obtain ⟨c, more, shown, visible, open_⟩ := @render_head item
      have starts : skipSpace (separated ((item :: others).map render) ++ ']' :: rest) =
          separated ((item :: others).map render) ++ ']' :: rest :=
        skipSpace_separated ⟨c, more, shown, visible⟩ _
      have first : (separated ((item :: others).map render) ++ ']' :: rest).head? = some c := by
        rw [List.map_cons, shown]
        cases others with
        | nil => rfl
        | cons second others => rw [List.map_cons, separated_cons]; rfl
      rw [starts, first, if_neg (fun same => open_ (Option.some.inj same)),
        readItems_write each (by simp) (by omega)]
      rfl

theorem readsBack_object {members : Members} (each : ∀ member ∈ members, ReadsBack nearest member.2) :
    ReadsBack nearest (.object members) := by
  intro fuel rest enough stops
  obtain ⟨sorted, isSorted⟩ : ∃ sorted, sorted = sortBy (fun member => encodeUtf16 member.1) members := ⟨_, rfl⟩
  have written : render (.object members) = '\x7b' :: separated (sorted.map memberText) ++ ['\x7d'] := by
    rw [render_object, isSorted]
    rfl
  have text : render (.object members) ++ rest = '\x7b' :: (separated (sorted.map memberText) ++ '\x7d' :: rest) := by
    rw [written]
    simp
  have length : (render (.object members)).length = (separated (sorted.map memberText)).length + 2 := by
    rw [written]
    simp
  have inOrder : ∀ member ∈ sorted, ReadsBack nearest member.2 := by
    intro member inside
    rw [isSorted] at inside
    exact each member ((sortBy_perm _ members).mem_iff.mp inside)
  obtain ⟨fuel, rfl⟩ : ∃ less, fuel = less + 1 := ⟨fuel - 1, by omega⟩
  rw [text, Value.arranged_object, ← isSorted, readValue_brace]
  cases sorted with
  | nil => rfl
  | cons member others =>
      have starts : skipSpace (separated ((member :: others).map memberText) ++ '\x7d' :: rest) =
          separated ((member :: others).map memberText) ++ '\x7d' :: rest :=
        skipSpace_separated ⟨'"', _, rfl, by decide⟩ _
      have first : (separated ((member :: others).map memberText) ++ '\x7d' :: rest).head? = some '"' := by
        cases others with
        | nil => rfl
        | cons second others => rw [List.map_cons, List.map_cons, separated_cons]; rfl
      rw [starts, first, if_neg (by decide), readMembers_write inOrder (by simp) (by omega)]
      rfl

/-- Every value whose numbers are integers is read back from its canonical text. -/
theorem readsBack {value : Value} (integers : value.Integers) : ReadsBack nearest value := by
  induction value using Value.induct with
  | scalar value notArray notObject => exact readsBack_scalar integers notArray notObject
  | array items ih => exact readsBack_array fun item member => ih item member (integers.item member)
  | object members ih => exact readsBack_object fun member inside => ih member inside (integers.member inside)

/-- The canonical text of a value is JSON for the value arranged. -/
theorem read_render {value : Value} (integers : value.Integers) :
    read nearest (String.ofList (render value)) = some value.arranged := by
  have back := @readsBack nearest value integers (2 * (render value).length + 1) [] (by omega)
    (fun c none => nomatch none)
  rw [List.append_nil] at back
  have visible := skipSpace_render value []
  rw [List.append_nil] at visible
  unfold read
  rw [String.toList_ofList, visible, back]
  rfl

end JsonText

end Stozher
