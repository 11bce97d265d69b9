import Stozher.Clock

namespace Stozher

open Library Library.Text

namespace Envelope

variable {text : String}

def timestampFields : List (Nat × Nat) :=
  [(0, 4), (5, 7), (8, 10), (11, 13), (14, 16), (17, 19), (20, 23)]

def timestampMarks : List (Nat × UInt8) :=
  [(4, 0x2d), (7, 0x2d), (10, 0x54), (13, 0x3a), (16, 0x3a), (19, 0x2e), (23, 0x5a)]

def timestampField (text : String) (start stop : Nat) : List UInt8 :=
  ((octets text).take stop).drop start

/-- The digits and marks of a timestamp, and the ranges of its fields. -/
structure Timestamp (text : String) : Prop where
  length : (octets text).length = 24
  digits : ∀ field ∈ timestampFields, (timestampField text field.1 field.2).all isAsciiDigit = true
  marks : ∀ mark ∈ timestampMarks, (octets text)[mark.1]? = some mark.2
  year : 1 ≤ decimalValue (timestampField text 0 4)
  month : 1 ≤ decimalValue (timestampField text 5 7) ∧ decimalValue (timestampField text 5 7) ≤ 12
  day : 1 ≤ decimalValue (timestampField text 8 10) ∧ decimalValue (timestampField text 8 10) ≤
    daysInMonth (decimalValue (timestampField text 0 4)) (decimalValue (timestampField text 5 7))
  time : decimalValue (timestampField text 11 13) ≤ 23 ∧ decimalValue (timestampField text 14 16) ≤ 59 ∧
    decimalValue (timestampField text 17 19) ≤ 59

theorem timestamp_of_isTimestamp (isTime : isTimestamp text = true) : Timestamp text := by
  unfold isTimestamp at isTime
  simp only [Bool.and_eq_true, decide_eq_true_eq, beq_iff_eq] at isTime
  obtain ⟨⟨⟨⟨⟨⟨⟨⟨⟨⟨⟨⟨⟨⟨⟨⟨⟨⟨⟨⟨⟨⟨length, first⟩, second⟩, third⟩, fourth⟩, fifth⟩, sixth⟩, seventh⟩, a⟩, b⟩, c⟩,
    d⟩, e⟩, f⟩, g⟩, year⟩, month⟩, twelve⟩, day⟩, days⟩, hour⟩, minute⟩, second_⟩ := isTime
  constructor
  · exact length
  · intro field member
    simp only [timestampFields, List.mem_cons, List.not_mem_nil, or_false] at member
    rcases member with rfl | rfl | rfl | rfl | rfl | rfl | rfl
    · exact first
    · exact second
    · exact third
    · exact fourth
    · exact fifth
    · exact sixth
    · exact seventh
  · intro mark member
    simp only [timestampMarks, List.mem_cons, List.not_mem_nil, or_false] at member
    rcases member with rfl | rfl | rfl | rfl | rfl | rfl | rfl
    · exact a
    · exact b
    · exact c
    · exact d
    · exact e
    · exact f
    · exact g
  · exact year
  · exact ⟨month, twelve⟩
  · exact ⟨day, days⟩
  · exact ⟨hour, minute, second_⟩

theorem octet_of_field {start stop i : Nat} {b : UInt8} {check : UInt8 → Bool}
    (all : (timestampField text start stop).all check = true) (from_ : start ≤ i) (before : i < stop)
    (found : (octets text)[i]? = some b) : check b = true := by
  refine List.all_eq_true.mp all b (List.mem_iff_getElem?.mpr ⟨i - start, ?_⟩)
  unfold timestampField
  rw [List.getElem?_drop, List.getElem?_take, if_pos (by omega), show start + (i - start) = i by omega]
  exact found

/-- Each octet of a timestamp is a digit or a mark. -/
theorem Timestamp.octet (timestamp : Timestamp text) {b : UInt8} (member : b ∈ octets text) :
    isAsciiDigit b = true ∨ b ∈ timestampMarks.map Prod.snd := by
  obtain ⟨i, found⟩ := List.mem_iff_getElem?.mp member
  have inside : i < 24 := by
    have bound := (List.getElem?_eq_some_iff.mp found).1
    rw [timestamp.length] at bound
    exact bound
  have places : ∀ i < 24, (∃ field ∈ timestampFields, field.1 ≤ i ∧ i < field.2) ∨
      ∃ mark ∈ timestampMarks, mark.1 = i := by decide
  rcases places i inside with ⟨field, isField, from_, before⟩ | ⟨mark, isMark, here⟩
  · exact .inl (octet_of_field (timestamp.digits field isField) from_ before found)
  · have there := timestamp.marks mark isMark
    rw [here, found] at there
    exact .inr (List.mem_map.mpr ⟨mark, isMark, (Option.some.inj there).symm⟩)

theorem slash_octet (member : '/' ∈ text.toList) : 0x2f ∈ octets text := by
  obtain ⟨front, back, split⟩ := List.append_of_mem member
  have whole : text = String.ofList front ++ ("/" ++ String.ofList back) := by
    apply String.toList_injective
    simp [split]
  have slash : octets "/" = [0x2f] := by decide
  rw [whole, octets_append, octets_append, slash]
  exact List.mem_append_right _ List.mem_cons_self

theorem Timestamp.no_slash (timestamp : Timestamp text) : '/' ∉ text.toList := by
  intro member
  rcases timestamp.octet (slash_octet member) with digit | mark
  · exact absurd digit (by decide)
  · exact absurd mark (by decide)

end Envelope

namespace Clock

/-- The instant a timestamp is of. -/
def instantOf (text : String) : Int :=
  (daysFromCivil (decimalValue (Envelope.timestampField text 0 4)) (decimalValue (Envelope.timestampField text 5 7))
    (decimalValue (Envelope.timestampField text 8 10)) * 86400 +
      decimalValue (Envelope.timestampField text 11 13) * 3600 +
      decimalValue (Envelope.timestampField text 14 16) * 60 +
      decimalValue (Envelope.timestampField text 17 19)) * 1000 + decimalValue (Envelope.timestampField text 20 23)

theorem daysInMonth_natCast (year month : Nat) :
    daysInMonth (year : Int) (month : Int) = (Envelope.daysInMonth year month : Nat) := by
  unfold daysInMonth
  rw [if_neg (by omega), Int.toNat_natCast, Int.toNat_natCast]

theorem parseTimestamp_eq {text : String} (timestamp : Envelope.Timestamp text) :
    parseTimestamp text = .ok (instantOf text) := by
  have digits : ∀ start stop, (start, stop) ∈ Envelope.timestampFields →
      (((octets text).take stop).drop start).all isAsciiDigit = true :=
    fun start stop member => timestamp.digits (start, stop) member
  have marks : ∀ position b, (position, b) ∈ Envelope.timestampMarks → (octets text)[position]? = some b :=
    fun position b member => timestamp.marks (position, b) member
  obtain ⟨length, _, _, year, month, day, time⟩ := timestamp
  unfold Envelope.timestampField at year month day time
  unfold parseTimestamp instantOf Envelope.timestampField
  simp only [bind_eq_ok, require_eq_ok, pure_eq_ok, Bool.and_eq_true, beq_iff_eq]
  refine ⟨(), length, (), ?_, _, ⟨(), digits 0 4 (by decide), rfl⟩, _, ⟨(), digits 5 7 (by decide), rfl⟩,
    _, ⟨(), digits 8 10 (by decide), rfl⟩, _, ⟨(), digits 11 13 (by decide), rfl⟩,
    _, ⟨(), digits 14 16 (by decide), rfl⟩, _, ⟨(), digits 17 19 (by decide), rfl⟩,
    _, ⟨(), digits 20 23 (by decide), rfl⟩, (), ?_, (), ?_, rfl⟩
  · exact ⟨⟨⟨⟨⟨⟨marks 4 _ (by decide), marks 7 _ (by decide)⟩, marks 10 _ (by decide)⟩, marks 13 _ (by decide)⟩,
      marks 16 _ (by decide)⟩, marks 19 _ (by decide)⟩, marks 23 _ (by decide)⟩
  · rw [daysInMonth_natCast]
    omega
  · omega

/-- The clock reads every timestamp an envelope may carry. -/
theorem parseTimestamp_isOk {text : String} (timestamp : Envelope.Timestamp text) :
    isOk (parseTimestamp text) = true :=
  isOk_iff.mpr ⟨_, parseTimestamp_eq timestamp⟩

end Clock

end Stozher
