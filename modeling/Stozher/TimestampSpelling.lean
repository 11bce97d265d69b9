import Stozher.DecisionAgreement

namespace Stozher.Clock

open Library Library.Text

/-- A 64-bit result, where there is one. -/
def checked (value : Int) : Option Int :=
  if -2 ^ 63 ≤ value ∧ value < 2 ^ 63 then some value else none

/-- A shift with the product and the sum of 64-bit integers checked apart from the range. -/
def shiftChecked (text : String) (seconds : Int) : Result String := do
  let outOfRange := err "encoding-bad-timestamp" s!"{debug text} shifted by {seconds}s leaves the representable range"
  let millis ← parseTimestamp text
  let shifted ← okOr ((checked (seconds * 1000)).bind fun delta => checked (millis + delta)) outOfRange
  require (-62135596800000 ≤ shifted ∧ shifted ≤ 253402300799999) outOfRange
  return formatMillis shifted

variable {text other : String} {millis otherMillis : Int}

/-- An instant in the fixed form is far from the ends of 64 bits, so what overflows is out of the range too. -/
theorem shiftChecked_eq (text : String) (seconds : Int) : shiftChecked text seconds = shift text seconds := by
  unfold shiftChecked shift
  cases parsed : parseTimestamp text with
  | error e => rfl
  | ok millis =>
      obtain ⟨⟨first, last⟩, _⟩ := parse_spec parsed
      have sums : ((checked (seconds * 1000)).bind fun delta => checked (millis + delta)) = some (millis + seconds * 1000) ∨
          ((checked (seconds * 1000)).bind fun delta => checked (millis + delta)) = none ∧
            ¬(-62135596800000 ≤ millis + seconds * 1000 ∧ millis + seconds * 1000 ≤ 253402300799999) := by
        unfold checked
        by_cases product : -2 ^ 63 ≤ seconds * 1000 ∧ seconds * 1000 < 2 ^ 63
        · rw [if_pos product, Option.bind_some]
          by_cases sum : -2 ^ 63 ≤ millis + seconds * 1000 ∧ millis + seconds * 1000 < 2 ^ 63
          · exact .inl (if_pos sum)
          · exact .inr ⟨if_neg sum, by omega⟩
        · rw [if_neg product, Option.bind_none]
          exact .inr ⟨rfl, by omega⟩
      rw [ok_bind, ok_bind]
      dsimp only
      rcases sums with fits | ⟨overflows, outside⟩
      · rw [fits]
        rfl
      · rw [overflows]
        unfold require
        rw [if_neg outside]
        rfl

/-- A shift succeeds on the timestamps whose shifted instant is in the fixed form, and is then at that instant. -/
theorem shift_isOk_iff (text : String) (seconds : Int) : (∃ shifted, shift text seconds = .ok shifted) ↔
    ∃ millis, parseTimestamp text = .ok millis ∧ InForm (millis + seconds * 1000) := by
  constructor
  · rintro ⟨shifted, moved⟩
    have moved' := moved
    unfold shift at moved'
    obtain ⟨millis, parsed, _⟩ := bind_eq_ok.mp moved'
    exact ⟨millis, parsed, ((shift_eq_ok parsed).mp moved).1⟩
  · rintro ⟨millis, parsed, inForm⟩
    exact ⟨_, (shift_eq_ok parsed).mpr ⟨inForm, rfl⟩⟩

theorem parse_shifted {seconds : Int} (moved : shift text seconds = .ok other) :
    ∃ millis, parseTimestamp text = .ok millis ∧ parseTimestamp other = .ok (millis + seconds * 1000) := by
  obtain ⟨millis, parsed, inForm⟩ := (shift_isOk_iff text seconds).mp ⟨other, moved⟩
  obtain ⟨_, rfl⟩ := (shift_eq_ok parsed).mp moved
  exact ⟨millis, parsed, inForm.parse⟩

/-- Two shifts are one by their sum. -/
theorem shift_shift {further : String} {first second : Int} (moved : shift text first = .ok other)
    (again : shift other second = .ok further) : shift text (first + second) = .ok further := by
  obtain ⟨millis, parsed, middle⟩ := parse_shifted moved
  obtain ⟨inForm, rfl⟩ := (shift_eq_ok middle).mp again
  have sum : millis + first * 1000 + second * 1000 = millis + (first + second) * 1000 := by omega
  rw [sum] at inForm ⊢
  exact (shift_eq_ok parsed).mpr ⟨inForm, rfl⟩

theorem lt_iff_of_parse (parsed : parseTimestamp text = .ok millis) (parsed' : parseTimestamp other = .ok otherMillis) :
    text < other ↔ millis < otherMillis := by
  rw [← not_le, le_iff_of_parse parsed' parsed, Int.not_le]

theorem eq_iff_of_parse (parsed : parseTimestamp text = .ok millis) (parsed' : parseTimestamp other = .ok otherMillis) :
    text = other ↔ millis = otherMillis := by
  rw [le_antisymm_iff, le_iff_of_parse parsed parsed', le_iff_of_parse parsed' parsed, le_antisymm_iff]

/-- The two validators accept the same texts; an accepted text is the one its instant is written as, and every instant of
the years 1 to 9999 is read back from how it is written; texts are ordered as their instants are; and a shift is by that
many seconds wherever the form reaches, so that shifts add. -/
theorem timestamps_one_spelling :
    (∀ text, Envelope.isTimestamp text = true ↔ ∃ millis, parseTimestamp text = .ok millis) ∧
      (∀ text millis, parseTimestamp text = .ok millis → formatMillis millis = text) ∧
      (∀ millis, InForm millis → parseTimestamp (formatMillis millis) = .ok millis) ∧
      (∀ text other millis otherMillis, parseTimestamp text = .ok millis → parseTimestamp other = .ok otherMillis →
        (text < other ↔ millis < otherMillis) ∧ (text = other ↔ millis = otherMillis)) ∧
      (∀ text seconds, shiftChecked text seconds = shift text seconds) ∧
      (∀ text seconds, (∃ shifted, shift text seconds = .ok shifted) ↔
        ∃ millis, parseTimestamp text = .ok millis ∧ InForm (millis + seconds * 1000)) ∧
      (∀ text first second middle further, shift text first = .ok middle → shift middle second = .ok further →
        shift text (first + second) = .ok further) := by
  refine ⟨?_, fun _ _ parsed => (parse_spec parsed).2, fun _ inForm => inForm.parse, ?_, shiftChecked_eq,
    shift_isOk_iff, fun _ _ _ _ _ => shift_shift⟩
  · intro text
    constructor
    · exact fun accepted => ⟨_, parseTimestamp_eq (Envelope.timestamp_of_isTimestamp accepted)⟩
    · exact fun ⟨_, parsed⟩ => Envelope.isTimestamp_of_parse parsed
  · exact fun _ _ _ _ parsed parsed' => ⟨lt_iff_of_parse parsed parsed', eq_iff_of_parse parsed parsed'⟩

example : shift "2024-02-28T23:59:59.000Z" 1 = .ok "2024-02-29T00:00:00.000Z" ∧
    shift "0001-01-01T00:00:00.000Z" (-1) ≠ .ok "0000-12-31T23:59:59.000Z" := by decide +kernel

end Stozher.Clock
