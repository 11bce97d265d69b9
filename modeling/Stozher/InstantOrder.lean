import Stozher.Instants

namespace Stozher

open Library Library.Text

namespace Envelope

variable {text : String}

theorem Timestamp.field (timestamp : Timestamp text) {start stop : Nat} (listed : (start, stop) ∈ timestampFields) :
    Digits (timestampField text start stop) ∧ (timestampField text start stop).length = stop - start := by
  refine ⟨List.all_eq_true.mp (timestamp.digits (start, stop) listed), ?_⟩
  have within : ∀ field ∈ timestampFields, field.2 ≤ 24 := by decide
  have inside := within (start, stop) listed
  unfold timestampField
  rw [List.length_drop, List.length_take, timestamp.length]
  dsimp only at inside
  omega

end Envelope

namespace Clock

/-- The fields of a text in the fixed form. -/
def Fields.ofText (text : String) : Fields where
  year := decimalValue (Envelope.timestampField text 0 4)
  month := decimalValue (Envelope.timestampField text 5 7)
  day := decimalValue (Envelope.timestampField text 8 10)
  hour := decimalValue (Envelope.timestampField text 11 13)
  minute := decimalValue (Envelope.timestampField text 14 16)
  second := decimalValue (Envelope.timestampField text 17 19)
  millis := decimalValue (Envelope.timestampField text 20 23)

section

variable {text : String}

theorem Fields.ofText_inRange (timestamp : Envelope.Timestamp text) : (ofText text).InRange := by
  have bound : ∀ start stop, (start, stop) ∈ Envelope.timestampFields →
      decimalValue (Envelope.timestampField text start stop) < 10 ^ (stop - start) := by
    intro start stop listed
    obtain ⟨digits, length⟩ := timestamp.field listed
    have small := decimalValue_lt digits
    rwa [length] at small
  have years := bound 0 4 (by decide)
  have sub := bound 20 23 (by decide)
  have first := timestamp.year
  norm_num at years sub
  constructor
  · unfold ofText
    dsimp only
    omega
  · exact timestamp.month
  · exact timestamp.day
  · exact timestamp.time
  · unfold ofText
    dsimp only
    omega

/-- A text in the fixed form is the text of its fields. -/
theorem Fields.ofText_text (timestamp : Envelope.Timestamp text) : (ofText text).text = text := by
  apply eq_of_octets
  have field : ∀ start stop, (start, stop) ∈ Envelope.timestampFields →
      fixedOctets (stop - start) (decimalValue (Envelope.timestampField text start stop)) =
        ((octets text).take stop).drop start := by
    intro start stop listed
    obtain ⟨digits, length⟩ := timestamp.field listed
    rw [← length, fixedOctets_decimalValue digits]
    rfl
  have mark : ∀ position b, (position, b) ∈ Envelope.timestampMarks →
      (octets text).drop position = b :: (octets text).drop (position + 1) := by
    intro position b listed
    exact drop_mark (timestamp.marks (position, b) listed)
  have ends : (octets text).drop 24 = [] := by
    rw [List.drop_eq_nil_iff, timestamp.length]
  rw [octets_text]
  unfold ofText
  dsimp only
  rw [field 0 4 (by decide), field 5 7 (by decide), field 8 10 (by decide), field 11 13 (by decide),
    field 14 16 (by decide), field 17 19 (by decide), field 20 23 (by decide), ← ends, ← mark 23 _ (by decide),
    ← drop_field _ (by decide), ← mark 19 _ (by decide), ← drop_field _ (by decide), ← mark 16 _ (by decide),
    ← drop_field _ (by decide), ← mark 13 _ (by decide), ← drop_field _ (by decide), ← mark 10 _ (by decide),
    ← drop_field _ (by decide), ← mark 7 _ (by decide), ← drop_field _ (by decide), ← mark 4 _ (by decide),
    ← drop_field _ (by decide), List.drop_zero]

theorem timestamp_of_parse {millis : Int} (parsed : parseTimestamp text = .ok millis) : Envelope.Timestamp text := by
  unfold parseTimestamp at parsed
  simp only [bind_eq_ok, require_eq_ok, pure_eq_ok, Bool.and_eq_true, beq_iff_eq] at parsed
  obtain ⟨_, length, _, ⟨⟨⟨⟨⟨⟨first, second⟩, third⟩, fourth⟩, fifth⟩, sixth⟩, seventh⟩, year, ⟨_, yearDigits, isYear⟩,
    month, ⟨_, monthDigits, isMonth⟩, day, ⟨_, dayDigits, isDay⟩, hour, ⟨_, hourDigits, isHour⟩,
    minute, ⟨_, minuteDigits, isMinute⟩, second_, ⟨_, secondDigits, isSecond⟩, sub, ⟨_, subDigits, _⟩,
    _, date, _, time, _⟩ := parsed
  rw [← isYear, ← isMonth, ← isDay, daysInMonth_natCast] at date
  rw [← isHour, ← isMinute, ← isSecond] at time
  constructor
  · exact length
  · intro field listed
    simp only [Envelope.timestampFields, List.mem_cons, List.not_mem_nil, or_false] at listed
    rcases listed with rfl | rfl | rfl | rfl | rfl | rfl | rfl
    · exact yearDigits
    · exact monthDigits
    · exact dayDigits
    · exact hourDigits
    · exact minuteDigits
    · exact secondDigits
    · exact subDigits
  · intro mark listed
    simp only [Envelope.timestampMarks, List.mem_cons, List.not_mem_nil, or_false] at listed
    rcases listed with rfl | rfl | rfl | rfl | rfl | rfl | rfl
    · exact first
    · exact second
    · exact third
    · exact fourth
    · exact fifth
    · exact sixth
    · exact seventh
  all_goals
    unfold Envelope.timestampField
    omega

end

namespace Fields

variable {first second : Fields}

/-- In order of time. -/
def Precedes (first second : Fields) : Prop :=
  first.year < second.year ∨ first.year = second.year ∧ (first.month < second.month ∨
    first.month = second.month ∧ (first.day < second.day ∨ first.day = second.day ∧ (first.hour < second.hour ∨
      first.hour = second.hour ∧ (first.minute < second.minute ∨ first.minute = second.minute ∧
        (first.second < second.second ∨ first.second = second.second ∧ first.millis < second.millis)))))

theorem precedes_trichotomy (first second : Fields) : first.Precedes second ∨ first = second ∨ second.Precedes first := by
  obtain ⟨year, month, day, hour, minute, second_, millis⟩ := first
  obtain ⟨year', month', day', hour', minute', second', millis'⟩ := second
  unfold Precedes
  simp only [Fields.mk.injEq]
  omega

theorem InRange.date (inRange : first.InRange) : CivilDate first.year first.month first.day := by
  obtain ⟨_, month, day, _, _⟩ := inRange
  constructor
  · omega
  · rw [daysInMonth_natCast]
    omega

theorem instant_lt (inRange : first.InRange) (inRange' : second.InRange) (before : first.Precedes second) :
    first.instant < second.instant := by
  have days : daysFromCivil first.year first.month first.day < daysFromCivil second.year second.month second.day ∨
      first.year = second.year ∧ first.month = second.month ∧ first.day = second.day ∧
        (first.hour < second.hour ∨ first.hour = second.hour ∧ (first.minute < second.minute ∨
          first.minute = second.minute ∧
            (first.second < second.second ∨ first.second = second.second ∧ first.millis < second.millis))) := by
    by_cases dates : Before (first.year, first.month, first.day) (second.year, second.month, second.day)
    · have start := inRange.year.1
      exact .inl (inRange.date.daysFromCivil_lt inRange'.date (by omega) dates)
    · unfold Before at dates
      unfold Precedes at before
      dsimp only at dates
      omega
  obtain ⟨_, _, _, time, millis⟩ := inRange
  obtain ⟨_, _, _, time', millis'⟩ := inRange'
  unfold instant
  rcases days with days | ⟨year, month, day, times⟩
  · omega
  · rw [year, month, day]
    omega

theorem InRange.inForm (inRange : first.InRange) : InForm first.instant := by
  have most : InRange ⟨9999, 12, 31, 23, 59, 59, 999⟩ := by
    constructor <;> decide
  have least : InRange ⟨1, 1, 1, 0, 0, 0, 0⟩ := by
    constructor <;> decide
  have top : instant ⟨9999, 12, 31, 23, 59, 59, 999⟩ = 253402300799999 := by decide
  have bottom : instant ⟨1, 1, 1, 0, 0, 0, 0⟩ = -62135596800000 := by decide
  have below : first.instant ≤ 253402300799999 := by
    rw [← top]
    rcases precedes_trichotomy first ⟨9999, 12, 31, 23, 59, 59, 999⟩ with before | rfl | after
    · exact Int.le_of_lt (instant_lt inRange most before)
    · exact Int.le_refl _
    · obtain ⟨year, month, day, time, millis⟩ := inRange
      have days := daysInMonth_le first.year first.month
      unfold Precedes at after
      dsimp only at after
      omega
  have above : -62135596800000 ≤ first.instant := by
    rw [← bottom]
    rcases precedes_trichotomy first ⟨1, 1, 1, 0, 0, 0, 0⟩ with before | rfl | after
    · obtain ⟨year, month, day, time, millis⟩ := inRange
      unfold Precedes at before
      dsimp only at before
      omega
    · exact Int.le_refl _
    · exact Int.le_of_lt (instant_lt least inRange after)
  exact ⟨above, below⟩

/-- Fields are written for the instant they denote. -/
theorem InRange.format (inRange : first.InRange) : formatMillis first.instant = first.text := by
  obtain ⟨others, same, _⟩ := inRange.inForm.fields
  rw [inRange.inForm.format]
  rcases precedes_trichotomy (fieldsOf first.instant) first with before | equal | after
  · have less := instant_lt others inRange before
    omega
  · rw [equal]
  · have less := instant_lt inRange others after
    omega

end Fields

section

variable {text other : String} {millis otherMillis : Int}

/-- A text that reads as an instant is the text of that instant. -/
theorem parse_spec (parsed : parseTimestamp text = .ok millis) : InForm millis ∧ formatMillis millis = text := by
  have timestamp := timestamp_of_parse parsed
  have inRange := Fields.ofText_inRange timestamp
  have same : (Fields.ofText text).instant = millis := by
    have read := inRange.parse
    rw [Fields.ofText_text timestamp, parsed] at read
    exact (Except.ok.inj read).symm
  rw [← same]
  exact ⟨inRange.inForm, inRange.format.trans (Fields.ofText_text timestamp)⟩

/-- Texts in the fixed form are in the order of their instants. -/
theorem le_iff_of_parse (parsed : parseTimestamp text = .ok millis) (parsed' : parseTimestamp other = .ok otherMillis) :
    text ≤ other ↔ millis ≤ otherMillis := by
  obtain ⟨inForm, rfl⟩ := parse_spec parsed
  obtain ⟨inForm', rfl⟩ := parse_spec parsed'
  constructor
  · intro le
    by_contra less
    exact absurd (formatMillis_lt inForm' inForm (by omega)) (not_lt_of_ge le)
  · intro le
    rcases Int.lt_or_eq_of_le le with less | rfl
    · exact le_of_lt (formatMillis_lt inForm inForm' less)
    · exact le_refl _

/-- A shift moves the instant, as far as the fixed form reaches. -/
theorem shift_eq_ok {seconds : Int} (parsed : parseTimestamp text = .ok millis) :
    shift text seconds = .ok other ↔ InForm (millis + seconds * 1000) ∧ other = formatMillis (millis + seconds * 1000) := by
  unfold shift
  simp only [bind_eq_ok, require_eq_ok, pure_eq_ok, parsed, Except.ok.injEq, exists_eq_left']
  constructor
  · intro known
    obtain ⟨_, ⟨first, last⟩, rfl⟩ := known
    exact ⟨⟨first, last⟩, rfl⟩
  · intro known
    obtain ⟨⟨first, last⟩, rfl⟩ := known
    exact ⟨(), ⟨first, last⟩, rfl⟩

end

end Clock

end Stozher
