import Stozher.Calendar
import Stozher.Library.FixedWidth
import Stozher.Timestamps

namespace Stozher.Clock

open Library Library.Text

/-- The fields of an instant. -/
structure Fields where
  year : Nat
  month : Nat
  day : Nat
  hour : Nat
  minute : Nat
  second : Nat
  millis : Nat

namespace Fields

def text (fields : Fields) : String :=
  String.ofList (fixedDigits 4 fields.year ++ '-' :: (fixedDigits 2 fields.month ++ '-' ::
    (fixedDigits 2 fields.day ++ 'T' :: (fixedDigits 2 fields.hour ++ ':' :: (fixedDigits 2 fields.minute ++ ':' ::
      (fixedDigits 2 fields.second ++ '.' :: (fixedDigits 3 fields.millis ++ ['Z'])))))))

def instant (fields : Fields) : Int :=
  (daysFromCivil fields.year fields.month fields.day * 86400 + fields.hour * 3600 + fields.minute * 60 +
    fields.second) * 1000 + fields.millis

/-- The fields the fixed form has. -/
structure InRange (fields : Fields) : Prop where
  year : 1 ≤ fields.year ∧ fields.year ≤ 9999
  month : 1 ≤ fields.month ∧ fields.month ≤ 12
  day : 1 ≤ fields.day ∧ fields.day ≤ Envelope.daysInMonth fields.year fields.month
  time : fields.hour ≤ 23 ∧ fields.minute ≤ 59 ∧ fields.second ≤ 59
  millis : fields.millis ≤ 999

variable {fields other : Fields}

theorem octets_text (fields : Fields) :
    octets fields.text = fixedOctets 4 fields.year ++ 0x2d :: (fixedOctets 2 fields.month ++ 0x2d ::
      (fixedOctets 2 fields.day ++ 0x54 :: (fixedOctets 2 fields.hour ++ 0x3a :: (fixedOctets 2 fields.minute ++ 0x3a ::
        (fixedOctets 2 fields.second ++ 0x2e :: (fixedOctets 3 fields.millis ++ [0x5a])))))) := by
  have split : ∀ {width n : Nat} {c : Char} {b : UInt8} {rest : List Char}, String.utf8EncodeChar c = [b] →
      octets (String.ofList (fixedDigits width n ++ c :: rest)) =
        fixedOctets width n ++ b :: octets (String.ofList rest) := by
    intro width n c b rest one
    rw [octets_ofList, List.flatMap_append, ← octets_ofList, octets_fixedDigits, List.flatMap_cons, one, ← octets_ofList]
    rfl
  unfold text
  rw [split (show _ = [0x2d] by decide), split (show _ = [0x2d] by decide), split (show _ = [0x54] by decide),
    split (show _ = [0x3a] by decide), split (show _ = [0x3a] by decide), split (show _ = [0x2e] by decide),
    split (show _ = [0x5a] by decide)]
  rfl

theorem daysInMonth_le (year month : Nat) : Envelope.daysInMonth year month ≤ 31 := by
  unfold Envelope.daysInMonth
  split
  all_goals
    first
      | decide
      | split <;> decide

/-- The places of the fields within the text. -/
theorem timestampField_text (fields : Fields) :
    Envelope.timestampField fields.text 0 4 = fixedOctets 4 fields.year ∧
    Envelope.timestampField fields.text 5 7 = fixedOctets 2 fields.month ∧
    Envelope.timestampField fields.text 8 10 = fixedOctets 2 fields.day ∧
    Envelope.timestampField fields.text 11 13 = fixedOctets 2 fields.hour ∧
    Envelope.timestampField fields.text 14 16 = fixedOctets 2 fields.minute ∧
    Envelope.timestampField fields.text 17 19 = fixedOctets 2 fields.second ∧
    Envelope.timestampField fields.text 20 23 = fixedOctets 3 fields.millis := by
  unfold Envelope.timestampField
  rw [octets_text]
  exact ⟨rfl, rfl, rfl, rfl, rfl, rfl, rfl⟩

theorem all_fixedOctets (width n : Nat) : (fixedOctets width n).all isAsciiDigit = true :=
  List.all_eq_true.mpr digits_fixedOctets

/-- The values of the fields are read back. -/
theorem InRange.values (inRange : fields.InRange) :
    decimalValue (fixedOctets 4 fields.year) = fields.year ∧ decimalValue (fixedOctets 2 fields.month) = fields.month ∧
    decimalValue (fixedOctets 2 fields.day) = fields.day ∧ decimalValue (fixedOctets 2 fields.hour) = fields.hour ∧
    decimalValue (fixedOctets 2 fields.minute) = fields.minute ∧
    decimalValue (fixedOctets 2 fields.second) = fields.second ∧
    decimalValue (fixedOctets 3 fields.millis) = fields.millis := by
  obtain ⟨year, month, day, time, millis⟩ := inRange
  have most := daysInMonth_le fields.year fields.month
  refine ⟨?_, ?_, ?_, ?_, ?_, ?_, ?_⟩
  all_goals
    apply decimalValue_fixedOctets
    norm_num
    omega

/-- Fields in range are written as a timestamp. -/
theorem InRange.timestamp (inRange : fields.InRange) : Envelope.Timestamp fields.text := by
  obtain ⟨yearAt, monthAt, dayAt, hourAt, minuteAt, secondAt, millisAt⟩ := timestampField_text fields
  obtain ⟨year, month, day, hour, minute, second, millis⟩ := inRange.values
  constructor
  · rw [octets_text]
    rfl
  · intro field member
    simp only [Envelope.timestampFields, List.mem_cons, List.not_mem_nil, or_false] at member
    rcases member with rfl | rfl | rfl | rfl | rfl | rfl | rfl
    · rw [yearAt]
      exact all_fixedOctets _ _
    · rw [monthAt]
      exact all_fixedOctets _ _
    · rw [dayAt]
      exact all_fixedOctets _ _
    · rw [hourAt]
      exact all_fixedOctets _ _
    · rw [minuteAt]
      exact all_fixedOctets _ _
    · rw [secondAt]
      exact all_fixedOctets _ _
    · rw [millisAt]
      exact all_fixedOctets _ _
  · intro mark member
    rw [octets_text]
    simp only [Envelope.timestampMarks, List.mem_cons, List.not_mem_nil, or_false] at member
    rcases member with rfl | rfl | rfl | rfl | rfl | rfl | rfl <;> rfl
  · rw [yearAt, year]
    exact inRange.year.1
  · rw [monthAt, month]
    exact inRange.month
  · rw [yearAt, monthAt, dayAt, year, month, day]
    exact inRange.day
  · rw [hourAt, minuteAt, secondAt, hour, minute, second]
    exact inRange.time

end Fields

theorem Fields.InRange.parse {fields : Fields} (inRange : fields.InRange) :
    parseTimestamp fields.text = .ok fields.instant := by
  obtain ⟨yearAt, monthAt, dayAt, hourAt, minuteAt, secondAt, millisAt⟩ := timestampField_text fields
  obtain ⟨year, month, day, hour, minute, second, millis⟩ := inRange.values
  rw [parseTimestamp_eq inRange.timestamp]
  unfold instantOf Fields.instant
  rw [yearAt, monthAt, dayAt, hourAt, minuteAt, secondAt, millisAt, year, month, day, hour, minute, second, millis]

/-- The milliseconds the fixed form is for. -/
structure InForm (millis : Int) : Prop where
  first : -62135596800000 ≤ millis
  last : millis ≤ 253402300799999

theorem InForm.days {millis : Int} (inForm : InForm millis) : InCalendar (millis / 1000 / 86400) := by
  obtain ⟨first, last⟩ := inForm
  constructor <;> omega

/-- The fields a count of milliseconds is written with. -/
def fieldsOf (millis : Int) : Fields :=
  let date := civilFromDays (millis / 1000 / 86400)
  let timeOfDay := millis / 1000 % 86400
  { year := date.1.toNat
    month := date.2.1.toNat
    day := date.2.2.toNat
    hour := (timeOfDay / 3600).toNat
    minute := (timeOfDay % 3600 / 60).toNat
    second := (timeOfDay % 60).toNat
    millis := (millis % 1000).toNat }

section

variable {millis : Int}

/-- The fields of an instant are those of a day and of a time within it. -/
theorem InForm.fields (inForm : InForm millis) : (fieldsOf millis).InRange ∧ (fieldsOf millis).instant = millis ∧
    civilFromDays (millis / 1000 / 86400) =
      (((fieldsOf millis).year : Int), ((fieldsOf millis).month : Int), ((fieldsOf millis).day : Int)) := by
  obtain ⟨⟨year, month, day⟩, made⟩ : ∃ date, date = civilFromDays (millis / 1000 / 86400) := ⟨_, rfl⟩
  have first := inForm.days.first
  have years := inForm.days.year made.symm
  obtain ⟨_, ⟨inYear, inMonth⟩, same⟩ := civilFromDays_spec (show 0 ≤ millis / 1000 / 86400 + 719468 by omega) made.symm
  unfold fieldsOf
  dsimp only
  rw [← made]
  have isYear : ((year.toNat : Nat) : Int) = year := Int.toNat_of_nonneg (by omega)
  have isMonth : ((month.toNat : Nat) : Int) = month := Int.toNat_of_nonneg (by omega)
  have isDay : ((day.toNat : Nat) : Int) = day := Int.toNat_of_nonneg (by omega)
  refine ⟨⟨?_, ?_, ?_, ?_, ?_⟩, ?_, ?_⟩
  · dsimp only
    omega
  · dsimp only
    omega
  · dsimp only
    have most := inMonth.2
    rw [← isYear, ← isMonth, daysInMonth_natCast] at most
    omega
  · dsimp only
    omega
  · dsimp only
    omega
  · unfold Fields.instant
    dsimp only
    rw [isYear, isMonth, isDay, same]
    omega
  · dsimp only
    rw [isYear, isMonth, isDay]

theorem padded_eq {width n : Nat} (fits : n < 10 ^ (width + 1)) :
    padded (width + 1) (n : Int) = String.ofList (fixedDigits (width + 1) n) := by
  have digits : (toString n).toList = Nat.toDigits 10 n := Nat.toList_repr
  unfold padded
  dsimp only
  rw [if_neg (by omega), Int.natAbs_natCast, digits, List.nil_append, (padded_toDigits fits).2]

theorem InForm.format (inForm : InForm millis) : formatMillis millis = (fieldsOf millis).text := by
  obtain ⟨inRange, _, made⟩ := inForm.fields
  obtain ⟨year, month, day, time, sub⟩ := inRange
  have days := Fields.daysInMonth_le (fieldsOf millis).year (fieldsOf millis).month
  have isHour : millis / 1000 % 86400 / 3600 = ((fieldsOf millis).hour : Int) := by
    unfold fieldsOf
    dsimp only
    omega
  have isMinute : millis / 1000 % 86400 % 3600 / 60 = ((fieldsOf millis).minute : Int) := by
    unfold fieldsOf
    dsimp only
    omega
  have isSecond : millis / 1000 % 86400 % 60 = ((fieldsOf millis).second : Int) := by
    unfold fieldsOf
    dsimp only
    omega
  have isMillis : millis % 1000 = ((fieldsOf millis).millis : Int) := by
    unfold fieldsOf
    dsimp only
    omega
  unfold formatMillis
  dsimp only
  rw [made, isHour, isMinute, isSecond, isMillis]
  dsimp only
  rw [padded_eq (by norm_num; omega), padded_eq (by norm_num; omega), padded_eq (by norm_num; omega),
    padded_eq (by norm_num; omega), padded_eq (by norm_num; omega), padded_eq (by norm_num; omega),
    padded_eq (by norm_num; omega)]
  apply String.toList_injective
  unfold Fields.text
  simp

/-- What is written for an instant is read as that instant. -/
theorem InForm.parse (inForm : InForm millis) : parseTimestamp (formatMillis millis) = .ok millis := by
  obtain ⟨inRange, same, _⟩ := inForm.fields
  rw [inForm.format, inRange.parse, same]

end

/-- The order of the fields, the greatest first. -/
theorem Fields.text_lt {fields other : Fields} (inRange : other.InRange)
    (before : fields.year < other.year ∨ fields.year = other.year ∧ (fields.month < other.month ∨
      fields.month = other.month ∧ (fields.day < other.day ∨ fields.day = other.day ∧ (fields.hour < other.hour ∨
        fields.hour = other.hour ∧ (fields.minute < other.minute ∨ fields.minute = other.minute ∧
          (fields.second < other.second ∨ fields.second = other.second ∧ fields.millis < other.millis)))))) :
    fields.text < other.text := by
  obtain ⟨year, month, day, time, millis⟩ := inRange
  have days := daysInMonth_le other.year other.month
  have step : ∀ {width m n : Nat} {c : Char} {rest others : List Char}, n < 10 ^ width →
      (m < n ∨ m = n ∧ rest < others) → fixedDigits width m ++ c :: rest < fixedDigits width n ++ c :: others := by
    intro width m n c rest others fits less
    apply append_lt_append (by simp)
    rcases less with less | ⟨same, less⟩
    · exact .inl (fixedDigits_lt less fits)
    · exact .inr ⟨congrArg _ same, List.cons_lt_cons_iff.mpr (.inr ⟨rfl, less⟩)⟩
  unfold Fields.text
  rw [String.lt_iff, String.toList_ofList, String.toList_ofList]
  apply step (by norm_num; omega)
  apply before.imp_right
  apply And.imp_right
  intro before
  apply step (by norm_num; omega)
  apply before.imp_right
  apply And.imp_right
  intro before
  apply step (by norm_num; omega)
  apply before.imp_right
  apply And.imp_right
  intro before
  apply step (by norm_num; omega)
  apply before.imp_right
  apply And.imp_right
  intro before
  apply step (by norm_num; omega)
  apply before.imp_right
  apply And.imp_right
  intro before
  apply step (by norm_num; omega)
  apply before.imp_right
  apply And.imp_right
  intro less
  exact append_lt_append (by simp) (.inl (fixedDigits_lt less (by norm_num; omega)))

/-- Later instants are written as later texts. -/
theorem formatMillis_lt {first second : Int} (inForm : InForm first) (inForm' : InForm second) (less : first < second) :
    formatMillis first < formatMillis second := by
  obtain ⟨_, _, made⟩ := inForm.fields
  obtain ⟨inRange, _, made'⟩ := inForm'.fields
  rw [inForm.format, inForm'.format]
  apply Fields.text_lt inRange
  rcases Int.lt_or_eq_of_le (show first / 1000 / 86400 ≤ second / 1000 / 86400 by omega) with days | sameDay
  · have before := civilFromDays_before inForm.days inForm'.days days
    rw [made, made'] at before
    unfold Before at before
    dsimp only at before
    omega
  · rw [sameDay, made'] at made
    simp only [Prod.mk.injEq, Nat.cast_inj] at made
    obtain ⟨sameYear, sameMonth, sameDay⟩ := made
    have hours : (fieldsOf first).hour < (fieldsOf second).hour ∨ (fieldsOf first).hour = (fieldsOf second).hour ∧
        ((fieldsOf first).minute < (fieldsOf second).minute ∨ (fieldsOf first).minute = (fieldsOf second).minute ∧
          ((fieldsOf first).second < (fieldsOf second).second ∨ (fieldsOf first).second = (fieldsOf second).second ∧
            (fieldsOf first).millis < (fieldsOf second).millis)) := by
      unfold fieldsOf
      dsimp only
      omega
    exact .inr ⟨sameYear.symm, .inr ⟨sameMonth.symm, .inr ⟨sameDay.symm, hours⟩⟩⟩

end Stozher.Clock
