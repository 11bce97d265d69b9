import Mathlib.Data.Set.Function
import Stozher.Clock

namespace Stozher.Clock

/-- A day the calendar has. -/
structure CivilDate (year month day : Int) : Prop where
  inYear : 1 ≤ month ∧ month ≤ 12
  inMonth : 1 ≤ day ∧ day ≤ daysInMonth year month

def IsLeap (year : Int) : Prop :=
  year % 4 = 0 ∧ (year % 100 ≠ 0 ∨ year % 400 = 0)

section

variable {year month day : Int}

theorem isLeapYear_iff (nonneg : 0 ≤ year) : Envelope.isLeapYear year.toNat = true ↔ IsLeap year := by
  unfold Envelope.isLeapYear IsLeap
  simp only [Bool.and_eq_true, Bool.or_eq_true, beq_iff_eq, bne_iff_ne]
  omega

theorem daysInMonth_february (nonneg : 0 ≤ year) :
    (IsLeap year → daysInMonth year 2 = 29) ∧ (¬ IsLeap year → daysInMonth year 2 = 28) := by
  have table : daysInMonth year 2 = ((if Envelope.isLeapYear year.toNat then 29 else 28 : Nat) : Int) := by
    unfold daysInMonth
    rw [if_neg (by omega)]
    rfl
  rw [table]
  constructor
  · intro leap
    rw [if_pos ((isLeapYear_iff nonneg).mpr leap)]
    rfl
  · intro common
    rw [if_neg (fun leap => common ((isLeapYear_iff nonneg).mp leap))]
    rfl

/-- The other months, which no year changes. -/
theorem daysInMonth_other (nonneg : 0 ≤ year) :
    daysInMonth year 1 = 31 ∧ daysInMonth year 3 = 31 ∧ daysInMonth year 4 = 30 ∧ daysInMonth year 5 = 31 ∧
    daysInMonth year 6 = 30 ∧ daysInMonth year 7 = 31 ∧ daysInMonth year 8 = 31 ∧ daysInMonth year 9 = 30 ∧
    daysInMonth year 10 = 31 ∧ daysInMonth year 11 = 30 ∧ daysInMonth year 12 = 31 := by
  unfold daysInMonth
  simp only [if_neg (show ¬ (year < 0 ∨ (1 : Int) < 0) by omega), if_neg (show ¬ (year < 0 ∨ (3 : Int) < 0) by omega),
    if_neg (show ¬ (year < 0 ∨ (4 : Int) < 0) by omega), if_neg (show ¬ (year < 0 ∨ (5 : Int) < 0) by omega),
    if_neg (show ¬ (year < 0 ∨ (6 : Int) < 0) by omega), if_neg (show ¬ (year < 0 ∨ (7 : Int) < 0) by omega),
    if_neg (show ¬ (year < 0 ∨ (8 : Int) < 0) by omega), if_neg (show ¬ (year < 0 ∨ (9 : Int) < 0) by omega),
    if_neg (show ¬ (year < 0 ∨ (10 : Int) < 0) by omega), if_neg (show ¬ (year < 0 ∨ (11 : Int) < 0) by omega),
    if_neg (show ¬ (year < 0 ∨ (12 : Int) < 0) by omega)]
  exact ⟨rfl, rfl, rfl, rfl, rfl, rfl, rfl, rfl, rfl, rfl, rfl⟩

/-- Days before the first of March of a year, counted from March of year 0. -/
def marchStart (year : Int) : Int :=
  365 * year + year / 4 - year / 100 + year / 400

/-- Days of a year, begun in March, before its month. -/
def monthStart (monthPrime : Int) : Int :=
  (153 * monthPrime + 2) / 5

theorem daysFromCivil_late (nonneg : 0 ≤ year) (late : 2 < month) :
    daysFromCivil year month day = marchStart year + monthStart (month - 3) + day - 1 - 719468 := by
  unfold daysFromCivil marchStart monthStart
  dsimp only
  rw [if_neg (show ¬ month ≤ 2 by omega), if_pos nonneg, if_pos (show month > 2 from late)]
  simp (disch := omega) only [Int.tdiv_eq_ediv_of_nonneg]
  omega

theorem daysFromCivil_early (positive : 1 ≤ year) (first : 1 ≤ month) (early : month ≤ 2) :
    daysFromCivil year month day = marchStart (year - 1) + monthStart (month + 9) + day - 1 - 719468 := by
  unfold daysFromCivil marchStart monthStart
  dsimp only
  rw [if_pos early, if_pos (show 0 ≤ year - 1 by omega), if_neg (show ¬ month > 2 by omega)]
  simp (disch := omega) only [Int.tdiv_eq_ediv_of_nonneg]
  omega

end

/-- The year of an era its day falls in, years beginning in March. -/
def yearOfEra (dayOfEra : Int) : Int :=
  (dayOfEra - dayOfEra / 1460 + dayOfEra / 36524 - dayOfEra / 146096) / 365

/-- The day of that year. -/
def dayOfYear (dayOfEra : Int) : Int :=
  dayOfEra - (365 * yearOfEra dayOfEra + yearOfEra dayOfEra / 4 - yearOfEra dayOfEra / 100)

/-- A day of an era falls in one of its years, and only a leap February ends with a 366th day. -/
theorem yearOfEra_spec {dayOfEra : Int} (nonneg : 0 ≤ dayOfEra) (within : dayOfEra < 146097) :
    0 ≤ yearOfEra dayOfEra ∧ yearOfEra dayOfEra ≤ 399 ∧ 0 ≤ dayOfYear dayOfEra ∧ dayOfYear dayOfEra ≤ 365 ∧
      (dayOfYear dayOfEra = 365 → yearOfEra dayOfEra % 4 = 3 ∧
        (yearOfEra dayOfEra % 100 ≠ 99 ∨ yearOfEra dayOfEra = 399)) := by
  unfold dayOfYear
  obtain ⟨leaps, isLeaps⟩ : ∃ leaps, leaps = dayOfEra / 1460 := ⟨_, rfl⟩
  obtain ⟨century, isCentury⟩ : ∃ century, century = dayOfEra / 36524 := ⟨_, rfl⟩
  obtain ⟨last, isLast⟩ : ∃ last, last = dayOfEra / 146096 := ⟨_, rfl⟩
  obtain ⟨year, isYear⟩ : ∃ year, year = yearOfEra dayOfEra := ⟨_, rfl⟩
  obtain ⟨quarter, isQuarter⟩ : ∃ quarter, quarter = year / 4 := ⟨_, rfl⟩
  obtain ⟨hundred, isHundred⟩ : ∃ hundred, hundred = year / 100 := ⟨_, rfl⟩
  rw [← isYear, ← isQuarter, ← isHundred]
  unfold yearOfEra at isYear
  rw [← isLeaps, ← isCentury, ← isLast] at isYear
  have lowest : 365 * year ≤ dayOfEra - leaps + century - last := by omega
  have highest : dayOfEra - leaps + century - last < 365 * year + 365 := by omega
  have fewest : 1460 * leaps ≤ dayOfEra := by omega
  have most : dayOfEra < 1460 * leaps + 1460 := by omega
  have four : year = 4 * quarter ∨ year = 4 * quarter + 1 ∨ year = 4 * quarter + 2 ∨ year = 4 * quarter + 3 := by omega
  have centuries : century = 0 ∨ century = 1 ∨ century = 2 ∨ century = 3 ∨ century = 4 := by omega
  clear isYear isLeaps
  have spared : century - last ≤ leaps := by omega
  have enough : quarter ≤ leaps := by omega
  rcases centuries with rfl | rfl | rfl | rfl | rfl
  case inr.inr.inr.inr =>
    have final : dayOfEra = 146096 := by omega
    subst final
    have one : last = 1 := by omega
    have hundredLeaps : leaps = 100 := by omega
    subst one hundredLeaps
    have isLastYear : year = 399 := by omega
    subst isLastYear
    omega
  all_goals
    have none : last = 0 := by omega
    subst none
    have sameCentury : dayOfEra / 36524 = hundred := by omega
    refine ⟨by omega, by omega, by omega, ?_, ?_⟩
    · rcases four with rfl | rfl | rfl | rfl <;> omega
    · rcases four with rfl | rfl | rfl | rfl <;> omega

section

variable {year month day : Int}

/-- A date of March or later ends before the next month begins. -/
theorem late_in_month (nonneg : 0 ≤ year) (date : CivilDate year month day) (late : 2 < month) :
    monthStart (month - 3) + day - 1 < monthStart (month - 2) := by
  obtain ⟨⟨_, twelve⟩, first, last⟩ := date
  obtain ⟨_, march, april, may, june, july, august, september, october, november, december⟩ :=
    daysInMonth_other nonneg
  have cases_ : month = 3 ∨ month = 4 ∨ month = 5 ∨ month = 6 ∨ month = 7 ∨ month = 8 ∨ month = 9 ∨ month = 10 ∨
      month = 11 ∨ month = 12 := by omega
  unfold monthStart
  rcases cases_ with rfl | rfl | rfl | rfl | rfl | rfl | rfl | rfl | rfl | rfl <;> omega

/-- A date of January or February ends before March does begin. -/
theorem early_in_month (positive : 1 ≤ year) (date : CivilDate year month day) (early : month ≤ 2) :
    monthStart (month + 9) + day - 1 < monthStart (month + 10) ∧
      marchStart (year - 1) + monthStart (month + 9) + day - 1 < marchStart year := by
  obtain ⟨⟨one, _⟩, first, last⟩ := date
  have january := (daysInMonth_other (show 0 ≤ year by omega)).1
  obtain ⟨leap, common⟩ := daysInMonth_february (show 0 ≤ year by omega)
  have cases_ : month = 1 ∨ month = 2 := by omega
  unfold monthStart marchStart
  rcases cases_ with rfl | rfl
  · omega
  · by_cases isLeap : IsLeap year
    · rw [leap isLeap] at last
      unfold IsLeap at isLeap
      omega
    · rw [common isLeap] at last
      unfold IsLeap at isLeap
      omega

theorem marchStart_lt {first second : Int} (before : first < second) : marchStart first < marchStart second := by
  unfold marchStart
  omega

theorem monthStart_le {first second : Int} (before : first ≤ second) : monthStart first ≤ monthStart second := by
  unfold monthStart
  omega

theorem CivilDate.in_year (date : CivilDate year month day) (positive : 1 ≤ year) :
    daysFromCivil year 1 1 ≤ daysFromCivil year month day ∧
      daysFromCivil year month day < daysFromCivil (year + 1) 1 1 := by
  rw [daysFromCivil_early positive (by omega) (by omega),
    daysFromCivil_early (show 1 ≤ year + 1 by omega) (by omega) (by omega), show year + 1 - 1 = year by omega]
  have first := date.inMonth.1
  have january : monthStart (1 + 9) = 306 := by decide
  by_cases early : month ≤ 2
  · have last := (early_in_month positive date early).2
    have begins := monthStart_le (show (1 : Int) + 9 ≤ month + 9 by have := date.inYear.1; omega)
    rw [daysFromCivil_early positive date.inYear.1 early]
    omega
  · have last := late_in_month (show 0 ≤ year by omega) date (show 2 < month by omega)
    have ends := monthStart_le (show month - 2 ≤ 1 + 9 by have := date.inYear.2; omega)
    have starts := monthStart_le (show 0 ≤ month - 3 by omega)
    have zero : monthStart 0 = 0 := by decide
    have march : marchStart (year - 1) + 306 ≤ marchStart year := by
      unfold marchStart
      omega
    rw [daysFromCivil_late (by omega) (by omega)]
    omega

/-- In calendar order. -/
def Before (first second : Int × Int × Int) : Prop :=
  first.1 < second.1 ∨ first.1 = second.1 ∧
    (first.2.1 < second.2.1 ∨ first.2.1 = second.2.1 ∧ first.2.2 < second.2.2)

theorem before_trichotomy (first second : Int × Int × Int) :
    Before first second ∨ first = second ∨ Before second first := by
  obtain ⟨year, month, day⟩ := first
  obtain ⟨year', month', day'⟩ := second
  unfold Before
  simp only [Prod.mk.injEq]
  omega

theorem CivilDate.lt_of_month {month' day' : Int} (date : CivilDate year month day)
    (later : CivilDate year month' day') (positive : 1 ≤ year) (before : month < month') :
    daysFromCivil year month day < daysFromCivil year month' day' := by
  have first := later.inMonth.1
  by_cases early : month ≤ 2
  · obtain ⟨inMonth, inYear⟩ := early_in_month positive date early
    rw [daysFromCivil_early positive date.inYear.1 early]
    by_cases early' : month' ≤ 2
    · have starts := monthStart_le (show month + 10 ≤ month' + 9 by omega)
      rw [daysFromCivil_early positive later.inYear.1 early']
      omega
    · have starts := monthStart_le (show 0 ≤ month' - 3 by omega)
      have zero : monthStart 0 = 0 := by decide
      rw [daysFromCivil_late (by omega) (by omega)]
      omega
  · have inMonth := late_in_month (show 0 ≤ year by omega) date (show 2 < month by omega)
    have starts := monthStart_le (show month - 2 ≤ month' - 3 by omega)
    rw [daysFromCivil_late (by omega) (by omega), daysFromCivil_late (by omega) (by omega)]
    omega

theorem daysFromCivil_day (positive : 1 ≤ year) (date : CivilDate year month day) :
    daysFromCivil year month day = daysFromCivil year month 1 + (day - 1) := by
  by_cases early : month ≤ 2
  · rw [daysFromCivil_early positive date.inYear.1 early, daysFromCivil_early positive date.inYear.1 early]
    omega
  · rw [daysFromCivil_late (by omega) (by omega), daysFromCivil_late (by omega) (by omega)]
    omega

theorem yearStart_le {first second : Int} (positive : 1 ≤ first) (before : first ≤ second) :
    daysFromCivil first 1 1 ≤ daysFromCivil second 1 1 := by
  rw [daysFromCivil_early positive (by omega) (by omega), daysFromCivil_early (by omega) (by omega) (by omega)]
  rcases Int.lt_or_eq_of_le before with less | rfl
  · have marches := marchStart_lt (show first - 1 < second - 1 by omega)
    omega
  · exact Int.le_refl _

/-- Days count up in calendar order. -/
theorem CivilDate.daysFromCivil_lt {year' month' day' : Int} (date : CivilDate year month day)
    (later : CivilDate year' month' day') (positive : 1 ≤ year)
    (before : Before (year, month, day) (year', month', day')) :
    daysFromCivil year month day < daysFromCivil year' month' day' := by
  rcases before with years | ⟨sameYear, months | ⟨sameMonth, days⟩⟩
  · have first := (date.in_year positive).2
    have starts := yearStart_le (show 1 ≤ year + 1 by omega) (show year + 1 ≤ year' from years)
    have second := (later.in_year (show 1 ≤ year' by omega)).1
    omega
  · cases sameYear
    exact date.lt_of_month later positive months
  · cases sameYear
    cases sameMonth
    rw [daysFromCivil_day positive date, daysFromCivil_day positive later]
    dsimp only at days
    omega

end

section

variable {days : Int}

/-- The parts a day count is taken into. -/
structure DayParts (days era dayOfEra : Int) : Prop where
  whole : days + 719468 = era * 146097 + dayOfEra
  era : 0 ≤ era
  within : 0 ≤ dayOfEra ∧ dayOfEra < 146097

theorem dayParts (after : 0 ≤ days + 719468) :
    DayParts days ((days + 719468) / 146097) ((days + 719468) % 146097) := by
  constructor <;> omega

/-- The month, counted from March, that a day of a year begun in March falls in. -/
def monthPrime (dayOfYear : Int) : Int :=
  (5 * dayOfYear + 2) / 153

theorem civilFromDays_eq {era dayOfEra : Int} (parts : DayParts days era dayOfEra) :
    civilFromDays days =
      (if monthPrime (dayOfYear dayOfEra) < 10 then yearOfEra dayOfEra + era * 400
        else yearOfEra dayOfEra + era * 400 + 1,
       if monthPrime (dayOfYear dayOfEra) < 10 then monthPrime (dayOfYear dayOfEra) + 3
        else monthPrime (dayOfYear dayOfEra) - 9,
       dayOfYear dayOfEra - monthStart (monthPrime (dayOfYear dayOfEra)) + 1) := by
  obtain ⟨whole, eraNonneg, nonneg, within⟩ := parts
  obtain ⟨yearNonneg, _, dayNonneg, dayMost, _⟩ := yearOfEra_spec nonneg within
  have isEra : (if 0 ≤ days + 719468 then days + 719468 else days + 719468 - 146096).tdiv 146097 = era := by
    rw [if_pos (show 0 ≤ days + 719468 by omega), Int.tdiv_eq_ediv_of_nonneg (by omega)]
    omega
  have isDay : days + 719468 - era * 146097 = dayOfEra := by omega
  have isYear : (dayOfEra - dayOfEra.tdiv 1460 + dayOfEra.tdiv 36524 - dayOfEra.tdiv 146096).tdiv 365 =
      yearOfEra dayOfEra := by
    unfold yearOfEra
    rw [Int.tdiv_eq_ediv_of_nonneg nonneg, Int.tdiv_eq_ediv_of_nonneg nonneg, Int.tdiv_eq_ediv_of_nonneg nonneg,
      Int.tdiv_eq_ediv_of_nonneg (by omega)]
  have isDayOfYear : dayOfEra - (365 * yearOfEra dayOfEra + (yearOfEra dayOfEra).tdiv 4 -
      (yearOfEra dayOfEra).tdiv 100) = dayOfYear dayOfEra := by
    unfold dayOfYear
    rw [Int.tdiv_eq_ediv_of_nonneg yearNonneg, Int.tdiv_eq_ediv_of_nonneg yearNonneg]
  have isMonth : (5 * dayOfYear dayOfEra + 2).tdiv 153 = monthPrime (dayOfYear dayOfEra) := by
    unfold monthPrime
    rw [Int.tdiv_eq_ediv_of_nonneg (by omega)]
  have monthNonneg : 0 ≤ monthPrime (dayOfYear dayOfEra) := by
    unfold monthPrime
    omega
  have isStart : (153 * monthPrime (dayOfYear dayOfEra) + 2).tdiv 5 =
      monthStart (monthPrime (dayOfYear dayOfEra)) := by
    unfold monthStart
    rw [Int.tdiv_eq_ediv_of_nonneg (by omega)]
  have monthMost : monthPrime (dayOfYear dayOfEra) ≤ 11 := by
    unfold monthPrime
    omega
  unfold civilFromDays
  dsimp only
  rw [isEra, isDay, isYear, isDayOfYear, isMonth, isStart]
  by_cases late : monthPrime (dayOfYear dayOfEra) < 10
  · rw [if_pos late, if_pos late, if_pos late, if_neg (by omega)]
  · rw [if_neg late, if_neg late, if_neg late, if_pos (by omega)]
    rfl

theorem marchStart_era {year era : Int} (nonneg : 0 ≤ year) (within : year ≤ 399) :
    marchStart (year + era * 400) = era * 146097 + (365 * year + year / 4 - year / 100) := by
  unfold marchStart
  omega

/-- A day of a year begun in March is one of its month's days. -/
theorem monthPrime_spec {dayOfYear : Int} (nonneg : 0 ≤ dayOfYear) (within : dayOfYear ≤ 365) :
    0 ≤ monthPrime dayOfYear ∧ monthPrime dayOfYear ≤ 11 ∧ monthStart (monthPrime dayOfYear) ≤ dayOfYear ∧
      dayOfYear < monthStart (monthPrime dayOfYear + 1) := by
  unfold monthStart monthPrime
  omega

/-- A year that ends with a leap day is a leap year, of whichever era. -/
theorem isLeap_of_last {inEra era : Int} (fourth : inEra % 4 = 3) (whole : inEra % 100 ≠ 99 ∨ inEra = 399) :
    IsLeap (inEra + era * 400 + 1) := by
  unfold IsLeap
  constructor
  · omega
  · rcases whole with other | last
    · left
      omega
    · right
      omega

/-- A day count is a calendar's day, and that day's count is itself. -/
theorem civilFromDays_spec {year month day : Int} (after : 0 ≤ days + 719468)
    (made : civilFromDays days = (year, month, day)) :
    0 ≤ year ∧ CivilDate year month day ∧ daysFromCivil year month day = days := by
  have parts := dayParts after
  obtain ⟨era, isEra⟩ : ∃ era, era = (days + 719468) / 146097 := ⟨_, rfl⟩
  obtain ⟨dayOfEra, isDay⟩ : ∃ dayOfEra, dayOfEra = (days + 719468) % 146097 := ⟨_, rfl⟩
  rw [← isEra, ← isDay] at parts
  clear isEra isDay
  rw [civilFromDays_eq parts] at made
  obtain ⟨whole, eraNonneg, nonneg, within⟩ := parts
  obtain ⟨yearNonneg, yearMost, dayNonneg, dayMost, leapDay⟩ := yearOfEra_spec nonneg within
  obtain ⟨monthNonneg, monthMost, begun, ends⟩ := monthPrime_spec dayNonneg dayMost
  have isYear := @marchStart_era _ era yearNonneg yearMost
  have isDayOfYear : dayOfYear dayOfEra = dayOfEra - (365 * yearOfEra dayOfEra + yearOfEra dayOfEra / 4 -
      yearOfEra dayOfEra / 100) := rfl
  obtain ⟨inEra, isInEra⟩ : ∃ inEra, inEra = yearOfEra dayOfEra := ⟨_, rfl⟩
  obtain ⟨inYear, isInYear⟩ : ∃ inYear, inYear = dayOfYear dayOfEra := ⟨_, rfl⟩
  obtain ⟨prime, isPrime⟩ : ∃ prime, prime = monthPrime inYear := ⟨_, rfl⟩
  rw [← isInYear, ← isPrime, ← isInEra] at made
  rw [← isInYear, ← isPrime] at monthNonneg monthMost begun ends
  rw [← isInYear, ← isInEra] at leapDay isDayOfYear
  rw [← isInEra] at isYear yearNonneg yearMost
  by_cases late : prime < 10
  · rw [if_pos late, if_pos late] at made
    cases made
    have isCount := @daysFromCivil_late _ _ (inYear - monthStart prime + 1) (show 0 ≤ inEra + era * 400 by omega)
      (show 2 < prime + 3 by omega)
    rw [show prime + 3 - 3 = prime by omega] at isCount
    refine ⟨by omega, ⟨⟨by omega, by omega⟩, by omega, ?_⟩, by omega⟩
    obtain ⟨_, march, april, may, june, july, august, september, october, november, december⟩ :=
      daysInMonth_other (show 0 ≤ inEra + era * 400 by omega)
    have cases_ : prime = 0 ∨ prime = 1 ∨ prime = 2 ∨ prime = 3 ∨ prime = 4 ∨ prime = 5 ∨ prime = 6 ∨ prime = 7 ∨
        prime = 8 ∨ prime = 9 := by omega
    unfold monthStart at ends ⊢
    rcases cases_ with same | same | same | same | same | same | same | same | same | same
    all_goals
      rw [same] at ends ⊢
      simp only [Int.reduceAdd]
      omega
  · rw [if_neg late, if_neg late] at made
    cases made
    have isCount := @daysFromCivil_early _ _ (inYear - monthStart prime + 1)
      (show 1 ≤ inEra + era * 400 + 1 by omega) (show 1 ≤ prime - 9 by omega) (show prime - 9 ≤ 2 by omega)
    rw [show inEra + era * 400 + 1 - 1 = inEra + era * 400 by omega,
      show prime - 9 + 9 = prime by omega] at isCount
    refine ⟨by omega, ⟨⟨by omega, by omega⟩, by omega, ?_⟩, by omega⟩
    have january := (daysInMonth_other (show 0 ≤ inEra + era * 400 + 1 by omega)).1
    obtain ⟨leap, common⟩ := daysInMonth_february (show 0 ≤ inEra + era * 400 + 1 by omega)
    have cases_ : prime = 10 ∨ prime = 11 := by omega
    rcases cases_ with same | same
    · rw [same] at ends ⊢
      unfold monthStart at ends ⊢
      simp only [Int.reduceSub]
      omega
    · rw [same] at ends ⊢
      unfold monthStart at ends ⊢
      simp only [Int.reduceSub]
      by_cases isLeap : IsLeap (inEra + era * 400 + 1)
      · rw [leap isLeap]
        omega
      · rw [common isLeap]
        have short : inYear ≠ 365 := fun last => isLeap (isLeap_of_last (leapDay last).1 (leapDay last).2)
        omega

theorem civilFromDays_early {year month day : Int} (after : 0 ≤ days + 719468)
    (made : civilFromDays days = (year, month, day)) (early : month ≤ 2) : 1 ≤ year := by
  have parts := dayParts after
  rw [civilFromDays_eq parts] at made
  obtain ⟨_, eraNonneg, nonneg, within⟩ := parts
  obtain ⟨yearNonneg, _, dayNonneg, dayMost, _⟩ := yearOfEra_spec nonneg within
  have monthNonneg := (monthPrime_spec dayNonneg dayMost).1
  by_cases late : monthPrime (dayOfYear ((days + 719468) % 146097)) < 10
  · rw [if_pos late, if_pos late] at made
    cases made
    omega
  · rw [if_neg late, if_neg late] at made
    cases made
    omega

/-- The days of the years 1 to 9999. -/
structure InCalendar (days : Int) : Prop where
  first : -719162 ≤ days
  last : days ≤ 2932896

theorem InCalendar.year {year month day : Int} (inside : InCalendar days)
    (made : civilFromDays days = (year, month, day)) : 1 ≤ year ∧ year ≤ 9999 := by
  obtain ⟨first, last⟩ := inside
  obtain ⟨nonneg, date, same⟩ := civilFromDays_spec (show 0 ≤ days + 719468 by omega) made
  have positive : 1 ≤ year := by
    by_contra none
    have zero : year = 0 := by omega
    subst zero
    by_cases early : month ≤ 2
    · exact absurd (civilFromDays_early (show 0 ≤ days + 719468 by omega) made early) (by decide)
    · have ends := late_in_month nonneg date (show 2 < month by omega)
      have most := monthStart_le (show month - 2 ≤ 10 by have := date.inYear.2; omega)
      have final : monthStart 10 = 306 := by decide
      rw [daysFromCivil_late nonneg (by omega), show marchStart 0 = 0 by decide] at same
      omega
  refine ⟨positive, ?_⟩
  by_contra beyond
  have begins := (date.in_year positive).1
  have starts := yearStart_le (show (1 : Int) ≤ 10000 by decide) (show (10000 : Int) ≤ year by omega)
  rw [same] at begins
  rw [show daysFromCivil 10000 1 1 = 2932897 by decide] at starts
  omega

/-- Later days are later in the calendar. -/
theorem civilFromDays_before {first second : Int} (inside : InCalendar first) (inside' : InCalendar second)
    (less : first < second) : Before (civilFromDays first) (civilFromDays second) := by
  obtain ⟨⟨year, month, day⟩, made⟩ : ∃ date, date = civilFromDays first := ⟨_, rfl⟩
  obtain ⟨⟨year', month', day'⟩, made'⟩ : ∃ date, date = civilFromDays second := ⟨_, rfl⟩
  have after := inside.first
  have after' := inside'.first
  obtain ⟨_, date, same⟩ := civilFromDays_spec (show 0 ≤ first + 719468 by omega) made.symm
  obtain ⟨_, date', same'⟩ := civilFromDays_spec (show 0 ≤ second + 719468 by omega) made'.symm
  rw [← made, ← made']
  rcases before_trichotomy (year, month, day) (year', month', day') with before | equal | reversed
  · exact before
  · cases equal
    omega
  · have counts := date'.daysFromCivil_lt date (inside'.year made'.symm).1 reversed
    omega

end

section

variable {year month day : Int}

/-- The dates of the years 1 to 9999. -/
def civilDates : Set (Int × Int × Int) :=
  { date | 1 ≤ date.1 ∧ date.1 ≤ 9999 ∧ CivilDate date.1 date.2.1 date.2.2 }

/-- The day numbers those years have. -/
def calendarDays : Set Int :=
  { days | daysFromCivil 1 1 1 ≤ days ∧ days ≤ daysFromCivil 9999 12 31 }

/-- The day after a date. -/
def nextDate (date : Int × Int × Int) : Int × Int × Int :=
  if date.2.2 < daysInMonth date.1 date.2.1 then (date.1, date.2.1, date.2.2 + 1)
  else if date.2.1 < 12 then (date.1, date.2.1 + 1, 1)
  else (date.1 + 1, 1, 1)

theorem daysInMonth_pos (nonneg : 0 ≤ year) (first : 1 ≤ month) (last : month ≤ 12) : 1 ≤ daysInMonth year month := by
  obtain ⟨january, march, april, may, june, july, august, september, october, november, december⟩ :=
    daysInMonth_other nonneg
  obtain ⟨leap, common⟩ := daysInMonth_february nonneg
  have cases_ : month = 1 ∨ month = 2 ∨ month = 3 ∨ month = 4 ∨ month = 5 ∨ month = 6 ∨ month = 7 ∨ month = 8 ∨
      month = 9 ∨ month = 10 ∨ month = 11 ∨ month = 12 := by omega
  rcases cases_ with rfl | rfl | rfl | rfl | rfl | rfl | rfl | rfl | rfl | rfl | rfl | rfl
  case inr.inl =>
    by_cases isLeap : IsLeap year
    · rw [leap isLeap]
      decide
    · rw [common isLeap]
      decide
  all_goals omega

/-- The last day of a month is counted right before the first of the next. -/
theorem daysFromCivil_monthEnd (positive : 1 ≤ year) (first : 1 ≤ month) (before : month < 12) :
    daysFromCivil year (month + 1) 1 = daysFromCivil year month (daysInMonth year month) + 1 := by
  obtain ⟨january, march, april, may, june, july, august, september, october, november, _⟩ :=
    daysInMonth_other (show 0 ≤ year by omega)
  obtain ⟨leap, common⟩ := daysInMonth_february (show 0 ≤ year by omega)
  have cases_ : month = 1 ∨ month = 2 ∨ 2 < month := by omega
  rcases cases_ with rfl | rfl | late
  · rw [daysFromCivil_early positive (by decide) (by decide), daysFromCivil_early positive (by decide) (by decide),
      january, show monthStart (1 + 1 + 9) = 337 by decide, show monthStart (1 + 9) = 306 by decide]
    omega
  · rw [daysFromCivil_late (show 0 ≤ year by omega) (by decide), daysFromCivil_early positive (by decide) (by decide),
      show monthStart (2 + 1 - 3) = 0 by decide, show monthStart (2 + 9) = 337 by decide]
    unfold marchStart
    by_cases isLeap : IsLeap year
    · rw [leap isLeap]
      unfold IsLeap at isLeap
      omega
    · rw [common isLeap]
      unfold IsLeap at isLeap
      omega
  · have cases_ : month = 3 ∨ month = 4 ∨ month = 5 ∨ month = 6 ∨ month = 7 ∨ month = 8 ∨ month = 9 ∨ month = 10 ∨
        month = 11 := by omega
    rw [daysFromCivil_late (show 0 ≤ year by omega) (by omega), daysFromCivil_late (show 0 ≤ year by omega) late]
    unfold monthStart
    rcases cases_ with rfl | rfl | rfl | rfl | rfl | rfl | rfl | rfl | rfl <;> omega

/-- The last day of a year is counted right before the first of the next. -/
theorem daysFromCivil_yearEnd (positive : 1 ≤ year) :
    daysFromCivil (year + 1) 1 1 = daysFromCivil year 12 (daysInMonth year 12) + 1 := by
  obtain ⟨_, _, _, _, _, _, _, _, _, _, december⟩ := daysInMonth_other (show 0 ≤ year by omega)
  rw [daysFromCivil_early (show 1 ≤ year + 1 by omega) (by decide) (by decide),
    daysFromCivil_late (show 0 ≤ year by omega) (by decide), december, show year + 1 - 1 = year by omega,
    show monthStart (1 + 9) = 306 by decide, show monthStart (12 - 3) = 275 by decide]
  omega

/-- The day after a date is a date, counted one more. -/
theorem nextDate_spec (positive : 1 ≤ year) (date : CivilDate year month day) :
    ∃ year' month' day', nextDate (year, month, day) = (year', month', day') ∧ 1 ≤ year' ∧
      CivilDate year' month' day' ∧ daysFromCivil year' month' day' = daysFromCivil year month day + 1 := by
  obtain ⟨⟨first, twelve⟩, one, most⟩ := date
  unfold nextDate
  dsimp only
  by_cases within : day < daysInMonth year month
  · rw [if_pos within]
    have later : CivilDate year month (day + 1) := ⟨⟨first, twelve⟩, by omega, by omega⟩
    refine ⟨year, month, day + 1, rfl, positive, later, ?_⟩
    rw [daysFromCivil_day positive later, daysFromCivil_day positive ⟨⟨first, twelve⟩, one, most⟩]
    omega
  · have ends : day = daysInMonth year month := by omega
    rw [if_neg within]
    by_cases before : month < 12
    · rw [if_pos before]
      have some_ := daysInMonth_pos (show 0 ≤ year by omega) (show 1 ≤ month + 1 by omega) (by omega)
      refine ⟨year, month + 1, 1, rfl, positive, ⟨⟨by omega, by omega⟩, by omega, some_⟩, ?_⟩
      rw [ends, daysFromCivil_monthEnd positive first before]
    · have december : month = 12 := by omega
      subst december
      rw [if_neg before]
      have some_ := daysInMonth_pos (show 0 ≤ year + 1 by omega) (show (1 : Int) ≤ 1 by omega) (by omega)
      refine ⟨year + 1, 1, 1, rfl, by omega, ⟨⟨by omega, by omega⟩, by omega, some_⟩, ?_⟩
      rw [ends, daysFromCivil_yearEnd positive]

/-- A date is told by its count. -/
theorem CivilDate.unique {year' month' day' : Int} (date : CivilDate year month day)
    (date' : CivilDate year' month' day') (positive : 1 ≤ year) (positive' : 1 ≤ year')
    (same : daysFromCivil year month day = daysFromCivil year' month' day') :
    (year, month, day) = (year', month', day') := by
  rcases before_trichotomy (year, month, day) (year', month', day') with before | equal | reversed
  · have counts := date.daysFromCivil_lt date' positive before
    omega
  · exact equal
  · have counts := date'.daysFromCivil_lt date positive' reversed
    omega

/-- A date of the calendar is counted among its days. -/
theorem CivilDate.inCalendar (date : CivilDate year month day) (positive : 1 ≤ year) (within : year ≤ 9999) :
    InCalendar (daysFromCivil year month day) := by
  have begins := yearStart_le (show (1 : Int) ≤ 1 by decide) positive
  have ends := yearStart_le (show 1 ≤ year + 1 by omega) (show year + 1 ≤ 10000 by omega)
  have inYear := date.in_year positive
  rw [show daysFromCivil 1 1 1 = -719162 by decide] at begins
  rw [show daysFromCivil 10000 1 1 = 2932897 by decide] at ends
  constructor <;> omega

/-- The day numbers from the first of January of year 1 to the last of December of year 9999 are the dates of those
years, one for one; a date's number is the one it was made from, and the next number is the next day's. -/
theorem civil_calendar :
    Set.BijOn civilFromDays calendarDays civilDates ∧
      ∀ days ∈ calendarDays,
        daysFromCivil (civilFromDays days).1 (civilFromDays days).2.1 (civilFromDays days).2.2 = days ∧
          (days < daysFromCivil 9999 12 31 → civilFromDays (days + 1) = nextDate (civilFromDays days)) := by
  have firstDay : daysFromCivil 1 1 1 = -719162 := by decide
  have lastDay : daysFromCivil 9999 12 31 = 2932896 := by decide
  unfold calendarDays
  rw [firstDay, lastDay]
  have spec : ∀ days, InCalendar days → civilFromDays days ∈ civilDates ∧
      daysFromCivil (civilFromDays days).1 (civilFromDays days).2.1 (civilFromDays days).2.2 = days := by
    intro days inside
    obtain ⟨⟨year, month, day⟩, made⟩ : ∃ date, date = civilFromDays days := ⟨_, rfl⟩
    obtain ⟨_, date, same⟩ := civilFromDays_spec (show 0 ≤ days + 719468 by have := inside.first; omega) made.symm
    obtain ⟨positive, within⟩ := inside.year made.symm
    rw [← made]
    exact ⟨⟨positive, within, date⟩, same⟩
  refine ⟨⟨?_, ?_, ?_⟩, ?_⟩
  · rintro days ⟨first, last⟩
    exact (spec days ⟨first, last⟩).1
  · rintro days ⟨first, last⟩ days' ⟨first', last'⟩ equal
    rw [← (spec days ⟨first, last⟩).2, equal]
    exact (spec days' ⟨first', last'⟩).2
  · rintro ⟨year, month, day⟩ ⟨positive, within, date⟩
    have inside := date.inCalendar positive within
    obtain ⟨⟨positive', _, date'⟩, same⟩ := spec _ inside
    exact ⟨_, ⟨inside.first, inside.last⟩, date'.unique date positive' positive same⟩
  · rintro days ⟨first, last⟩
    obtain ⟨⟨positive, _, date⟩, same⟩ := spec days ⟨first, last⟩
    refine ⟨same, ?_⟩
    intro before
    obtain ⟨year, month, day, isNext, positive', date', counted⟩ := nextDate_spec positive date
    obtain ⟨⟨positive'', _, date''⟩, same'⟩ := spec (days + 1) ⟨by omega, by omega⟩
    refine Eq.trans ?_ isNext.symm
    exact date''.unique date' positive'' positive' (same'.trans (by rw [counted, same]))

/-- The last of February of a leap year is followed by the first of March. -/
theorem civil_calendar_leap :
    daysFromCivil (civilFromDays 19782).1 (civilFromDays 19782).2.1 (civilFromDays 19782).2.2 = 19782 ∧
      civilFromDays (19782 + 1) = nextDate (2024, 2, 29) :=
  have inside : 19782 ∈ calendarDays := ⟨by decide, by decide⟩
  have leap : civilFromDays 19782 = (2024, 2, 29) := by decide
  ⟨(civil_calendar.2 19782 inside).1, ((civil_calendar.2 19782 inside).2 (by decide)).trans (by rw [leap])⟩

end

end Stozher.Clock
