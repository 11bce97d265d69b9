import Stozher.Envelope

namespace Stozher.Clock

open Library Library.Text

def daysInMonth (year month : Int) : Int :=
  if year < 0 ∨ month < 0 then 0 else Envelope.daysInMonth year.toNat month.toNat

def daysFromCivil (year month day : Int) : Int :=
  let year := if month ≤ 2 then year - 1 else year
  let era := (if 0 ≤ year then year else year - 399).tdiv 400
  let yearOfEra := year - era * 400
  let dayOfYear := (153 * (month + if month > 2 then -3 else 9) + 2).tdiv 5 + day - 1
  let dayOfEra := yearOfEra * 365 + yearOfEra.tdiv 4 - yearOfEra.tdiv 100 + dayOfYear
  era * 146097 + dayOfEra - 719468

def civilFromDays (days : Int) : Int × Int × Int :=
  let days := days + 719468
  let era := (if 0 ≤ days then days else days - 146096).tdiv 146097
  let dayOfEra := days - era * 146097
  let yearOfEra :=
    (dayOfEra - dayOfEra.tdiv 1460 + dayOfEra.tdiv 36524 - dayOfEra.tdiv 146096).tdiv 365
  let year := yearOfEra + era * 400
  let dayOfYear := dayOfEra - (365 * yearOfEra + yearOfEra.tdiv 4 - yearOfEra.tdiv 100)
  let monthPrime := (5 * dayOfYear + 2).tdiv 153
  let day := dayOfYear - (153 * monthPrime + 2).tdiv 5 + 1
  let month := monthPrime + if monthPrime < 10 then 3 else -9
  (if month ≤ 2 then year + 1 else year, month, day)

def parseTimestamp (text : String) : Result Int := do
  let bad := err "encoding-bad-timestamp" (debug text)
  let b := octets text
  require (b.length = 24) bad
  let at_ := fun (position : Nat) (expected : UInt8) => b[position]? == some expected
  require (at_ 4 0x2d && at_ 7 0x2d && at_ 10 0x54 && at_ 13 0x3a && at_ 16 0x3a && at_ 19 0x2e
    && at_ 23 0x5a) bad
  let field := fun start stop : Nat => do
    let digits := (b.take stop).drop start
    require (digits.all isAsciiDigit) bad
    return (decimalValue digits : Int)
  let year ← field 0 4
  let month ← field 5 7
  let day ← field 8 10
  let hour ← field 11 13
  let minute ← field 14 16
  let second ← field 17 19
  let millis ← field 20 23
  require (1 ≤ year ∧ 1 ≤ month ∧ month ≤ 12 ∧ 1 ≤ day ∧ day ≤ daysInMonth year month) bad
  require (hour ≤ 23 ∧ minute ≤ 59 ∧ second ≤ 59) bad
  let days := daysFromCivil year month day
  return (days * 86400 + hour * 3600 + minute * 60 + second) * 1000 + millis

/-- A number in decimal, with leading zeros up to a width. -/
def padded (width : Nat) (value : Int) : String :=
  let digits := (toString value.natAbs).toList
  String.ofList ((if value < 0 then ['-'] else []) ++ List.replicate (width - digits.length) '0' ++ digits)

def formatMillis (millis : Int) : String :=
  let seconds := millis / 1000
  let sub := millis % 1000
  let days := seconds / 86400
  let timeOfDay := seconds % 86400
  let (year, month, day) := civilFromDays days
  let hour := timeOfDay / 3600
  let minute := timeOfDay % 3600 / 60
  let second := timeOfDay % 60
  padded 4 year ++ "-" ++ padded 2 month ++ "-" ++ padded 2 day ++ "T" ++ padded 2 hour ++ ":" ++
    padded 2 minute ++ ":" ++ padded 2 second ++ "." ++ padded 3 sub ++ "Z"

/-- Moves a timestamp. A product or sum beyond 64 bits is also beyond the representable range. -/
def shift (text : String) (seconds : Int) : Result String := do
  let millis ← parseTimestamp text
  let shifted := millis + seconds * 1000
  require (-62135596800000 ≤ shifted ∧ shifted ≤ 253402300799999) (err "encoding-bad-timestamp"
    s!"{debug text} shifted by {seconds}s leaves the representable range")
  return formatMillis shifted

structure DurationScan where
  total : Nat
  digits : Nat
  haveDigits : Bool
  sawComponent : Bool

def unitScale (unit : Char) : Nat :=
  if unit = 'D' then 86400 else if unit = 'H' then 3600 else if unit = 'M' then 60 else 1

def scanDuration (text : String) (units : List Char) (scan : DurationScan) (ch : Char) :
    Result DurationScan := do
  let bad := err "encoding-bad-duration" (debug text)
  let overflow := err "encoding-bad-duration" s!"{debug text} overflows"
  if '0' ≤ ch ∧ ch ≤ '9' then
    let digits := scan.digits * 10 + (ch.toNat - '0'.toNat)
    require (digits < 2 ^ 63) overflow
    return { scan with digits, haveDigits := true }
  else if ch ∈ units then
    require scan.haveDigits bad
    let total := scan.total + scan.digits * unitScale ch
    require (total < 2 ^ 63) overflow
    return { total, digits := 0, haveDigits := false, sawComponent := true }
  else throw bad

def parseDurationSeconds (text : String) : Result Int := do
  let bad := err "encoding-bad-duration" (debug text)
  let rest ← match text.toList with
    | 'P' :: rest => pure rest
    | _ => throw bad
  require (rest ≠ []) bad
  let datePart := rest.takeWhile (· != 'T')
  let timePart := (rest.dropWhile (· != 'T')).drop 1
  require (rest.contains 'T' = true → timePart ≠ []) bad
  let scan : DurationScan := { total := 0, digits := 0, haveDigits := false, sawComponent := false }
  let scan ← foldChecked (scanDuration text ['D']) scan datePart
  require (scan.haveDigits = false) bad
  let scan ← foldChecked (scanDuration text ['H', 'M', 'S']) scan timePart
  require (scan.haveDigits = false) bad
  require scan.sawComponent bad
  return scan.total

def addDuration (at_ duration : String) : Result String := do
  shift at_ (← parseDurationSeconds duration)

end Stozher.Clock
