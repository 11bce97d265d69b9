import Stozher.Library.Checked
import Stozher.Error

namespace Stozher.Gateway.Durations

open Library

-- the value of a Unicode decimal digit, where a character is one
variable (decimal : Char → Option Nat)

def isDecimal (c : Char) : Bool :=
  (decimal c).isSome

def value (digits : List Char) : Nat :=
  digits.foldl (fun value c => value * 10 + (decimal c).getD 0) 0

/-- `(?:(\d+)U)?`. No unit is a digit, so there is nothing to come back to. -/
def optionalUnit (unit : Char) (text : List Char) : Option (List Char) × List Char :=
  let run := text.takeWhile (isDecimal decimal)
  let rest := text.dropWhile (isDecimal decimal)
  if run ≠ [] ∧ rest.head? = some unit then (some run, rest.drop 1) else (none, text)

structure Groups where
  days : Option (List Char)
  hours : Option (List Char)
  minutes : Option (List Char)
  seconds : Option (List Char)
  deriving DecidableEq

/-- `_DURATION.match`, whose time part may be left out or be empty. -/
def matchDuration (text : List Char) : Option Groups :=
  if text.head? ≠ some 'P' then none
  else
    let (days, rest) := optionalUnit decimal 'D' (text.drop 1)
    if rest = [] then some { days, hours := none, minutes := none, seconds := none }
    else if rest.head? ≠ some 'T' then none
    else
      let (hours, rest) := optionalUnit decimal 'H' (rest.drop 1)
      let (minutes, rest) := optionalUnit decimal 'M' rest
      let (seconds, rest) := optionalUnit decimal 'S' rest
      if rest = [] then some { days, hours, minutes, seconds } else none

/-- The digits `int` reads in a text, by default. -/
def maxStrDigits : Nat := 4300

/-- `int(value or 0)` of a group. -/
def int (group : Option (List Char)) : Result Nat :=
  match group with
  | none => .ok 0
  | some digits =>
      if maxStrDigits < digits.length then
        .error (err "ValueError" "Exceeds the limit (4300 digits) for integer string conversion")
      else .ok (value decimal digits)

def parseDuration (duration : String) : Result Nat := do
  let groups ← okOr (matchDuration decimal duration.toList)
    (err "ValueError" s!"encoding-bad-duration: {duration}")
  let days ← int decimal groups.days
  let hours ← int decimal groups.hours
  let minutes ← int decimal groups.minutes
  let seconds ← int decimal groups.seconds
  return days * 86400 + hours * 3600 + minutes * 60 + seconds

end Stozher.Gateway.Durations
