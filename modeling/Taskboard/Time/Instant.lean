import Taskboard.Number.Binary64

/-!
# Clock readings

A clock reading is an exact number of seconds since the start of 1970, possibly negative and possibly
fractional. Time stamps of tasks drop the fraction, calendar texts round down, and log lines add the
fraction in thousandths.
-/

namespace Taskboard

/-- A clock reading of `numerator / 2 ^ shift` seconds. -/
structure Instant where
  /-- Seconds in units of `2 ^ -shift`. -/
  numerator : Int
  /-- Binary places after the point. -/
  shift : Nat
deriving DecidableEq, Inhabited

namespace Instant

/-- A reading of whole seconds. -/
def ofInt (seconds : Int) : Instant := ⟨seconds, 0⟩

/-- The reading a finite double stands for. -/
def ofBinary64? : Binary64 → Option Instant
  | .finite negative m exponent =>
    let sign : Int := if negative then -1 else 1
    if exponent < 0 then some ⟨sign * m, exponent.natAbs⟩
    else some ⟨sign * (m * Nat.pow 2 exponent.natAbs : Nat), 0⟩
  | _ => none

/-- Units in a second. -/
def units (t : Instant) : Nat := Nat.pow 2 t.shift

/-- Seconds without their fraction: the time stamp of a task. -/
def wholeSeconds (t : Instant) : Int := t.numerator.tdiv t.units

/-- Seconds rounded down: the second shown in a calendar text. -/
def flooredSeconds (t : Instant) : Int := t.numerator / t.units

/-- Thousandths of the fraction, with its sign. The fraction times one thousand is first rounded to a
double, then cut. -/
def thousandths (t : Instant) : Int :=
  let fraction := t.numerator - t.wholeSeconds * t.units
  ((Binary64.ofRatio (fraction < 0) (1000 * fraction.natAbs) t.units).wholePart?).getD 0

end Instant

/-- A day of the calendar. -/
structure CivilDate where
  /-- Year, negative before the year zero. -/
  year : Int
  /-- Month from one to twelve. -/
  month : Nat
  /-- Day of the month from one. -/
  day : Nat
deriving DecidableEq, Inhabited

/-- Calendar day of the given number of days after the first of January 1970. Years are counted from
March, in eras of four hundred years, so that the leap day ends a year. -/
def CivilDate.ofDays (days : Int) : CivilDate :=
  let shifted := days + 719468
  let era := shifted / 146097
  let dayOfEra := (shifted % 146097).toNat
  let yearOfEra := (dayOfEra - dayOfEra / 1460 + dayOfEra / 36524 - dayOfEra / 146096) / 365
  let dayOfYear := dayOfEra - (365 * yearOfEra + yearOfEra / 4 - yearOfEra / 100)
  let marchMonth := (5 * dayOfYear + 2) / 153
  let day := dayOfYear - (153 * marchMonth + 2) / 5 + 1
  let month := if marchMonth < 10 then marchMonth + 3 else marchMonth - 9
  let year : Int := yearOfEra + era * 400
  ⟨if month ≤ 2 then year + 1 else year, month, day⟩

namespace Instant

/-- A number of at least two digits. -/
def twoDigits (n : Nat) : Text := if n < 10 then "0" ++ toString n else toString n

/-- Date and time of day of a reading, such as `1970-01-01 00:16:40`. -/
def calendarText (t : Instant) : Text :=
  let seconds := t.flooredSeconds
  let date := CivilDate.ofDays (seconds / 86400)
  let ofDay := (seconds % 86400).toNat
  toString date.year ++ "-" ++ twoDigits date.month ++ "-" ++ twoDigits date.day ++ " " ++
    twoDigits (ofDay / 3600) ++ ":" ++ twoDigits (ofDay / 60 % 60) ++ ":" ++ twoDigits (ofDay % 60)

/-- The fraction of a reading in three places, a minus sign taking one of them. -/
def thousandthsText (t : Instant) : Text :=
  let n := t.thousandths
  let digits := Nat.toDigits 10 n.natAbs
  let sign := if n < 0 then ['-'] else []
  Text.ofChars (sign ++ List.replicate (3 - sign.length - digits.length) '0' ++ digits)

end Instant

end Taskboard
