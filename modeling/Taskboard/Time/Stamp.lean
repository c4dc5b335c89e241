import Taskboard.Time.Instant

/-!
# Stamps

The date and time of day that the console prints. A reading is first rounded to millionths of a second,
then cut to the second. The calendar of the console has the years from 1 to 9999, and it looks one day
back before it settles on a date, so that the very first day has no stamp either. Years that do not fit
into 32 bits, and readings that do not fit into 64, are refused before the calendar is asked. What shows
no time at all has no stamp.
-/

namespace Taskboard

/-- Why a reading of the clock has no stamp. -/
inductive StampFault where
  /-- The calendar does not have the year. -/
  | yearOutOfRange (year : Int)
  /-- The number of the year is too large to be kept. -/
  | yearTooLarge
  /-- The number of seconds is too large to be kept. -/
  | secondsTooLarge
  /-- It is not a number. -/
  | notANumber
  /-- No time is of this kind. -/
  | kindOfNoTime (kind : Text)
deriving DecidableEq, Inhabited

/-- Wording of why a reading has no stamp. -/
def StampFault.message : StampFault → Text
  | .yearOutOfRange year => "year " ++ toString year ++ " is out of range"
  | .yearTooLarge => "[Errno 75] Value too large for defined data type"
  | .secondsTooLarge => "timestamp out of range for platform time_t"
  | .notANumber => "Invalid value NaN (not a number)"
  | .kindOfNoTime kind => "'" ++ kind ++ "' object cannot be interpreted as an integer"

namespace Instant

/-- Seconds of a reading that is rounded to the nearest millionth of a second, a half going to the even
neighbour. The millionths of the fraction are taken as a double. -/
def roundedSeconds (t : Instant) : Int :=
  let fraction := t.numerator - t.wholeSeconds * t.units
  let (numerator, denominator) :=
    ((Binary64.ofRatio (fraction < 0) (1000000 * fraction.natAbs) t.units).ratio?).getD (0, 1)
  let millionths := Binary64.roundDiv numerator.natAbs denominator
  if 0 ≤ numerator then t.wholeSeconds + (millionths / 1000000 : Nat)
  else if millionths = 0 then t.wholeSeconds
  else t.wholeSeconds - 1

/-- Seconds of a day. -/
def daySeconds : Int := 86400

/-- Year of a number of seconds. -/
def yearOf (seconds : Int) : Int := (CivilDate.ofDays (seconds / daySeconds)).year

/-- Year from which the years are counted where they are kept in 32 bits. -/
def yearOrigin : Int := 1900

/-- Half of the numbers of 32 bits. -/
def yearReach : Int := 2147483648

/-- Half of the numbers of 64 bits. -/
def secondsReach : Int := 9223372036854775808

/-- Whether the calendar text of a reading can be written at all: its year fits into 32 bits, counted from
either origin. -/
def hasCalendarText (t : Instant) : Bool :=
  let year := yearOf t.flooredSeconds
  year < yearReach && -yearReach ≤ year - yearOrigin

/-- Refuses a second whose year is not one of the calendar. A year past the end of 32 bits is reported
as what the 32 bits hold of it. -/
def checkYear (seconds : Int) : Except StampFault Unit :=
  let year := yearOf seconds
  if year - yearOrigin < -yearReach || yearReach ≤ year - yearOrigin then .error .yearTooLarge
  else if year < 1 || 9999 < year then
    .error (.yearOutOfRange (if yearReach ≤ year then year - 2 * yearReach else year))
  else .ok ()

/-- Date and time of day of a second, as the console prints them. -/
def stampOf (seconds : Int) : Except StampFault Text :=
  if seconds < -secondsReach || secondsReach ≤ seconds then .error .secondsTooLarge
  else
    match checkYear seconds, checkYear (seconds - daySeconds) with
    | .error fault, _ => .error fault
    | _, .error fault => .error fault
    | .ok _, .ok _ => .ok (ofInt seconds).calendarText

/-- Date and time of day of a reading, as the console prints them. The first second that does not fit into
64 bits is taken for the least one that does, whose year is too large. -/
def stamp (t : Instant) : Except StampFault Text :=
  let seconds := t.roundedSeconds
  stampOf (if seconds = secondsReach then -secondsReach else seconds)

end Instant

end Taskboard
