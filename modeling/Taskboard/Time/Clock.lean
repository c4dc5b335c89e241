import Taskboard.Number.Quantity
import Taskboard.Time.Stamp

/-!
# Clocks

A clock shows something that is given as a number of seconds. Three readers take three things from it: a
task its whole second, the log its time to the thousandth, and the console its date and time of day. A
number that is no time, and what is no number, disappoint each of them in a way of its own.
-/

namespace Taskboard

/-- A clock. -/
structure Clock where
  /-- What it shows, in seconds since the start of 1970. -/
  shown : Quantity
deriving DecidableEq, Inhabited

namespace Clock

/-- A clock that shows whole seconds. -/
def ofInt (seconds : Int) : Clock := ⟨.whole seconds⟩

/-- The whole second that a clock shows: the time stamp of a task. -/
def second (clock : Clock) : Except QuantityFault Int := clock.shown.toInt

/-- The time of a log entry. Whole seconds have to be near a double, and a text has no thousandths, even if
it spells a whole number. -/
def logTime (clock : Clock) : Except QuantityFault Instant :=
  match clock.shown with
  | .whole seconds => clock.shown.toDouble.map fun _ => .ofInt seconds
  | .double reading => clock.second.map fun _ => (Instant.ofBinary64? reading).getD default
  | .spelled _ => clock.second.bind fun second =>
    .error (.noDifference clock.shown.kind (Quantity.whole second).kind)
  | .other _ => clock.second.map .ofInt

/-- Date and time of day, as the console prints them. -/
def stamp (clock : Clock) : Except StampFault Text :=
  match clock.shown with
  | .whole seconds => Instant.stampOf seconds
  | .double .notANumber => .error .notANumber
  | .double reading =>
    match Instant.ofBinary64? reading with
    | some time => time.stamp
    | none => .error .secondsTooLarge
  | .spelled _ | .other _ => .error (.kindOfNoTime clock.shown.kind)

end Clock

end Taskboard
