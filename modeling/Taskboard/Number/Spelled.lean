import Taskboard.Number.Binary64
import Taskboard.Number.Decimal

/-!
# Numbers spelled out

Doubles are read from texts that people write: margins, a sign, digits of any script with single low
lines between them, a point with digits on at least one side, and a power of ten. An infinity and what is
not a number have names. The value is the double nearest to the number that is written.
-/

namespace Taskboard.Spelled

open Taskboard.Text

/-- The digits a text starts with, single low lines between them left out, and the rest. -/
def digitRun : List CodePoint → List Nat × List CodePoint
  | [] => ([], [])
  | [c] =>
    match digitValue? c with
    | none => ([], [c])
    | some d => ([d], [])
  | c :: .char '_' :: rest =>
    match digitValue? c with
    | none => ([], c :: .char '_' :: rest)
    | some d =>
      match digitRun rest with
      | ([], _) => ([d], '_' :: rest)
      | (ds, after) => (d :: ds, after)
  | c :: next :: rest =>
    match digitValue? c with
    | none => ([], c :: next :: rest)
    | some d =>
      let (ds, after) := digitRun (next :: rest)
      (d :: ds, after)

/-- Whether a minus sign comes first, and what follows a sign. -/
def afterSign : List CodePoint → Bool × List CodePoint
  | .char '-' :: rest => (true, rest)
  | .char '+' :: rest => (false, rest)
  | rest => (false, rest)

/-- The digits after a point, if there is one, and the rest. -/
def afterPoint : List CodePoint → List Nat × List CodePoint
  | .char '.' :: rest => digitRun rest
  | rest => ([], rest)

/-- The power of ten that is all the rest of a text; without a rest it is none. -/
def powerOfTen? : List CodePoint → Option Int
  | [] => some 0
  | e :: rest =>
    if e = 'e' || e = 'E' then
      let (negative, digits) := afterSign rest
      match digitRun digits with
      | ([], _) => none
      | (ds, []) =>
        let power : Int := Decimal.ofDigits ds
        some (if negative then -power else power)
      | _ => none
    else none

/-- The names of what has no digits. -/
def named? (negative : Bool) (word : List CodePoint) : Option Binary64 :=
  let name := Text.ofList (word.map CodePoint.toLower)
  if name = "inf" || name = "infinity" then some (.infinite negative)
  else if name = "nan" then some .notANumber
  else none

/-- A number in digits, without its sign. -/
def inDigits? (negative : Bool) (text : List CodePoint) : Option Binary64 :=
  let (whole, rest) := digitRun text
  let (fraction, rest) := afterPoint rest
  match whole ++ fraction with
  | [] => none
  | ds => (powerOfTen? rest).map fun power =>
    .ofDecimal negative (Decimal.ofDigits ds) (power - fraction.length)

/-- The double that a text spells. -/
def double? (text : List CodePoint) : Option Binary64 :=
  let (negative, unsigned) := afterSign (trimBy Decimal.isMargin text)
  (named? negative unsigned).orElse fun _ => inDigits? negative unsigned

end Taskboard.Spelled
