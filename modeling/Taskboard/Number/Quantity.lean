import Taskboard.Number.Spelled
import Taskboard.Text.Quoted

/-!
# Quantities

A number as somebody gives it: a whole number of any size, a double, or a text that may spell one. Those
who need a whole number cut a double toward zero, which an infinity and what is not a number do not allow;
those who need a double take the nearest one, which a whole number beyond all doubles does not have. A
text has to spell a number of the kind that is needed, and a value of any other kind is no number at all.
-/

namespace Taskboard

/-- Something given as a number. -/
inductive Quantity where
  /-- A whole number of any size. -/
  | whole (value : Int)
  /-- A double. -/
  | double (value : Binary64)
  /-- A text that may spell a number. -/
  | spelled (text : Text)
  /-- A value of another kind, which is no number. -/
  | other (kind : Text)
deriving DecidableEq, Inhabited

/-- Why a quantity cannot be taken for the kind of number that is needed. -/
inductive QuantityFault where
  /-- No whole number is infinite. -/
  | infinite
  /-- It is not a number. -/
  | notANumber
  /-- It is beyond all doubles. -/
  | beyondDoubles
  /-- A text does not spell a whole number. -/
  | spellsNoInteger (text : Text)
  /-- A text does not spell a double. -/
  | spellsNoDouble (text : Text)
  /-- A text spells a whole number with too many digits. -/
  | tooManyDigits (digits : Nat)
  /-- No whole number is of this kind. -/
  | kindOfNoInteger (kind : Text)
  /-- No double is of this kind. -/
  | kindOfNoDouble (kind : Text)
  /-- Values of two kinds have no difference. -/
  | noDifference (kind other : Text)
deriving DecidableEq, Inhabited

namespace QuantityFault

/-- Greatest number of characters of a quoted text that does not spell a whole number. -/
def longestQuotation : Nat := 200

/-- Wording of why a quantity cannot be taken. -/
def message : QuantityFault → Text
  | .infinite => "cannot convert float infinity to integer"
  | .notANumber => "cannot convert float NaN to integer"
  | .beyondDoubles => "int too large to convert to float"
  | .spellsNoInteger text =>
    "invalid literal for int() with base 10: " ++
      Text.ofList ((Text.quoted text).toList.take longestQuotation)
  | .spellsNoDouble text => "could not convert string to float: " ++ Text.quoted text
  | .tooManyDigits digits =>
    "Exceeds the limit (4300 digits) for integer string conversion: value has " ++
      toString digits ++ " digits; use sys.set_int_max_str_digits() to increase the limit"
  | .kindOfNoInteger kind =>
    "int() argument must be a string, a bytes-like object or a real number, not '" ++ kind ++ "'"
  | .kindOfNoDouble kind => "float() argument must be a string or a real number, not '" ++ kind ++ "'"
  | .noDifference kind other =>
    "unsupported operand type(s) for -: '" ++ kind ++ "' and '" ++ other ++ "'"

end QuantityFault

namespace Quantity

/-- Name of the kind of a quantity. -/
def kind : Quantity → Text
  | .whole _ => "int"
  | .double _ => "float"
  | .spelled _ => "str"
  | .other kind => kind

/-- The digits and low lines that come first in a text, after a margin and a sign. -/
def leadingDigits (text : Text) : List CodePoint :=
  (Spelled.afterSign (Text.trimBy Decimal.isMargin text.toList)).2.takeWhile fun c =>
    (Text.digitValue? c).isSome || c = '_'

/-- Why a text spells no whole number. Too many digits are noticed before what follows them. -/
def integerFault (text : Text) : QuantityFault :=
  match Decimal.digits? (leadingDigits text) with
  | some ds => if Decimal.longest < ds.length then .tooManyDigits ds.length else .spellsNoInteger text
  | none => .spellsNoInteger text

/-- The whole number that a text spells. -/
def integerIn (text : Text) : Except QuantityFault Int :=
  match Decimal.readInt? text.toList with
  | some value => .ok value
  | none => .error (integerFault text)

/-- The whole number that is left of a quantity when its fraction is dropped. -/
def toInt : Quantity → Except QuantityFault Int
  | .whole value => .ok value
  | .double .notANumber => .error .notANumber
  | .double (.infinite _) => .error .infinite
  | .double value => .ok (value.wholePart?.getD 0)
  | .spelled text => integerIn text
  | .other kind => .error (.kindOfNoInteger kind)

/-- The double nearest to a quantity. -/
def toDouble : Quantity → Except QuantityFault Binary64
  | .double value => .ok value
  | .whole value =>
    match Binary64.ofInt value with
    | .infinite _ => .error .beyondDoubles
    | nearest => .ok nearest
  | .spelled text =>
    match Spelled.double? text.toList with
    | some value => .ok value
    | none => .error (.spellsNoDouble text)
  | .other kind => .error (.kindOfNoDouble kind)

end Quantity

end Taskboard
