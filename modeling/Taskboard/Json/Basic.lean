import Taskboard.Keyed
import Taskboard.Number.Binary64
import Taskboard.Number.Decimal
import Taskboard.Text.Quoted

/-!
# JSON values

Values of a JSON document, with integers of any size apart from the other numbers, and the one-line
spelling in which messages show a value.
-/

namespace Taskboard

/-- A JSON value. The members of an object stand in document order. -/
inductive Json where
  | null
  | bool (value : Bool)
  | int (value : Int)
  | float (value : Binary64)
  | string (value : Text)
  | list (items : List Json)
  | object (members : List (Text × Json))
deriving Inhabited

namespace Json

/-- The text a value is, if it is one. -/
def string? : Json → Option Text
  | .string s => some s
  | _ => none

/-- The integer a value is, if it is one; truth values and other numbers are none. -/
def int? : Json → Option Int
  | .int n => some n
  | _ => none

/-- The texts of a list all of whose items are texts. -/
def strings? : Json → Option (List Text)
  | .list items => items.mapM string?
  | _ => none

mutual

/-- Spelling of a value inside another one: texts are quoted. -/
def spelling : Json → Text
  | .null => "None"
  | .bool value => if value then "True" else "False"
  | .int value => Decimal.intText value
  | .float value => value.text
  | .string value => Text.quoted value
  | .list items => "[" ++ Text.intercalate ", " (spellings items) ++ "]"
  | .object members => "\x7b" ++ Text.intercalate ", " (memberSpellings members) ++ "\x7d"

/-- Spellings of the items of a list. -/
def spellings : List Json → List Text
  | [] => []
  | item :: rest => spelling item :: spellings rest

/-- Spellings of the members of an object. -/
def memberSpellings : List (Text × Json) → List Text
  | [] => []
  | (name, value) :: rest => (Text.quoted name ++ ": " ++ spelling value) :: memberSpellings rest

end

/-- A value as it stands alone in a message: a text as it is, anything else spelled. -/
def shown : Json → Text
  | .string value => value
  | value => value.spelling

end Json

end Taskboard
