import Taskboard.Json.Basic

/-!
# Written JSON

The form in which documents are saved: members and items on lines of their own, two blanks deeper than
their container, no final line end. Texts keep every character except the quote, the backslash and
the control characters below the blank. Integers with too many digits cannot be written.
-/

namespace Taskboard.Json

/-- Written form of one character of a text. -/
def writtenChar (c : CodePoint) : List CodePoint :=
  if c = Text.doubleQuote then ['\\', Text.doubleQuote]
  else if c = '\\' then ['\\', '\\']
  else if c = '\n' then ['\\', 'n']
  else if c = '\r' then ['\\', 'r']
  else if c = '\t' then ['\\', 't']
  else if c.toNat = 0x0C then ['\\', 'f']
  else if c.toNat = 0x08 then ['\\', 'b']
  else if c.toNat < 0x20 then '\\' :: 'u' :: Text.hexDigits 4 c.toNat
  else [c]

/-- Written form of a text. -/
def writtenText (text : Text) : List CodePoint :=
  Text.doubleQuote :: text.toList.flatMap writtenChar ++ [Text.doubleQuote]

/-- A new line indented for `depth` enclosing containers. -/
def newLine (depth : Nat) : List CodePoint := '\n' :: List.replicate (2 * depth) ' '

mutual

/-- Written form of a value inside `depth` containers. -/
def writtenAt (depth : Nat) : Json → List CodePoint
  | .null => ['n', 'u', 'l', 'l']
  | .bool value => if value then ['t', 'r', 'u', 'e'] else ['f', 'a', 'l', 's', 'e']
  | .int value => Decimal.ofInt value
  | .float value => value.text.toList
  | .string value => writtenText value
  | .list items =>
    match items with
    | [] => ['[', ']']
    | item :: rest =>
      .char '[' :: newLine (depth + 1) ++ writtenAt (depth + 1) item ++ writtenItems (depth + 1) rest ++
        newLine depth ++ [.char ']']
  | .object members =>
    match members with
    | [] => [CodePoint.ofNat 0x7B, CodePoint.ofNat 0x7D]
    | (name, value) :: rest =>
      CodePoint.ofNat 0x7B :: newLine (depth + 1) ++ writtenText name ++ .char ':' :: .char ' ' ::
        writtenAt (depth + 1) value ++ writtenMembers (depth + 1) rest ++ newLine depth ++
          [CodePoint.ofNat 0x7D]

/-- Written form of the items after the first. -/
def writtenItems (depth : Nat) : List Json → List CodePoint
  | [] => []
  | item :: rest => .char ',' :: newLine depth ++ writtenAt depth item ++ writtenItems depth rest

/-- Written form of the members after the first. -/
def writtenMembers (depth : Nat) : List (Text × Json) → List CodePoint
  | [] => []
  | (name, value) :: rest =>
    .char ',' :: newLine depth ++ writtenText name ++ .char ':' :: .char ' ' :: writtenAt depth value ++
      writtenMembers depth rest

end

/-- Written form of a document. -/
def written (value : Json) : List CodePoint := writtenAt 0 value

mutual

/-- Whether an integer somewhere in a value has too many digits to be written. -/
def holdsLongInteger : Json → Bool
  | .int value => Decimal.tooLong value
  | .list items => anyLongInteger items
  | .object members => anyLongMember members
  | _ => false

/-- Whether one of the items holds a long integer. -/
def anyLongInteger : List Json → Bool
  | [] => false
  | item :: rest => holdsLongInteger item || anyLongInteger rest

/-- Whether one of the members holds a long integer. -/
def anyLongMember : List (Text × Json) → Bool
  | [] => false
  | (_, value) :: rest => holdsLongInteger value || anyLongMember rest

end

end Taskboard.Json
