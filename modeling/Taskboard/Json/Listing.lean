import Taskboard.Json.Basic

/-!
# Listed texts

Any value that holds texts one after another can be listed: a list of texts, an object by the names of
its members, a text by its letters. A value that holds none of its own accord cannot, and a list must
hold nothing but texts.
-/

namespace Taskboard

/-- Why the texts of a value cannot be listed. -/
inductive ListingFault where
  /-- The value holds nothing one after another. -/
  | notListing
  /-- Something of another kind stands at a position. -/
  | notText (position : Nat) (kind : Text)
deriving DecidableEq, Inhabited

/-- Wording of why texts cannot be listed. -/
def ListingFault.message : ListingFault → Text
  | .notListing => "can only join an iterable"
  | .notText position kind =>
    "sequence item " ++ toString position ++ ": expected str instance, " ++ kind ++ " found"

namespace Json

/-- Name of the kind of a value. -/
def kind : Json → Text
  | .null => "NoneType"
  | .bool _ => "bool"
  | .int _ => "int"
  | .float _ => "float"
  | .string _ => "str"
  | .list _ => "list"
  | .object _ => "dict"

/-- Texts among the items of a list from a position on; all items have to be texts. -/
def listedFrom (position : Nat) : List Json → Except ListingFault (List Text)
  | [] => .ok []
  | .string text :: rest => (listedFrom (position + 1) rest).map (text :: ·)
  | item :: _ => .error (.notText position item.kind)

/-- The texts that a value lists. -/
def listedTexts : Json → Except ListingFault (List Text)
  | .list items => listedFrom 0 items
  | .object members => .ok (members.map Prod.fst)
  | .string text => .ok (text.toList.map fun c => Text.ofList [c])
  | _ => .error .notListing

end Json

end Taskboard
