import Taskboard.Text.Words
import Taskboard.Text.Digit

/-!
# Decimal integers of bounded length

Integers are written in decimal without leading zeros and read back from a more liberal form: margins,
a sign, digits of any script, and single low lines between digits. Neither direction handles more than
`longest` digits; the number of digits, not the value, decides.
-/

namespace Taskboard.Decimal

open Taskboard.Text

/-- Greatest number of digits that is read or written. -/
def longest : Nat := 4300

/-- Least natural number that has more than `longest` digits. -/
def bound : Nat := Nat.pow 10 longest

/-- Whether an integer has too many digits to be written. -/
def tooLong (n : Int) : Bool := bound ≤ n.natAbs

/-- Decimal digits of a natural number. -/
def ofNat (n : Nat) : List CodePoint := (Nat.toDigits 10 n).map .char

/-- Decimal digits of an integer after its sign. -/
def ofInt (n : Int) : List CodePoint :=
  if n < 0 then '-' :: ofNat n.natAbs else ofNat n.natAbs

/-- Decimal text of a natural number. -/
def natText (n : Nat) : Text := Text.ofList (ofNat n)

/-- Decimal text of an integer. -/
def intText (n : Int) : Text := Text.ofList (ofInt n)

/-- Values of a non-empty run of digits with at most one low line between neighbours. -/
def digits? : List CodePoint → Option (List Nat)
  | [] => none
  | [c] => (digitValue? c).map ([·])
  | c :: .char '_' :: rest => do
    let d ← digitValue? c
    let ds ← digits? rest
    return d :: ds
  | c :: next :: rest => do
    let d ← digitValue? c
    let ds ← digits? (next :: rest)
    return d :: ds

/-- Number with the given decimal digits, the highest first. -/
def ofDigits (ds : List Nat) : Nat := ds.foldl (fun n d => 10 * n + d) 0

/-- Reads an unsigned number of at most `longest` digits, leading zeros counted. -/
def readNat? (text : List CodePoint) : Option Nat := do
  let ds ← digits? text
  if ds.length ≤ longest then some (ofDigits ds) else none

/-- Characters that may surround a written number: the blanks without the four field separators. -/
def isMargin (c : CodePoint) : Bool :=
  isBlank c && !(0x1C ≤ c.toNat && c.toNat ≤ 0x1F)

/-- Reads an integer between margins, with one optional sign right before its digits. -/
def readInt? (text : List CodePoint) : Option Int :=
  match trimBy isMargin text with
  | .char '-' :: rest => (readNat? rest).map fun n => -(n : Int)
  | .char '+' :: rest => (readNat? rest).map Int.ofNat
  | rest => (readNat? rest).map Int.ofNat

end Taskboard.Decimal
