import Taskboard.Text.Basic
import Taskboard.Text.CaseTable

/-!
# Small letters

The small-letter form of a text. Every capital has one small letter of its own, except that a dotted
capital I becomes two characters, and that a capital sigma ending a word takes the final form.
-/

namespace Taskboard.Text

/-- Whether a range of the list holds the character. -/
def inRanges (ranges : List (Nat × Nat)) (c : CodePoint) : Bool :=
  ranges.any fun range => range.1 ≤ c.toNat && c.toNat ≤ range.2

/-- Small letter of a character taken by itself; anything but a capital stays. -/
def smallLetter (c : CodePoint) : CodePoint :=
  match capitalRuns.find? fun run =>
      run.first ≤ c.toNat && c.toNat ≤ run.last && (c.toNat - run.first) % run.step == 0 with
  | some run => CodePoint.ofNat (run.small + (c.toNat - run.first))
  | none => c

/-- Whether the first character that is not passed over has a case. -/
def meetsCased (text : List CodePoint) : Bool :=
  match text.dropWhile (inRanges passedOverRanges) with
  | [] => false
  | c :: _ => inRanges casedRanges c

/-- The capital sigma. -/
def capitalSigma : CodePoint := CodePoint.ofNat 0x3A3

/-- The small sigma inside a word. -/
def smallSigma : CodePoint := CodePoint.ofNat 0x3C3

/-- The small sigma that ends a word. -/
def finalSigma : CodePoint := CodePoint.ofNat 0x3C2

/-- The dotted capital I, whose small form keeps the dot as a mark of its own. -/
def dottedCapitalI : CodePoint := CodePoint.ofNat 0x130

/-- Small form of one character between the text before it, read backwards, and the text after it.
A sigma ends a word when a letter stands before it and none after it. -/
def smallForm (before : List CodePoint) (c : CodePoint) (after : List CodePoint) : List CodePoint :=
  if c = capitalSigma then
    if meetsCased before && !meetsCased after then [finalSigma] else [smallSigma]
  else if c = dottedCapitalI then ['i', CodePoint.ofNat 0x307]
  else [smallLetter c]

/-- Small forms of a text that follows `before`, which is read backwards. -/
def lowerFrom (before : List CodePoint) : List CodePoint → List CodePoint
  | [] => []
  | c :: after => smallForm before c after ++ lowerFrom (c :: before) after

/-- The small-letter form of a text. -/
def lower (text : Text) : Text :=
  Text.ofList (lowerFrom [] text.toList)

end Taskboard.Text
