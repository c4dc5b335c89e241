import Taskboard.Text.Basic

/-!
# Blanks, words and pieces of texts

The set of blank characters, and the cuts that lines and paths need: trimming both ends, splitting into
words, cutting at the first mark and splitting at every mark. Texts are handled as lists of characters.
-/

namespace Taskboard.Text

/-- A blank separates words: the control characters that end or separate lines and fields, the plain
and the unbreakable space, and every typographic space that has a width. -/
def isBlank (c : CodePoint) : Bool :=
  let n := c.toNat
  (0x09 ≤ n && n ≤ 0x0D) || (0x1C ≤ n && n ≤ 0x20) || n == 0x85 || n == 0xA0 || n == 0x1680 ||
    (0x2000 ≤ n && n ≤ 0x200A) || n == 0x2028 || n == 0x2029 || n == 0x202F || n == 0x205F ||
    n == 0x3000

/-- Drops the characters satisfying `p` from both ends. -/
def trimBy (p : CodePoint → Bool) (text : List CodePoint) : List CodePoint :=
  ((text.dropWhile p).reverse.dropWhile p).reverse

/-- Drops the blanks from both ends of a text. -/
def trim (text : Text) : Text :=
  Text.ofList (trimBy isBlank text.toList)

/-- Puts a word in front of others unless it is empty. -/
def consWord (word : List CodePoint) (others : List (List CodePoint)) : List (List CodePoint) :=
  if word.isEmpty then others else word :: others

/-- The word a text starts with, empty when it starts with a blank, and the words after it. -/
def leadingWord : List CodePoint → List CodePoint × List (List CodePoint)
  | [] => ([], [])
  | c :: rest =>
    let (word, others) := leadingWord rest
    if isBlank c then ([], consWord word others) else (c :: word, others)

/-- The non-empty runs of characters between blanks, in order. -/
def words (text : List CodePoint) : List (List CodePoint) :=
  consWord (leadingWord text).1 (leadingWord text).2

/-- The text before the first `mark`, and the text after it (empty when there is no mark). -/
def cutAt (mark : CodePoint) (text : List CodePoint) : List CodePoint × List CodePoint :=
  (text.takeWhile (· ≠ mark), (text.dropWhile (· ≠ mark)).drop 1)

/-- The pieces of a text between the occurrences of `mark`, empty ones included. -/
def pieces (mark : CodePoint) : List CodePoint → List (List CodePoint)
  | [] => [[]]
  | c :: rest =>
    if c = mark then [] :: pieces mark rest
    else
      match pieces mark rest with
      | [] => [[c]]
      | piece :: others => (c :: piece) :: others

end Taskboard.Text
