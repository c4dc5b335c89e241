import Taskboard.Text.Unprintable

/-!
# Quoted texts

A text between quotes for messages: one line, with every character that has no visible form spelled
out. The quote is the single one unless the text holds a single quote and no double quote.
-/

namespace Taskboard.Text

/-- The single quote. -/
def singleQuote : CodePoint := CodePoint.ofNat 0x27

/-- The double quote. -/
def doubleQuote : CodePoint := CodePoint.ofNat 0x22

/-- Lower-case hexadecimal digits of a number, filled up with zeros to a width. -/
def hexDigits (width n : Nat) : List CodePoint :=
  let digits := Nat.toDigits 16 n
  (List.replicate (width - digits.length) '0' ++ digits).map .char

/-- Spelling of one character inside a quoted text: the quote and the backslash follow a backslash,
line feeds, returns and tabs have letters, other unprintable characters their code point in the
narrowest of three widths. -/
def quotedChar (quote c : CodePoint) : List CodePoint :=
  if c = quote || c = '\\' then ['\\', c]
  else if c = '\n' then ['\\', 'n']
  else if c = '\r' then ['\\', 'r']
  else if c = '\t' then ['\\', 't']
  else if isPrintable c then [c]
  else if c.toNat < 0x100 then '\\' :: 'x' :: hexDigits 2 c.toNat
  else if c.toNat < 0x10000 then '\\' :: 'u' :: hexDigits 4 c.toNat
  else '\\' :: 'U' :: hexDigits 8 c.toNat

/-- The quote chosen for a text. -/
def quoteFor (text : List CodePoint) : CodePoint :=
  if text.contains singleQuote && !text.contains doubleQuote then doubleQuote else singleQuote

/-- A text between quotes. -/
def quoted (text : Text) : Text :=
  let quote := quoteFor text.toList
  Text.ofList (quote :: text.toList.flatMap (quotedChar quote) ++ [quote])

end Taskboard.Text
