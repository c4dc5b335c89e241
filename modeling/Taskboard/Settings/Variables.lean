import Taskboard.Keyed
import Taskboard.Text.LineEnds
import Taskboard.Text.Words

/-!
# Variables

Named texts, as a process is started with them, and the file that supplies variables nobody has set.
A line of the file binds a name to a value; a value is bare, or stands in single or double quotes.
Bare values end at a blank followed by a hash sign. Lines that are not of this form, such as one with a
quote that is never closed, bind nothing. A variable can switch the file off.
-/

namespace Taskboard

/-- Variables with their values. -/
abbrev Variables := Keyed Text

namespace VariablesFile

open Text

/-- Whether a character is a blank within a line. -/
def isLineBlank (c : CodePoint) : Bool := isBlank c && c ≠ '\r' && c ≠ '\n'

/-- Whether a character ends a line. -/
def isLineEnd (c : CodePoint) : Bool := c = '\r' || c = '\n'

/-- The character for a letter after a backslash between double quotes. -/
def doubleEscape? (c : CodePoint) : Option CodePoint :=
  if c = '\\' || c = CodePoint.ofNat 0x27 || c = CodePoint.ofNat 0x22 then some c
  else if c = 'a' then some (CodePoint.ofNat 0x07)
  else if c = 'b' then some (CodePoint.ofNat 0x08)
  else if c = 'f' then some (CodePoint.ofNat 0x0C)
  else if c = 'n' then some '\n'
  else if c = 'r' then some '\r'
  else if c = 't' then some '\t'
  else if c = 'v' then some (CodePoint.ofNat 0x0B)
  else none

/-- The character for a letter after a backslash between single quotes. -/
def singleEscape? (c : CodePoint) : Option CodePoint :=
  if c = '\\' || c = CodePoint.ofNat 0x27 then some c else none

/-- The text up to the first quote that no backslash escapes, as written, and the text after the
quote; none when every quote is escaped. Backslashes escape in pairs from the left, so that a doubled one
leaves the quote alone. -/
def upToQuote (quote : CodePoint) : List CodePoint → Option (List CodePoint × List CodePoint)
  | [] => none
  | [c] => if c = quote then some ([], []) else none
  | c :: next :: rest =>
    if c = quote then some ([], next :: rest)
    else if c = '\\' && (next = '\\' || next = quote) then
      (upToQuote quote rest).map fun (inner, after) => (c :: next :: inner, after)
    else (upToQuote quote (next :: rest)).map fun (inner, after) => (c :: inner, after)

/-- Replaces the escapes of a quoted value. -/
def unescape (escape? : CodePoint → Option CodePoint) : List CodePoint → List CodePoint
  | [] => []
  | [c] => [c]
  | c :: next :: rest =>
    if c = '\\' then
      match escape? next with
      | some value => value :: unescape escape? rest
      | none => c :: unescape escape? (next :: rest)
    else c :: unescape escape? (next :: rest)

/-- Whether a text consists of blanks followed by a hash sign and more. -/
def startsComment (text : List CodePoint) : Bool :=
  match text with
  | c :: _ => isBlank c && (text.dropWhile isBlank).head? = some '#'
  | [] => false

/-- A bare value without its comment. -/
def beforeComment : List CodePoint → List CodePoint
  | [] => []
  | c :: rest => if startsComment (c :: rest) then [] else c :: beforeComment rest

/-- A bare value: the line without its comment and without blanks at its end. -/
def bareValue (line : List CodePoint) : List CodePoint :=
  ((beforeComment line).reverse.dropWhile isBlank).reverse

/-- Reads the value after an equals sign and says where it ends; none when a quote is never closed.
After blanks a hash sign starts a comment, so that the value is empty. -/
def readValue (text : List CodePoint) : Option (List CodePoint × List CodePoint) :=
  let value := text.dropWhile isLineBlank
  match value with
  | [] => some ([], [])
  | c :: rest =>
    if c = CodePoint.ofNat 0x27 then
      (upToQuote c rest).map fun (inner, after) => (unescape singleEscape? inner, after)
    else if c = CodePoint.ofNat 0x22 then
      (upToQuote c rest).map fun (inner, after) => (unescape doubleEscape? inner, after)
    else if c = '#' && text.head? ≠ some '#' then some ([], value)
    else
      some (bareValue (value.takeWhile (!isLineEnd ·)), value.dropWhile (!isLineEnd ·))

/-- Drops the word `export` and the blanks after it. -/
def dropExport (text : List CodePoint) : List CodePoint :=
  let word := ("export" : Text).toList
  if word.isPrefixOf text then
    let rest := text.drop word.length
    if (rest.head?.map isLineBlank).getD false then rest.dropWhile isLineBlank else text
  else text

/-- Reads a name: a quoted one, or one without blanks, hash and equals signs. -/
def readName (text : List CodePoint) : Option (List CodePoint × List CodePoint) :=
  match text with
  | [] => none
  | c :: rest =>
    if c = CodePoint.ofNat 0x27 then
      let name := rest.takeWhile (· ≠ c)
      match rest.dropWhile (· ≠ c) with
      | [] => none
      | _ :: after => if name.isEmpty then none else some (name, after)
    else
      let inName (c : CodePoint) : Bool := !isBlank c && c ≠ '=' && c ≠ '#'
      let name := text.takeWhile inName
      if name.isEmpty then none else some (name, text.dropWhile inName)

/-- The rest of the text after a comment and the end of the line; none when anything else follows. -/
def finishLine (text : List CodePoint) : Option (List CodePoint) :=
  let text :=
    match text.dropWhile isLineBlank with
    | '#' :: rest => rest.dropWhile (!isLineEnd ·)
    | rest => rest
  match text with
  | [] => some []
  | c :: rest => if isLineEnd c then some rest else none

/-- The rest of the text after the current line. -/
def skipLine (text : List CodePoint) : List CodePoint := (text.dropWhile (!isLineEnd ·)).drop 1

/-- Reads one line: its binding, if it has one, and the rest of the text. A name without an equals
sign is bound to nothing. -/
def readLine (text : List CodePoint) : Option (Text × Option Text) × List CodePoint :=
  let text := text.dropWhile isBlank
  if text.head? = some '#' then (none, skipLine text)
  else
    match readName (dropExport text) with
    | none => (none, skipLine text)
    | some (name, rest) =>
      let name := Text.ofList name
      match rest.dropWhile isLineBlank with
      | '=' :: rest =>
        match readValue rest with
        | none => (none, skipLine rest)
        | some (value, rest) =>
          match finishLine rest with
          | none => (none, skipLine rest)
          | some rest => (some (name, some (Text.ofList value)), rest)
      | rest =>
        match finishLine rest with
        | none => (none, skipLine rest)
        | some rest => (some (name, none), rest)

/-- Reads all lines. Every line takes at least one character, so that the length of the text is
enough fuel. -/
def readLines : Nat → List CodePoint → List (Text × Option Text)
  | 0, _ => []
  | fuel + 1, text =>
    if text.isEmpty then []
    else
      match readLine text with
      | (some binding, rest) => binding :: readLines fuel rest
      | (none, rest) => readLines fuel rest

/-- The text of a file without the mark that may say in which order its bytes stand. -/
def withoutMark : List CodePoint → List CodePoint
  | [] => []
  | c :: rest => if c.toNat = 0xFEFF then rest else c :: rest

/-- The bindings of a file; a name bound again keeps the last binding. -/
def bindings (text : Text) : Keyed (Option Text) :=
  let text := unifyLineEnds (withoutMark text.toList)
  .ofList (readLines text.length text)

/-- Why a variable cannot be set. -/
inductive Fault where
  /-- Its name or its value contains the null character. -/
  | nullCharacter
  /-- Its name contains an equals sign. -/
  | equalsInName
deriving DecidableEq, Inhabited

/-- Wording of why a variable cannot be set. -/
def Fault.message : Fault → Text
  | .nullCharacter => "embedded null byte"
  | .equalsInName => "illegal environment variable name"

/-- Sets a variable. -/
def set (vars : Variables) (name value : Text) : Except Fault Variables :=
  let null := CodePoint.ofNat 0
  if name.toList.contains null || value.toList.contains null then .error .nullCharacter
  else if name.toList.contains '=' then .error .equalsInName
  else .ok (vars.put name value)

/-- The variables with those of a file added; a variable that is set keeps its value. -/
def addTo (vars : Variables) (text : Text) : Except Fault Variables :=
  (bindings text).entries.foldlM
    (fun vars binding =>
      match binding.2, vars.find? binding.1 with
      | some value, none => set vars binding.1 value
      | _, _ => .ok vars)
    vars

/-- Name of the variable that switches the file off. -/
def switchName : Text := "PYTHON_DOTENV_DISABLED"

/-- Words that switch the file off. -/
def offWords : List Text := ["1", "true", "t", "yes", "y"]

/-- A letter without its case, as far as it matters for plain words: the long s is an s. -/
def plainLetter (c : CodePoint) : CodePoint := if c.toNat = 0x17F then 's' else c.toLower

/-- Whether the variables switch the file off. -/
def isOff (vars : Variables) : Bool :=
  (vars.find? switchName).any fun word =>
    offWords.contains (Text.ofList (word.toList.map plainLetter))

/-- The variables with those of the file, if there is one and it is not switched off. -/
def load (vars : Variables) (file? : Option Text) : Except Fault Variables :=
  match file? with
  | some text => if isOff vars then .ok vars else addTo vars text
  | none => .ok vars

end VariablesFile

end Taskboard
