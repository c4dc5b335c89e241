import Taskboard.Json.Basic

/-!
# Reading JSON

Reads a whole document, or says what is wrong with it and where. A name that occurs again in an object
keeps its first place and takes the last value. The three numbers without digits (`NaN` and the two
infinities) are accepted. Containers may be nested as deep as the reader has room for, which is what its
callers leave of the stack, and integers may have a fixed number of digits; a document beyond either limit
is refused whatever else is wrong with its rest.

The functions work on the text still to be read. A refusal keeps the text from the fault on, so that
the place of the fault is a matter of counting what was read before it.
-/

namespace Taskboard.Json

/-- What a reader misses or dislikes at a place of the text. -/
inductive Complaint where
  | byteOrderMark
  | noValue
  | noName
  | noColon
  | noComma
  | extraData
  | openText
  | controlCharacter
  | unknownEscape
  | badCodeUnit
deriving DecidableEq, Inhabited

/-- Wording of a complaint. -/
def Complaint.message : Complaint → Text
  | .byteOrderMark => "Unexpected UTF-8 BOM (decode using utf-8-sig)"
  | .noValue => "Expecting value"
  | .noName => "Expecting property name enclosed in double quotes"
  | .noColon => "Expecting ':' delimiter"
  | .noComma => "Expecting ',' delimiter"
  | .extraData => "Extra data"
  | .openText => "Unterminated string starting at"
  | .controlCharacter => "Invalid control character at"
  | .unknownEscape => "Invalid \\escape"
  | .badCodeUnit => "Invalid \\uXXXX escape"

/-- The two kinds of values that contain others. -/
inductive Container where
  | list
  | object
deriving DecidableEq, Inhabited

/-- Why reading stopped: a complaint about the text from here on, an integer with too many digits, or
a container nested too deep. -/
inductive Stop where
  | here (complaint : Complaint) (rest : List CodePoint)
  | longInteger (digits : Nat)
  | tooDeep (container : Container)

/-- Characters that may stand between the parts of a document. -/
def isGap (c : CodePoint) : Bool := c = ' ' || c = '\t' || c = '\n' || c = '\r'

/-- Drops the characters between two parts. -/
def skipGap (text : List CodePoint) : List CodePoint := text.dropWhile isGap

/-- Drops a fixed beginning of a text. -/
def dropStart? : List CodePoint → List CodePoint → Option (List CodePoint)
  | [], text => some text
  | _ :: _, [] => none
  | c :: start, d :: text => if c = d then dropStart? start text else none

/-- Value of a hexadecimal digit. -/
def hexValue? (c : CodePoint) : Option Nat :=
  if '0' ≤ c && c ≤ '9' then some (c.toNat - 48)
  else if 'a' ≤ c && c ≤ 'f' then some (c.toNat - 87)
  else if 'A' ≤ c && c ≤ 'F' then some (c.toNat - 55)
  else none

/-- The number written by four hexadecimal digits. -/
def codeUnit? (a b c d : CodePoint) : Option Nat := do
  return ((← hexValue? a) * 16 + (← hexValue? b)) * 256 + (← hexValue? c) * 16 + (← hexValue? d)

/-- Whether a code unit is the first half of a pair. -/
def isHighHalf (n : Nat) : Bool := 0xD800 ≤ n && n < 0xDC00

/-- Whether a code unit is the second half of a pair. -/
def isLowHalf (n : Nat) : Bool := 0xDC00 ≤ n && n < 0xE000

/-- The character of a pair of halves. -/
def pairChar (high low : Nat) : CodePoint :=
  CodePoint.ofNat (0x10000 + (high - 0xD800) * 0x400 + (low - 0xDC00))

/-- The character that a letter after a backslash stands for. -/
def escaped? (c : CodePoint) : Option CodePoint :=
  if c = Text.doubleQuote || c = '\\' || c = '/' then some c
  else if c = 'n' then some '\n'
  else if c = 'r' then some '\r'
  else if c = 't' then some '\t'
  else if c = 'b' then some (CodePoint.ofNat 0x08)
  else if c = 'f' then some (CodePoint.ofNat 0x0C)
  else none

/-- Reads a code unit after the letter u, and its partner if it is the first half of a pair. A half without
its partner stands for itself. The text
starts at that letter. A code unit has to be followed by at least one character. -/
def readCodeUnit (text : List CodePoint) : Except Stop (CodePoint × List CodePoint) :=
  match text with
  | _ :: a :: b :: c :: d :: next :: rest =>
    match codeUnit? a b c d with
    | none => .error (.here .badCodeUnit text)
    | some high =>
      if isHighHalf high && next = '\\' then
        match rest with
        | .char 'u' :: a' :: b' :: c' :: d' :: next' :: rest' =>
          match codeUnit? a' b' c' d' with
          | none => .error (.here .badCodeUnit rest)
          | some low =>
            if isLowHalf low then .ok (pairChar high low, next' :: rest')
            else .ok (CodePoint.ofNat high, next :: rest)
        | _ => .ok (CodePoint.ofNat high, next :: rest)
      else .ok (CodePoint.ofNat high, next :: rest)
  | _ => .error (.here .badCodeUnit text)

/-- Reads what follows a backslash; the text starts at the backslash. The text from the opening quote
on is kept for the complaint that it is never closed. -/
def readEscape (opening text : List CodePoint) : Except Stop (CodePoint × List CodePoint) :=
  match text with
  | _ :: e :: rest =>
    if e = 'u' then readCodeUnit (e :: rest)
    else
      match escaped? e with
      | some value => .ok (value, rest)
      | none => .error (.here .unknownEscape text)
  | _ => .error (.here .openText opening)

theorem length_of_readCodeUnit {text rest : List CodePoint} {c : CodePoint}
    (h : readCodeUnit text = .ok (c, rest)) : rest.length < text.length := by
  unfold readCodeUnit at h
  split at h
  · split at h
    · simp at h
    · split at h
      · split at h
        · split at h
          · simp at h
          · split at h
            · simp only [Except.ok.injEq, Prod.mk.injEq] at h
              simp only [← h.2, List.length_cons]; omega
            · simp only [Except.ok.injEq, Prod.mk.injEq] at h
              simp only [← h.2, List.length_cons]; omega
        · simp only [Except.ok.injEq, Prod.mk.injEq] at h
          simp only [← h.2, List.length_cons]; omega
      · simp only [Except.ok.injEq, Prod.mk.injEq] at h
        simp only [← h.2, List.length_cons]; omega
  · simp at h

theorem length_of_readEscape {opening text rest : List CodePoint} {c : CodePoint}
    (h : readEscape opening text = .ok (c, rest)) : rest.length < text.length := by
  unfold readEscape at h
  split at h
  · split at h
    · have := length_of_readCodeUnit h
      simp only [List.length_cons] at this ⊢
      omega
    · split at h
      · simp only [Except.ok.injEq, Prod.mk.injEq] at h
        simp only [← h.2, List.length_cons]; omega
      · simp at h
  · simp at h

/-- Reads a text up to its closing quote; `done` holds the characters read, in reverse. The text from
the opening quote on is kept for the complaint that it is never closed. -/
def readText (opening : List CodePoint) (done : List CodePoint) (text : List CodePoint) :
    Except Stop (Text × List CodePoint) :=
  match text with
  | [] => .error (.here .openText opening)
  | c :: rest =>
    if c = Text.doubleQuote then .ok (Text.ofList done.reverse, rest)
    else if c = '\\' then
      match h : readEscape opening (c :: rest) with
      | .error stop => .error stop
      | .ok (value, after) =>
        have : after.length < (c :: rest).length := length_of_readEscape h
        readText opening (value :: done) after
    else if c.toNat < 0x20 then .error (.here .controlCharacter (c :: rest))
    else readText opening (c :: done) rest
termination_by text.length
decreasing_by
  · exact this
  · exact Nat.lt_succ_self _

/-- Whether a character is a digit of a JSON number. -/
def isDigit (c : CodePoint) : Bool := '0' ≤ c && c ≤ '9'

/-- Value of a run of digits. -/
def digitsValue (ds : List CodePoint) : Nat := ds.foldl (fun n c => 10 * n + (c.toNat - 48)) 0

/-- The digits of a number before its point, and the rest: a single zero, or digits without one in
front. -/
def wholePart? : List CodePoint → Option (List CodePoint × List CodePoint)
  | .char '0' :: rest => some (['0'], rest)
  | c :: rest =>
    if isDigit c then some (c :: rest.takeWhile isDigit, rest.dropWhile isDigit) else none
  | [] => none

/-- The digits after a point, none when the point is not followed by a digit. -/
def fractionPart : List CodePoint → List CodePoint × List CodePoint
  | .char '.' :: rest =>
    let digits := rest.takeWhile isDigit
    if digits.isEmpty then ([], '.' :: rest) else (digits, rest.dropWhile isDigit)
  | text => ([], text)

/-- The power of ten after a letter e, none when it has no digits. -/
def exponentPart (text : List CodePoint) : Option Int × List CodePoint :=
  match text with
  | e :: rest =>
    if e = 'e' || e = 'E' then
      let (negative, digits) :=
        match rest with
        | .char '-' :: digits => (true, digits)
        | .char '+' :: digits => (false, digits)
        | digits => (false, digits)
      let run := digits.takeWhile isDigit
      if run.isEmpty then (none, text)
      else
        let value : Int := digitsValue run
        (some (if negative then -value else value), digits.dropWhile isDigit)
    else (none, text)
  | [] => (none, text)

/-- Reads a number: the longest one the text starts with. A number without point and power is an
integer. -/
def readNumber (text : List CodePoint) : Except Stop (Json × List CodePoint) :=
  let (negative, unsigned) :=
    match text with
    | .char '-' :: rest => (true, rest)
    | rest => (false, rest)
  match wholePart? unsigned with
  | none => .error (.here .noValue text)
  | some (whole, rest) =>
    let (fraction, rest) := fractionPart rest
    let (power?, rest) := exponentPart rest
    if fraction.isEmpty && power?.isNone then
      if Decimal.longest < whole.length then .error (.longInteger whole.length)
      else
        let value : Int := digitsValue whole
        .ok (.int (if negative then -value else value), rest)
    else
      let power := power?.getD 0 - fraction.length
      .ok (.float (Binary64.ofDecimal negative (digitsValue (whole ++ fraction)) power), rest)

/-- The values written as words. -/
def wordValues : List (List CodePoint × Json) := [
  (['n', 'u', 'l', 'l'], .null),
  (['t', 'r', 'u', 'e'], .bool true),
  (['f', 'a', 'l', 's', 'e'], .bool false),
  (['N', 'a', 'N'], .float .notANumber),
  (['I', 'n', 'f', 'i', 'n', 'i', 't', 'y'], .float (.infinite false)),
  (['-', 'I', 'n', 'f', 'i', 'n', 'i', 't', 'y'], .float (.infinite true))]

/-- Reads a word or a number. -/
def readScalar (text : List CodePoint) : Except Stop (Json × List CodePoint) :=
  match wordValues.findSome? fun word => (dropStart? word.1 text).map (word.2, ·) with
  | some found => .ok found
  | none => readNumber text

/-- Reads the items of a list from the first one on, with a reader for one item. Every item takes at
least one character, so that any number above the length of the text is enough fuel. -/
def readItems (readItem : List CodePoint → Except Stop (Json × List CodePoint)) :
    Nat → List Json → List CodePoint → Except Stop (Json × List CodePoint)
  | 0, _, text => .error (.here .noValue text)
  | fuel + 1, done, text =>
    match readItem text with
    | .error stop => .error stop
    | .ok (item, rest) =>
      match skipGap rest with
      | .char ']' :: rest => .ok (.list (item :: done).reverse, rest)
      | .char ',' :: rest => readItems readItem fuel (item :: done) (skipGap rest)
      | rest => .error (.here .noComma rest)

/-- Reads the members of an object from the first one on, with a reader for one value. Every member
takes at least one character, so that any number above the length of the text is enough fuel. -/
def readMembers (readItem : List CodePoint → Except Stop (Json × List CodePoint)) :
    Nat → List (Text × Json) → List CodePoint → Except Stop (Json × List CodePoint)
  | 0, _, text => .error (.here .noName text)
  | fuel + 1, done, text =>
    match text with
    | [] => .error (.here .noName text)
    | c :: inner =>
      if c ≠ Text.doubleQuote then .error (.here .noName text)
      else
        match readText text [] inner with
        | .error stop => .error stop
        | .ok (name, rest) =>
          match skipGap rest with
          | .char ':' :: rest =>
            match readItem (skipGap rest) with
            | .error stop => .error stop
            | .ok (value, rest) =>
              let done := Entries.put name value done
              match skipGap rest with
              | .char ',' :: rest => readMembers readItem fuel done (skipGap rest)
              | end' :: rest =>
                if end' = CodePoint.ofNat 0x7D then .ok (.object done, rest)
                else .error (.here .noComma (end' :: rest))
              | [] => .error (.here .noComma [])
          | rest => .error (.here .noColon rest)

/-- Reads one value that holds at most `room` containers inside each other. The bound is any number
above the length of the text; it is counted once for a whole document, because every part of it that
is still to be read is shorter than the document. -/
def readValue (bound : Nat) : Nat → List CodePoint → Except Stop (Json × List CodePoint)
  | room, text =>
    match text with
    | [] => .error (.here .noValue [])
    | c :: rest =>
      if c = Text.doubleQuote then
        match readText text [] rest with
        | .error stop => .error stop
        | .ok (value, rest) => .ok (.string value, rest)
      else if c = '[' then
        match room with
        | 0 => .error (.tooDeep .list)
        | room + 1 =>
          match skipGap rest with
          | .char ']' :: rest => .ok (.list [], rest)
          | rest => readItems (readValue bound room) bound [] rest
      else if c = CodePoint.ofNat 0x7B then
        match room with
        | 0 => .error (.tooDeep .object)
        | room + 1 =>
          match skipGap rest with
          | [] => .error (.here .noName [])
          | first :: rest =>
            if first = CodePoint.ofNat 0x7D then .ok (.object [], rest)
            else readMembers (readValue bound room) bound [] (first :: rest)
      else readScalar text

/-- A place in a text: characters before it, its line and its column. -/
structure Place where
  /-- Number of characters before the place. -/
  offset : Nat
  /-- Line, counted from one. -/
  line : Nat
  /-- Column, counted from one. -/
  column : Nat
deriving DecidableEq, Inhabited

/-- The place at which `rest` begins, at the end of `text`. -/
def placeOf (text rest : List CodePoint) : Place :=
  let before := text.take (text.length - rest.length)
  ⟨before.length, 1 + before.count (.char '\n'), 1 + (before.reverse.takeWhile (· ≠ .char '\n')).length⟩

/-- Why a text is not a document. -/
inductive Refusal where
  /-- The text is malformed at a place. -/
  | malformed (complaint : Complaint) (place : Place)
  /-- An integer has too many digits. -/
  | longInteger (digits : Nat)
  /-- Containers are nested too deep. -/
  | tooDeep (container : Container)
deriving DecidableEq, Inhabited

/-- Reason of a stop in terms of the whole text. -/
def Stop.refusal (text : List CodePoint) : Stop → Refusal
  | .here complaint rest => .malformed complaint (placeOf text rest)
  | .longInteger digits => .longInteger digits
  | .tooDeep container => .tooDeep container

/-- Reads a document between gaps that nests at most `room` containers inside each other. -/
def readDocument (room : Nat) (text : List CodePoint) : Except Stop Json :=
  if text.head? = some (CodePoint.ofNat 0xFEFF) then .error (.here .byteOrderMark text)
  else
    match readValue (text.length + 1) room (skipGap text) with
    | .error stop => .error stop
    | .ok (value, rest) =>
      match skipGap rest with
      | [] => .ok value
      | rest => .error (.here .extraData rest)

/-- Reads a whole text as one document that nests at most `room` containers inside each other. -/
def read (room : Nat) (text : List CodePoint) : Except Refusal Json :=
  match readDocument room text with
  | .ok value => .ok value
  | .error stop => .error (stop.refusal text)

/-- Wording of a refusal. -/
def Refusal.message : Refusal → Text
  | .malformed complaint place =>
    complaint.message ++ ": line " ++ toString place.line ++ " column " ++ toString place.column ++
      " (char " ++ toString place.offset ++ ")"
  | .longInteger digits =>
    "Exceeds the limit (4300 digits) for integer string conversion: value has " ++
      toString digits ++ " digits; use sys.set_int_max_str_digits() to increase the limit"
  | .tooDeep .list =>
    "maximum recursion depth exceeded while decoding a JSON array from a unicode string"
  | .tooDeep .object =>
    "maximum recursion depth exceeded while decoding a JSON object from a unicode string"

end Taskboard.Json
