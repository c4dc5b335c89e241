import Taskboard.Text.Quoted

/-!
# UTF-8

Texts and the bytes they are stored as. Encoding refuses a text in which a surrogate stands, and says where it
stands. Decoding refuses every byte sequence that is not the shortest encoding of a character, and says where
the first fault is, how many bytes it covers, and why.

Names of files are encoded more liberally: the surrogates from U+DC80 to U+DCFF stand for single bytes there.
That two such surrogates may spell the bytes of one character is not modelled; names are compared as texts.
-/

namespace Taskboard.Utf8

/-- Bytes of a code point; a surrogate has one in the name of a file. -/
def bytesOf : CodePoint → List UInt8
  | .char c => String.utf8EncodeChar c
  | .surrogate offset => [UInt8.ofNat offset]

/-- Number of bytes of a text in the name of a file. -/
def size (text : Text) : Nat := (text.toList.flatMap bytesOf).length

/-- Why a text has no bytes: surrogates stand in it that have none. -/
structure EncodeFault where
  /-- The first of them. -/
  first : CodePoint
  /-- Its position in the text. -/
  position : Nat
  /-- Number of surrogates from there on. -/
  length : Nat
deriving DecidableEq, Inhabited

/-- Wording of a fault: a single surrogate is shown, several are given by their positions. -/
def EncodeFault.message (fault : EncodeFault) : Text :=
  if fault.length == 1 then
    "'utf-8' codec can't encode character '\\u" ++ Text.ofList (Text.hexDigits 4 fault.first.toNat) ++
      "' in position " ++ toString fault.position ++ ": surrogates not allowed"
  else
    "'utf-8' codec can't encode characters in position " ++ toString fault.position ++ "-" ++
      toString (fault.position + fault.length - 1) ++ ": surrogates not allowed"

/-- The first fault of a text that starts at `position`, where surrogates that satisfy `passes` are none. -/
def faultFrom? (passes : Fin 0x800 → Bool) (position : Nat) : List CodePoint → Option EncodeFault
  | [] => none
  | .char _ :: rest => faultFrom? passes (position + 1) rest
  | .surrogate offset :: rest =>
    if passes offset then faultFrom? passes (position + 1) rest
    else some ⟨.surrogate offset, position, 1 + (rest.takeWhile CodePoint.isSurrogate).length⟩

/-- Whether a surrogate stands for a byte in the name of a file. -/
def standsForByte (offset : Fin 0x800) : Bool := 0x480 ≤ offset.val && offset.val < 0x500

/-- Why a text cannot be the name of a file, if it cannot. -/
def nameFault? (text : Text) : Option EncodeFault := faultFrom? standsForByte 0 text.toList

/-- Bytes of a text, or its first fault. -/
def encode (text : List CodePoint) : Except EncodeFault (List UInt8) :=
  match faultFrom? (fun _ => false) 0 text with
  | some fault => .error fault
  | none => .ok (text.flatMap bytesOf)

/-- Why bytes do not form a character. -/
inductive Reason where
  /-- No character starts with this byte. -/
  | startByte
  /-- A byte that cannot continue the character follows. -/
  | continuationByte
  /-- The bytes end inside a character. -/
  | endOfData
deriving DecidableEq, Inhabited

/-- The first fault of a byte sequence. -/
structure Fault where
  /-- Offset of the first faulty byte. -/
  position : Nat
  /-- The first faulty byte. -/
  byte : UInt8
  /-- Number of faulty bytes. -/
  length : Nat
  /-- What is wrong with them. -/
  reason : Reason
deriving DecidableEq, Inhabited

/-- Wording of a reason. -/
def Reason.message : Reason → Text
  | .startByte => "invalid start byte"
  | .continuationByte => "invalid continuation byte"
  | .endOfData => "unexpected end of data"

/-- Wording of a fault: a single byte is shown, several are given by their offsets. -/
def Fault.message (fault : Fault) : Text :=
  if fault.length == 1 then
    "'utf-8' codec can't decode byte 0x" ++ Text.ofList (Text.hexDigits 2 fault.byte.toNat) ++
      " in position " ++ toString fault.position ++ ": " ++ fault.reason.message
  else
    "'utf-8' codec can't decode bytes in position " ++ toString fault.position ++ "-" ++
      toString (fault.position + fault.length - 1) ++ ": " ++ fault.reason.message

/-- Whether a byte carries six further bits of a character. -/
def continues (b : UInt8) : Bool := 0x80 ≤ b && b ≤ 0xBF

/-- Whether `b` may follow the start byte `a`: overlong forms, surrogates and numbers above the last
code point are excluded here. -/
def mayFollow (a b : UInt8) : Bool :=
  continues b && !(a == 0xE0 && b < 0xA0) && !(a == 0xED && 0xA0 ≤ b) &&
    !(a == 0xF0 && b < 0x90) && !(a == 0xF4 && 0x90 ≤ b)

/-- The six bits of a continuation byte. -/
def bits (b : UInt8) : Nat := b.toNat % 64

/-- Decodes the bytes from offset `position` on, with the characters before them in reverse. -/
def decodeFrom (position : Nat) (done : List CodePoint) : List UInt8 → Except Fault (List CodePoint)
  | [] => .ok done.reverse
  | a :: rest =>
    if a < 0x80 then decodeFrom (position + 1) (CodePoint.ofNat a.toNat :: done) rest
    else if a < 0xC2 || 0xF4 < a then .error ⟨position, a, 1, .startByte⟩
    else
      match rest with
      | [] => .error ⟨position, a, 1, .endOfData⟩
      | b :: rest =>
        if !mayFollow a b then .error ⟨position, a, 1, .continuationByte⟩
        else if a < 0xE0 then
          decodeFrom (position + 2) (CodePoint.ofNat (a.toNat % 32 * 64 + bits b) :: done) rest
        else
          match rest with
          | [] => .error ⟨position, a, 2, .endOfData⟩
          | c :: rest =>
            if !continues c then .error ⟨position, a, 2, .continuationByte⟩
            else if a < 0xF0 then
              decodeFrom (position + 3)
                (CodePoint.ofNat ((a.toNat % 16 * 64 + bits b) * 64 + bits c) :: done) rest
            else
              match rest with
              | [] => .error ⟨position, a, 3, .endOfData⟩
              | d :: rest =>
                if !continues d then .error ⟨position, a, 3, .continuationByte⟩
                else
                  decodeFrom (position + 4)
                    (CodePoint.ofNat (((a.toNat % 8 * 64 + bits b) * 64 + bits c) * 64 + bits d) :: done)
                    rest

/-- Text of a byte sequence, or its first fault. -/
def decode (bytes : List UInt8) : Except Fault (List CodePoint) := decodeFrom 0 [] bytes

end Taskboard.Utf8
