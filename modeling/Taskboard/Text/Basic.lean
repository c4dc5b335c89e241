/-!
# Texts

A text is a list of code points. Texts may hold surrogates that stand alone, which a JSON document can spell
and no UTF-8 file can store, so neither `Char` nor `String` is enough for them.
-/

namespace Taskboard

/-- A code point: a character, or a surrogate that stands alone, by its distance from the first surrogate. -/
inductive CodePoint where
  | char (c : Char)
  | surrogate (offset : Fin 0x800)
deriving DecidableEq, Inhabited

namespace CodePoint

instance : Coe Char CodePoint := ⟨char⟩

/-- Number of a code point. -/
def toNat : CodePoint → Nat
  | char c => c.toNat
  | surrogate offset => 0xD800 + offset

/-- The code point with a number; beyond the last one it is the null character. -/
def ofNat (n : Nat) : CodePoint :=
  if h : 0xD800 ≤ n ∧ n < 0xE000 then surrogate ⟨n - 0xD800, by omega⟩ else char (Char.ofNat n)

/-- Whether a code point is a surrogate. -/
def isSurrogate : CodePoint → Bool
  | char _ => false
  | surrogate _ => true

/-- Whether a code point is one of the digits from zero to nine. -/
def isDigit : CodePoint → Bool
  | char c => c.isDigit
  | surrogate _ => false

/-- The small form of a capital from A to Z; anything else stays. -/
def toLower : CodePoint → CodePoint
  | char c => char c.toLower
  | surrogate offset => surrogate offset

/-- The capital of a small letter from a to z; anything else stays. -/
def toUpper : CodePoint → CodePoint
  | char c => char c.toUpper
  | surrogate offset => surrogate offset

instance : LE CodePoint := ⟨fun c d => c.toNat ≤ d.toNat⟩

instance (c d : CodePoint) : Decidable (c ≤ d) := inferInstanceAs (Decidable (c.toNat ≤ d.toNat))

@[simp]
theorem toNat_char (c : Char) : (char c).toNat = c.toNat := rfl

/-- No character has the number of a surrogate. -/
theorem not_surrogate_char (c : Char) : ¬(0xD800 ≤ c.toNat ∧ c.toNat < 0xE000) := by
  have valid : c.toNat < 55296 ∨ 57343 < c.toNat ∧ c.toNat < 1114112 := c.valid
  omega

/-- The plain digits are the characters from the number 48 to the number 57. -/
theorem isDigit_iff_toNat {c : CodePoint} : c.isDigit = true ↔ 48 ≤ c.toNat ∧ c.toNat ≤ 57 := by
  cases c with
  | char c => exact Char.isDigit_iff_toNat
  | surrogate offset => simp only [isDigit, toNat, Bool.false_eq_true, false_iff]; omega

/-- The code point with the number of a code point is that code point. -/
@[simp]
theorem ofNat_toNat (c : CodePoint) : ofNat c.toNat = c := by
  cases c with
  | char c => rw [ofNat, toNat, dif_neg (not_surrogate_char c), Char.ofNat_toNat]
  | surrogate offset =>
    have range : 0xD800 ≤ 0xD800 + offset.val ∧ 0xD800 + offset.val < 0xE000 := by omega
    rw [ofNat, toNat, dif_pos range]
    exact congrArg surrogate (Fin.ext (by simp))

end CodePoint

/-- A text. -/
structure Text where
  /-- The text with the given code points. -/
  ofList ::
  /-- The code points of a text. -/
  toList : List CodePoint
deriving DecidableEq, Inhabited

namespace Text

/-- The text with the given characters. -/
def ofChars (chars : List Char) : Text := ofList (chars.map .char)

/-- A string as a text. -/
def ofString (s : String) : Text := ofChars s.toList

instance : Coe String Text := ⟨ofString⟩

instance : Append Text := ⟨fun text other => ofList (text.toList ++ other.toList)⟩

/-- Number of code points. -/
def length (text : Text) : Nat := text.toList.length

/-- Texts one after another. -/
def join (texts : List Text) : Text := ofList (texts.flatMap toList)

/-- Texts one after another, with `separator` between neighbours. -/
def intercalate (separator : Text) (texts : List Text) : Text :=
  ofList (separator.toList.intercalate (texts.map toList))

@[simp]
theorem toList_ofList (letters : List CodePoint) : (ofList letters).toList = letters := rfl

@[simp]
theorem ofList_toList (text : Text) : ofList text.toList = text := rfl

@[simp]
theorem toList_append (text other : Text) : (text ++ other).toList = text.toList ++ other.toList := rfl

@[simp]
theorem toList_ofChars (chars : List Char) : (ofChars chars).toList = chars.map .char := rfl

@[simp]
theorem toList_ofString (s : String) : (ofString s).toList = s.toList.map .char := rfl

@[simp]
theorem length_append (text other : Text) : (text ++ other).length = text.length + other.length :=
  List.length_append

theorem toList_inj {text other : Text} : text.toList = other.toList ↔ text = other := by
  cases text
  cases other
  simp

/-- Strings are the same if they are the same as texts. -/
@[simp]
theorem ofString_inj {s t : String} : ofString s = ofString t ↔ s = t := by
  rw [← toList_inj, toList_ofString, toList_ofString,
    List.map_inj_right fun _ _ same => CodePoint.char.inj same, String.toList_inj]

theorem append_left_inj {text other last : Text} : text ++ last = other ++ last ↔ text = other := by
  rw [← toList_inj, ← toList_inj, toList_append, toList_append, List.append_left_inj]

theorem toList_eq_nil_iff {text : Text} : text.toList = [] ↔ text = "" :=
  have empty : ("" : Text).toList = [] := rfl
  empty ▸ toList_inj

end Text

end Taskboard
