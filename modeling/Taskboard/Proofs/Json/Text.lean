import Taskboard.Json.Printer
import Taskboard.Json.Reader
import Taskboard.Proofs.Number.Decimal

/-!
# Written texts and integers read back

The two kinds of written values that hold no other values. A written text is read up to its closing
quote and gives back every character, escaped or not. A written integer is read up to the first
character that cannot continue a number.
-/

namespace Taskboard.Json

open Decimal

/-- An escape stands for one character of a text. -/
theorem readText_escape {opening done text after : List CodePoint} {c : CodePoint}
    (h : readEscape opening ('\\' :: text) = .ok (c, after)) :
    readText opening done ('\\' :: text) = readText opening (c :: done) after := by
  rw [readText, if_neg (by decide), if_pos rfl]
  split
  · next stop e => rw [h] at e; cases e
  · next value rest e =>
    rw [h] at e
    cases e
    rfl

/-- A character that needs no escape stands for itself. -/
theorem readText_plain {opening done rest : List CodePoint} {c : CodePoint} (quote : c ≠ Text.doubleQuote)
    (backslash : c ≠ '\\') (printable : ¬ c.toNat < 0x20) :
    readText opening done (c :: rest) = readText opening (c :: done) rest := by
  rw [readText, if_neg quote, if_neg backslash, if_neg printable]

/-- A control character is written with four hexadecimal digits that give it back. -/
theorem hexDigits_control : ∀ n < 0x20,
    Text.hexDigits 4 n = ([.char '0', .char '0', Nat.digitChar (n / 16), Nat.digitChar (n % 16)] : List CodePoint) ∧
      codeUnit? '0' '0' (Nat.digitChar (n / 16)) (Nat.digitChar (n % 16)) = some n ∧
        isHighHalf n = false := by
  decide

/-- A letter after a backslash is an escape of its own. -/
theorem readEscape_letter {opening rest : List CodePoint} {e c : CodePoint} (letter : e ≠ 'u')
    (h : escaped? e = some c) : readEscape opening ('\\' :: e :: rest) = .ok (c, rest) := by
  rw [readEscape, if_neg letter, h]

/-- One written character is read back, if something follows it. -/
theorem readText_writtenChar (opening done : List CodePoint) (c next : CodePoint) (rest : List CodePoint) :
    readText opening done (writtenChar c ++ next :: rest) =
      readText opening (c :: done) (next :: rest) := by
  unfold writtenChar
  by_cases quote : c = Text.doubleQuote
  · rw [if_pos quote, quote]
    exact readText_escape (readEscape_letter (by decide) (by decide))
  rw [if_neg quote]
  by_cases backslash : c = '\\'
  · rw [if_pos backslash, backslash]
    exact readText_escape (readEscape_letter (by decide) (by decide))
  rw [if_neg backslash]
  by_cases feed : c = '\n'
  · rw [if_pos feed, feed]
    exact readText_escape (readEscape_letter (by decide) (by decide))
  rw [if_neg feed]
  by_cases ret : c = '\r'
  · rw [if_pos ret, ret]
    exact readText_escape (readEscape_letter (by decide) (by decide))
  rw [if_neg ret]
  by_cases tab : c = '\t'
  · rw [if_pos tab, tab]
    exact readText_escape (readEscape_letter (by decide) (by decide))
  rw [if_neg tab]
  have back := CodePoint.ofNat_toNat c
  by_cases page : c.toNat = 0x0C
  · rw [if_pos page, ← back, page]
    exact readText_escape (readEscape_letter (by decide) (by decide))
  rw [if_neg page]
  by_cases bell : c.toNat = 0x08
  · rw [if_pos bell, ← back, bell]
    exact readText_escape (readEscape_letter (by decide) (by decide))
  rw [if_neg bell]
  by_cases control : c.toNat < 0x20
  · obtain ⟨digits, unit, high⟩ := hexDigits_control c.toNat control
    rw [if_pos control, digits]
    apply readText_escape
    show readEscape opening ('\\' :: 'u' :: '0' :: '0' :: _ :: _ :: next :: rest) = _
    rw [readEscape, if_pos rfl]
    simp only [readCodeUnit, unit, high, Bool.false_and, Bool.false_eq_true, if_false, back]
  · rw [if_neg control]
    exact readText_plain quote backslash control

/-- A written text is read up to its closing quote. -/
theorem readText_written (opening done text rest : List CodePoint) :
    readText opening done (text.flatMap writtenChar ++ Text.doubleQuote :: rest) =
      .ok (Text.ofList (done.reverse ++ text), rest) := by
  induction text generalizing done with
  | nil => rw [List.flatMap_nil, List.nil_append, readText, if_pos rfl, List.append_nil]
  | cons c text ih =>
    obtain ⟨next, more, follow⟩ : ∃ next more,
        text.flatMap writtenChar ++ Text.doubleQuote :: rest = next :: more :=
      List.exists_cons_of_ne_nil (by simp)
    rw [List.flatMap_cons, List.append_assoc, follow, readText_writtenChar, ← follow, ih,
      List.reverse_cons, List.append_assoc, List.singleton_append]

/-- What may follow a value: nothing that continues a number. -/
def Ends (rest : List CodePoint) : Prop :=
  ∀ c more, rest = c :: more → isDigit c = false ∧ c ≠ '.' ∧ c ≠ 'e' ∧ c ≠ 'E'

/-- Nothing at all continues no number. -/
theorem ends_nil : Ends [] := fun _ _ e => nomatch e

/-- A character that stands in no number ends one. -/
theorem ends_cons {c : CodePoint} {rest : List CodePoint}
    (h : isDigit c = false ∧ c ≠ '.' ∧ c ≠ 'e' ∧ c ≠ 'E') : Ends (c :: rest) := by
  intro d more e
  cases e
  exact h

/-- The digits of a document are the plain ones. -/
theorem isDigit_eq (c : CodePoint) : isDigit c = c.isDigit := by
  rw [Bool.eq_iff_iff, CodePoint.isDigit_iff_toNat]
  simp only [isDigit, Bool.and_eq_true, decide_eq_true_eq]
  rfl

/-- A run of digits ends where a number does. -/
theorem span_digits {ds rest : List CodePoint} (h : ∀ c ∈ ds, c.isDigit) (ends : Ends rest) :
    (ds ++ rest).takeWhile isDigit = ds ∧ (ds ++ rest).dropWhile isDigit = rest := by
  have digits : ∀ c ∈ ds, isDigit c = true := fun c hc => (isDigit_eq c).trans (h c hc)
  rw [List.takeWhile_append_of_pos digits, List.dropWhile_append_of_pos digits]
  cases rest with
  | nil => simp
  | cons c rest =>
    have stop : ¬ isDigit c = true := by simp [(ends c rest rfl).1]
    rw [List.takeWhile_cons_of_neg stop, List.dropWhile_cons_of_neg stop, List.append_nil]
    exact ⟨rfl, rfl⟩

/-- Only zero is written with a zero in front. -/
theorem head_ofNat {n : Nat} (hn : 0 < n) : ∃ c ds, ofNat n = c :: ds ∧ c ≠ '0' := by
  induction n using Nat.strongRecOn with
  | ind n ih =>
    by_cases small : n < 10
    · refine ⟨Nat.digitChar n, [], by rw [ofNat, Nat.toDigits_of_lt_base small]; rfl, ?_⟩
      rw [Ne, CodePoint.char.injEq, Nat.digitChar_eq_zero]
      omega
    · obtain ⟨c, ds, written, nonzero⟩ := ih (n / 10) (by omega) (by omega)
      refine ⟨c, ds ++ [.char (Nat.digitChar (n % 10))], ?_, nonzero⟩
      have split : ofNat n = ofNat (n / 10) ++ [.char (Nat.digitChar (n % 10))] := by
        rw [ofNat, Nat.toDigits_of_base_le (by omega) (by omega), List.map_append]
        rfl
      rw [split, written, List.cons_append]

/-- The whole part of a written number is all of it. -/
theorem wholePart?_ofNat (n : Nat) {rest : List CodePoint} (ends : Ends rest) :
    wholePart? (ofNat n ++ rest) = some (ofNat n, rest) := by
  rcases Nat.eq_zero_or_pos n with rfl | hn
  · rfl
  · obtain ⟨c, ds, written, nonzero⟩ := head_ofNat hn
    have digits : ∀ d ∈ c :: ds, d.isDigit := fun d hd =>
      isDigit_of_mem_ofNat (n := n) (by rw [written]; exact hd)
    have hc : isDigit c = true := (isDigit_eq c).trans (digits c List.mem_cons_self)
    obtain ⟨taken, dropped⟩ :=
      span_digits (fun d hd => digits d (List.mem_cons_of_mem c hd)) ends
    rw [written, List.cons_append, wholePart?.eq_def]
    split
    · next e => exact absurd (List.cons.inj e).1 nonzero
    · next e =>
      cases e
      rw [if_pos hc, taken, dropped]
    · next e => cases e

/-- No fraction and no power follow a number that ends. -/
theorem no_parts {rest : List CodePoint} (ends : Ends rest) :
    fractionPart rest = ([], rest) ∧ exponentPart rest = (none, rest) := by
  cases rest with
  | nil => exact ⟨rfl, rfl⟩
  | cons c rest =>
    obtain ⟨-, point, small, large⟩ := ends c rest rfl
    constructor
    · rw [fractionPart.eq_def]
      split
      · next e => exact absurd (List.cons.inj e).1 point
      · rfl
    · rw [exponentPart.eq_def]
      simp [small, large]

/-- The digits of a number have its value. -/
theorem digitsValue_ofNat (n : Nat) : digitsValue (ofNat n) = n := by
  rw [digitsValue, ofNat, List.foldl_map]
  exact Nat.ofDigitChars_ten_toDigits

/-- A written integer is read as itself. -/
theorem readNumber_ofInt {n : Int} (h : tooLong n = false) {rest : List CodePoint} (ends : Ends rest) :
    readNumber (ofInt n ++ rest) = .ok (.int n, rest) := by
  have long : tooLong n.natAbs = false := by simpa only [tooLong, Int.natAbs_natCast] using h
  have short : ¬ longest < (ofNat n.natAbs).length :=
    Nat.not_lt.mpr ((length_ofNat_le_iff _).mpr long)
  have whole := wholePart?_ofNat n.natAbs ends
  obtain ⟨fraction, power⟩ := no_parts ends
  have noSign (digits : List CodePoint) : ofNat n.natAbs ++ rest ≠ .char '-' :: digits := by
    obtain ⟨d, ds, written, digit⟩ := ofNat_eq_cons n.natAbs
    rw [written, List.cons_append]
    intro e
    rw [(List.cons.inj e).1] at digit
    exact absurd digit (by decide)
  by_cases negative : n < 0
  · have value : -(n.natAbs : Int) = n := by
      rw [Int.ofNat_natAbs_of_nonpos (Int.le_of_lt negative), Int.neg_neg]
    rw [ofInt, if_pos negative, List.cons_append]
    unfold readNumber
    simp only [whole, fraction, power, List.isEmpty_nil, Option.isNone_none, Bool.and_self,
      if_true, if_neg short, digitsValue_ofNat, value]
  · have value : (n.natAbs : Int) = n := Int.natAbs_of_nonneg (Int.not_lt.mp negative)
    rw [ofInt, if_neg negative]
    unfold readNumber
    split
    next sign unsigned e =>
      have unsignedText : (sign, unsigned) = (false, ofNat n.natAbs ++ rest) := by
        rw [← e]
        split
        · next digits e => exact absurd e (noSign digits)
        · rfl
      cases unsignedText
      simp only [whole, fraction, power, List.isEmpty_nil, Option.isNone_none, Bool.and_self,
        if_true, if_neg short, digitsValue_ofNat, value, Bool.false_eq_true, if_false]

end Taskboard.Json
