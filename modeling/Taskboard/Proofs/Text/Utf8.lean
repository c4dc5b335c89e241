import Taskboard.Text.Utf8

/-!
# Encoded texts read back

Decoding inverts encoding on every text. A character is encoded in one to four bytes; each of the four
lengths is one case, in which the bytes are compared as numbers.
-/

namespace Taskboard.Utf8

/-- A byte made from a small number is that number. -/
theorem toNat_byte {n : Nat} (h : n < 256) : (UInt8.ofNat n).toNat = n :=
  UInt8.toNat_ofNat_of_lt' h

/-- Continuation bytes form a range of numbers. -/
theorem continues_iff (b : UInt8) : continues b = true ↔ 128 ≤ b.toNat ∧ b.toNat ≤ 191 := by
  simp [continues, UInt8.le_iff_toNat_le]

/-- Which bytes may follow a start byte, in terms of numbers. -/
theorem mayFollow_iff (a b : UInt8) :
    mayFollow a b = true ↔
      (128 ≤ b.toNat ∧ b.toNat ≤ 191) ∧ (a.toNat = 224 → 160 ≤ b.toNat) ∧
        (a.toNat = 237 → b.toNat < 160) ∧ (a.toNat = 240 → 144 ≤ b.toNat) ∧
          (a.toNat = 244 → b.toNat < 144) := by
  simp only [mayFollow, Bool.and_eq_true, continues_iff, Bool.not_eq_true', Bool.and_eq_false_imp,
    beq_iff_eq, ← UInt8.toNat_inj, decide_eq_false_iff_not, UInt8.lt_iff_toNat_lt,
    UInt8.le_iff_toNat_le, UInt8.reduceToNat, Nat.not_lt, Nat.not_le, and_assoc]

/-- The last six bits of a number, marked as a continuation, as a number. -/
theorem toNat_tail (n : Nat) : (UInt8.ofNat (n % 64 + 128)).toNat = n % 64 + 128 :=
  toNat_byte (by omega)

/-- The last six bits of a number, marked as a continuation, continue a character. -/
theorem continues_tail (n : Nat) : continues (UInt8.ofNat (n % 64 + 128)) = true := by
  rw [continues_iff, toNat_tail]
  omega

/-- A continuation byte carries the six bits it was made from. -/
theorem bits_tail (n : Nat) : bits (UInt8.ofNat (n % 64 + 128)) = n % 64 := by
  rw [bits, toNat_tail]
  omega

section Characters

variable {a b c d : UInt8} (position : Nat) (done : List CodePoint) (rest : List UInt8)

/-- A byte below 128 is a character of its own. -/
theorem decodeFrom_one (ha : a.toNat < 128) :
    decodeFrom position done (a :: rest) =
      decodeFrom (position + 1) (CodePoint.ofNat a.toNat :: done) rest := by
  have single : a < 0x80 := by simpa [UInt8.lt_iff_toNat_lt] using ha
  rw [decodeFrom.eq_def position]
  simp [single]

/-- Two bytes that form a character. -/
theorem decodeFrom_two (ha : 194 ≤ a.toNat ∧ a.toNat < 224) (hb : mayFollow a b = true) :
    decodeFrom position done (a :: b :: rest) =
      decodeFrom (position + 2) (CodePoint.ofNat (a.toNat % 32 * 64 + bits b) :: done) rest := by
  have single : ¬ a < 0x80 := by simp [UInt8.lt_iff_toNat_lt]; omega
  have start : (a < 0xC2 || 0xF4 < a : Bool) = false := by
    simp [UInt8.lt_iff_toNat_lt]; omega
  have two : a < 0xE0 := by simpa [UInt8.lt_iff_toNat_lt] using ha.2
  rw [decodeFrom.eq_def position]
  simp [single, start, hb, two]

/-- Three bytes that form a character. -/
theorem decodeFrom_three (ha : 224 ≤ a.toNat ∧ a.toNat < 240) (hb : mayFollow a b = true)
    (hc : continues c = true) :
    decodeFrom position done (a :: b :: c :: rest) =
      decodeFrom (position + 3)
        (CodePoint.ofNat ((a.toNat % 16 * 64 + bits b) * 64 + bits c) :: done) rest := by
  have single : ¬ a < 0x80 := by simp [UInt8.lt_iff_toNat_lt]; omega
  have start : (a < 0xC2 || 0xF4 < a : Bool) = false := by
    simp [UInt8.lt_iff_toNat_lt]; omega
  have two : ¬ a < 0xE0 := by simpa [UInt8.lt_iff_toNat_lt] using ha.1
  have three : a < 0xF0 := by simpa [UInt8.lt_iff_toNat_lt] using ha.2
  rw [decodeFrom.eq_def position]
  simp [single, start, hb, two, hc, three]

/-- Four bytes that form a character. -/
theorem decodeFrom_four (ha : 240 ≤ a.toNat ∧ a.toNat < 245) (hb : mayFollow a b = true)
    (hc : continues c = true) (hd : continues d = true) :
    decodeFrom position done (a :: b :: c :: d :: rest) =
      decodeFrom (position + 4)
        (CodePoint.ofNat (((a.toNat % 8 * 64 + bits b) * 64 + bits c) * 64 + bits d) :: done) rest := by
  have single : ¬ a < 0x80 := by simp [UInt8.lt_iff_toNat_lt]; omega
  have start : (a < 0xC2 || 0xF4 < a : Bool) = false := by
    simp [UInt8.lt_iff_toNat_lt]; omega
  have two : ¬ a < 0xE0 := by simp [UInt8.lt_iff_toNat_lt]; omega
  have three : ¬ a < 0xF0 := by simpa [UInt8.lt_iff_toNat_lt] using ha.1
  rw [decodeFrom.eq_def position]
  simp [single, start, hb, two, hc, three, hd]

end Characters

/-- One encoded character is decoded to itself, whatever follows it. -/
theorem decodeFrom_encodeChar (c : Char) (position : Nat) (done : List CodePoint) (rest : List UInt8) :
    ∃ next, decodeFrom position done (String.utf8EncodeChar c ++ rest) =
      decodeFrom next (.char c :: done) rest := by
  have valid : c.toNat < 55296 ∨ 57343 < c.toNat ∧ c.toNat < 1114112 := c.valid
  have back : CodePoint.ofNat c.toNat = .char c := CodePoint.ofNat_toNat (.char c)
  unfold String.utf8EncodeChar
  dsimp only
  rw [show c.val.toNat = c.toNat from rfl]
  generalize c.toNat = n at *
  split
  · next one =>
    refine ⟨position + 1, ?_⟩
    rw [List.singleton_append, decodeFrom_one, toNat_byte (by omega), back]
    rw [toNat_byte (by omega)]
    omega
  split
  · next one two =>
    have first := toNat_byte (n := n / 64 % 32 + 192) (by omega)
    refine ⟨position + 2, ?_⟩
    rw [List.cons_append, List.singleton_append, decodeFrom_two, bits_tail, first]
    · rw [show (n / 64 % 32 + 192) % 32 * 64 + n % 64 = n by omega, back]
    · rw [first]
      omega
    · rw [mayFollow_iff, first, toNat_tail]
      omega
  split
  · next one two three =>
    have first := toNat_byte (n := n / 4096 % 16 + 224) (by omega)
    refine ⟨position + 3, ?_⟩
    rw [List.cons_append, List.cons_append, List.singleton_append, decodeFrom_three, bits_tail,
      bits_tail, first]
    · rw [show ((n / 4096 % 16 + 224) % 16 * 64 + n / 64 % 64) * 64 + n % 64 = n by omega, back]
    · rw [first]
      omega
    · rw [mayFollow_iff, first, toNat_tail]
      omega
    · exact continues_tail n
  · next one two three =>
    have first := toNat_byte (n := n / 262144 % 8 + 240) (by omega)
    refine ⟨position + 4, ?_⟩
    rw [List.cons_append, List.cons_append, List.cons_append, List.singleton_append,
      decodeFrom_four, bits_tail, bits_tail, bits_tail, first]
    · rw [show (((n / 262144 % 8 + 240) % 8 * 64 + n / 4096 % 64) * 64 + n / 64 % 64) * 64 +
        n % 64 = n by omega, back]
    · rw [first]
      omega
    · rw [mayFollow_iff, first, toNat_tail]
      omega
    · exact continues_tail _
    · exact continues_tail n

/-- A text has no fault exactly when every surrogate in it passes. -/
theorem faultFrom?_eq_none_iff {passes : Fin 0x800 → Bool} (position : Nat) (text : List CodePoint) :
    faultFrom? passes position text = none ↔ ∀ offset, .surrogate offset ∈ text → passes offset = true := by
  induction text generalizing position with
  | nil => simp [faultFrom?]
  | cons c text ih =>
    cases c with
    | char c => simp [faultFrom?, ih]
    | surrogate offset =>
      rw [faultFrom?]
      cases passed : passes offset with
      | false =>
        refine ⟨fun none => ?_, fun all => ?_⟩
        · cases none
        · cases passed.symm.trans (all offset List.mem_cons_self)
      | true => simp [ih, passed]

/-- A text is encoded if no surrogate stands in it. -/
theorem encode_eq_ok_iff {text : List CodePoint} {bytes : List UInt8} :
    encode text = .ok bytes ↔ (∀ offset, .surrogate offset ∉ text) ∧ text.flatMap bytesOf = bytes := by
  have clean : faultFrom? (fun _ => false) 0 text = none ↔ ∀ offset, .surrogate offset ∈ text → false = true :=
    faultFrom?_eq_none_iff 0 text
  rw [encode]
  cases fault : faultFrom? (fun _ => false) 0 text with
  | none =>
    rw [fault] at clean
    simp only [Except.ok.injEq]
    have none : ∀ offset, .surrogate offset ∉ text := fun offset mem => Bool.false_ne_true (clean.mp rfl offset mem)
    exact ⟨fun same => ⟨none, same⟩, And.right⟩
  | some fault =>
    rw [fault] at clean
    refine ⟨nofun, fun both => ?_⟩
    cases clean.mpr fun offset mem => absurd mem (both.1 offset)

/-- Decoding goes through the bytes of a text character by character. -/
theorem decodeFrom_bytesOf (text : List CodePoint) (clean : ∀ offset, .surrogate offset ∉ text) (position : Nat)
    (done : List CodePoint) :
    decodeFrom position done (text.flatMap bytesOf) = .ok (done.reverse ++ text) := by
  induction text generalizing position done with
  | nil => simp [decodeFrom]
  | cons c text ih =>
    cases c with
    | surrogate offset => exact absurd List.mem_cons_self (clean offset)
    | char c =>
      obtain ⟨next, step⟩ := decodeFrom_encodeChar c position done (text.flatMap bytesOf)
      have rest : ∀ offset, .surrogate offset ∉ text := fun offset mem => clean offset (List.mem_cons_of_mem _ mem)
      rw [List.flatMap_cons, bytesOf, step, ih rest, List.reverse_cons, List.append_assoc, List.singleton_append]

/-- What a text is encoded as is decoded to the text. -/
theorem decode_encode {text : List CodePoint} {bytes : List UInt8} (encoded : encode text = .ok bytes) :
    decode bytes = .ok text := by
  obtain ⟨clean, rfl⟩ := encode_eq_ok_iff.mp encoded
  exact decodeFrom_bytesOf text clean 0 []

end Taskboard.Utf8
