import Taskboard.Task.Basic

/-!
# Written numbers read back

The decimal digits of a number are plain digits, as many as the limit allows exactly when the number is
below the bound, and the liberal reader takes them for the number they were written for. The text of
a counter therefore counts as the counter's value when tasks are ordered. The reader takes nothing for a
number that could not be written.
-/

namespace Taskboard

namespace Text

/-- Nothing is trimmed from a text without characters to trim. -/
theorem trimBy_eq_self {p : CodePoint → Bool} {text : List CodePoint} (h : ∀ c ∈ text, p c = false) :
    trimBy p text = text := by
  have drop (cs : List CodePoint) (hcs : ∀ c ∈ cs, p c = false) : cs.dropWhile p = cs := by
    cases cs with
    | nil => rfl
    | cons c cs => rw [List.dropWhile_cons_of_neg (by simp [hcs c List.mem_cons_self])]
  rw [trimBy, drop text h, drop, List.reverse_reverse]
  intro c hc
  exact h c (List.mem_reverse.mp hc)

/-- The plain digits are decimal digits with their usual values. -/
theorem digitValue?_of_isDigit {c : CodePoint} (h : c.isDigit) : digitValue? c = some (c.toNat - 48) := by
  obtain ⟨low, high⟩ := CodePoint.isDigit_iff_toNat.mp h
  have first : zeroDigits = 48 :: zeroDigits.tail := rfl
  rw [digitValue?, first, List.find?_cons_of_pos]
  · rfl
  · simp only [Bool.and_eq_true, decide_eq_true_eq]
    exact ⟨low, Nat.lt_succ_of_le high⟩

end Text

namespace Decimal

open Taskboard.Text

/-- A written number consists of plain digits. -/
theorem isDigit_of_mem_ofNat {n : Nat} {c : CodePoint} (hc : c ∈ ofNat n) : c.isDigit := by
  obtain ⟨digit, mem, rfl⟩ := List.mem_map.mp hc
  exact Nat.isDigit_of_mem_toDigits (by omega) (Nat.le_refl 10) mem

/-- A written number is not empty. -/
theorem ofNat_ne_nil (n : Nat) : ofNat n ≠ [] := mt List.map_eq_nil_iff.mp Nat.toDigits_ne_nil

/-- A written number starts with a plain digit. -/
theorem ofNat_eq_cons (n : Nat) : ∃ d ds, ofNat n = d :: ds ∧ d.isDigit := by
  obtain ⟨d, ds, written⟩ := List.exists_cons_of_ne_nil (ofNat_ne_nil n)
  refine ⟨d, ds, written, isDigit_of_mem_ofNat (n := n) ?_⟩
  rw [written]
  exact List.mem_cons_self

/-- How many digits a number has, in terms of powers of ten. -/
theorem length_ofNat_le_pow_iff (n : Nat) {k : Nat} (hk : 0 < k) :
    (ofNat n).length ≤ k ↔ n < Nat.pow 10 k := by
  rw [ofNat, List.length_map]
  exact Nat.length_toDigits_le_iff (by omega) hk

/-- A number can be written exactly when its digits stay within the limit. -/
theorem length_ofNat_le_iff (n : Nat) : (ofNat n).length ≤ longest ↔ tooLong n = false := by
  have below : tooLong n = false ↔ n < bound := by
    simp only [tooLong, Int.natAbs_natCast, decide_eq_false_iff_not, Nat.not_le]
  unfold bound at below
  exact (length_ofNat_le_pow_iff n (by decide)).trans below.symm

/-- A run of plain digits is read digit by digit. -/
theorem digits?_of_isDigit {ds : List CodePoint} (h : ∀ c ∈ ds, c.isDigit) (hne : ds ≠ []) :
    digits? ds = some (ds.map fun c => c.toNat - 48) := by
  induction ds with
  | nil => exact absurd rfl hne
  | cons c ds ih =>
    have hc := digitValue?_of_isDigit (h c List.mem_cons_self)
    cases ds with
    | nil => simp only [digits?, hc, Option.map_some, List.map_cons, List.map_nil]
    | cons d ds =>
      have hd : d ≠ '_' := by
        intro e
        have := h d (List.mem_cons_of_mem c List.mem_cons_self)
        rw [e] at this
        exact absurd this (by decide)
      have rest := ih (fun x hx => h x (List.mem_cons_of_mem c hx)) (List.cons_ne_nil d ds)
      rw [digits?, hc, rest]
      · rfl
      · exact hd

/-- The unsigned reader takes a written number for itself. -/
theorem readNat?_ofNat {n : Nat} (h : tooLong n = false) : readNat? (ofNat n) = some n := by
  have digits := digits?_of_isDigit (fun _ => isDigit_of_mem_ofNat (n := n)) (ofNat_ne_nil n)
  have short := (length_ofNat_le_iff n).mpr h
  have value : ofDigits ((ofNat n).map fun c => c.toNat - 48) = n := by
    rw [ofDigits, List.foldl_map, ofNat, List.foldl_map]
    exact Nat.ofDigitChars_ten_toDigits
  simp only [readNat?, digits, Option.bind_eq_bind, Option.bind_some, List.length_map, if_pos short,
    value]

/-- The reader of integers takes a written number for itself. -/
theorem readInt?_ofNat {n : Nat} (h : tooLong n = false) : readInt? (ofNat n) = some (n : Int) := by
  have plain (c : CodePoint) (hc : c ∈ ofNat n) : 48 ≤ c.toNat ∧ c.toNat ≤ 57 :=
    CodePoint.isDigit_iff_toNat.mp (isDigit_of_mem_ofNat hc)
  have trimmed : trimBy isMargin (ofNat n) = ofNat n := by
    apply trimBy_eq_self
    intro c hc
    have := plain c hc
    have : isBlank c = false := by
      simp only [isBlank, Bool.or_eq_false_iff, Bool.and_eq_false_imp, decide_eq_true_eq,
        decide_eq_false_iff_not, beq_eq_false_iff_ne]
      omega
    rw [isMargin, this, Bool.false_and]
  rw [readInt?, trimmed]
  split
  · next rest e => exact absurd (plain '-' (by rw [e]; exact List.mem_cons_self)) (by decide)
  · next rest e => exact absurd (plain '+' (by rw [e]; exact List.mem_cons_self)) (by decide)
  · rw [readNat?_ofNat h]
    rfl

/-- Digits that are read have the values zero to nine. -/
theorem digit_lt_of_digits? {text : List CodePoint} {ds : List Nat} (h : digits? text = some ds) :
    ∀ d ∈ ds, d < 10 := by
  induction text using digits?.induct generalizing ds with
  | case1 => cases h
  | case2 c =>
    obtain ⟨value, read, rfl⟩ := Option.map_eq_some_iff.mp h
    intro d mem
    rw [List.mem_singleton.mp mem]
    exact digitValue?_lt read
  | case3 c rest ih =>
    rw [digits?] at h
    obtain ⟨value, read, h⟩ := Option.bind_eq_some_iff.mp h
    obtain ⟨others, tail, h⟩ := Option.bind_eq_some_iff.mp h
    cases h
    exact List.forall_mem_cons.mpr ⟨digitValue?_lt read, ih tail⟩
  | case4 c next rest single ih =>
    rw [digits?] at h
    · obtain ⟨value, read, h⟩ := Option.bind_eq_some_iff.mp h
      obtain ⟨others, tail, h⟩ := Option.bind_eq_some_iff.mp h
      cases h
      exact List.forall_mem_cons.mpr ⟨digitValue?_lt read, ih tail⟩
    · exact single

/-- A number with at most so many digits is below that power of ten. -/
theorem ofDigits_lt {ds : List Nat} (h : ∀ d ∈ ds, d < 10) {k : Nat} (short : ds.length ≤ k) :
    ofDigits ds < Nat.pow 10 k := by
  have step (n : Nat) : ds.foldl (fun n d => 10 * n + d) n < (n + 1) * Nat.pow 10 ds.length := by
    induction ds generalizing n with
    | nil => exact Nat.lt_of_lt_of_eq (Nat.lt_succ_self n) (Nat.mul_one (n + 1)).symm
    | cons d ds ih =>
      obtain ⟨small, others⟩ := List.forall_mem_cons.mp h
      calc ds.foldl (fun n d => 10 * n + d) (10 * n + d)
          < (10 * n + d + 1) * Nat.pow 10 ds.length := ih others (Nat.le_of_succ_le short) _
        _ ≤ ((n + 1) * 10) * Nat.pow 10 ds.length := Nat.mul_le_mul_right _ (by omega)
        _ = (n + 1) * (Nat.pow 10 ds.length * 10) := by rw [Nat.mul_assoc, Nat.mul_comm 10]
  have first := step 0
  rw [Nat.zero_add, Nat.one_mul] at first
  exact Nat.lt_of_lt_of_le first (Nat.pow_le_pow_right (by decide) short)

/-- A number that is read can be written. -/
theorem tooLong_of_readNat? {text : List CodePoint} {n : Nat} (h : readNat? text = some n) : tooLong n = false := by
  obtain ⟨ds, digits, h⟩ := Option.bind_eq_some_iff.mp h
  split at h
  · next short =>
    cases h
    have below := ofDigits_lt (digit_lt_of_digits? digits) short
    rw [tooLong, Int.natAbs_natCast, decide_eq_false_iff_not, Nat.not_le]
    unfold bound
    exact below
  · cases h

/-- An integer that is read can be written. -/
theorem tooLong_of_readInt? {text : List CodePoint} {n : Int} (h : readInt? text = some n) : tooLong n = false := by
  have unsigned (rest : List CodePoint) (m : Nat) (read : readNat? rest = some m) (abs : n.natAbs = m) :
      tooLong n = false := by
    have short := tooLong_of_readNat? read
    rwa [tooLong, Int.natAbs_natCast, ← abs] at short
  rw [readInt?.eq_def] at h
  split at h
  · next rest margins =>
    obtain ⟨m, cast, rfl⟩ := Option.map_eq_some_iff.mp h
    obtain ⟨digits, read, same⟩ := Option.bind_eq_some_iff.mp cast
    cases same
    exact unsigned rest digits read ((Int.natAbs_neg digits).trans (Int.natAbs_natCast digits))
  · next rest margins =>
    obtain ⟨digits, read, rfl⟩ := Option.map_eq_some_iff.mp h
    exact unsigned rest digits read (Int.natAbs_natCast digits)
  · obtain ⟨digits, read, rfl⟩ := Option.map_eq_some_iff.mp h
    exact unsigned _ digits read (Int.natAbs_natCast digits)

end Decimal

/-- The text of a number that can be written counts as that number. -/
theorem Task.numericId_natText {n : Nat} (h : Decimal.tooLong n = false) :
    Task.numericId (Decimal.natText n) = n := by
  rw [numericId, Decimal.natText, Text.toList_ofList, Decimal.readInt?_ofNat h]
  rfl

/-- The number of every identifier can be written. -/
theorem Task.numericId_short (id : Text) : Decimal.tooLong (numericId id) = false := by
  rw [numericId]
  cases read : Decimal.readInt? id.toList with
  | none => decide +kernel
  | some n => exact Decimal.tooLong_of_readInt? read

end Taskboard
