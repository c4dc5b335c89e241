import Taskboard.Proofs.Json.Text

/-!
# Written documents read back

Reading inverts writing on every document whose integers can be written, in which no object has a name
twice, and which is not nested too deep. The value is followed by arbitrary text, so that the induction
goes through the items of lists and the members of objects.
-/

namespace Taskboard.Json

open Decimal

/-- Values that are read back from their written form, with at most `room` containers inside each other.
Numbers that are not integers are not among them. -/
inductive Readable : Nat → Json → Prop where
  | null {room : Nat} : Readable room .null
  | bool {room : Nat} (value : Bool) : Readable room (.bool value)
  | int {room : Nat} {value : Int} (short : tooLong value = false) : Readable room (.int value)
  | string {room : Nat} (value : Text) : Readable room (.string value)
  | list {room : Nat} {items : List Json} (readable : ∀ item ∈ items, Readable room item) :
      Readable (room + 1) (.list items)
  | object {room : Nat} {members : List (Text × Json)} (distinct : (members.map Prod.fst).Nodup)
      (readable : ∀ member ∈ members, Readable room member.2) :
      Readable (room + 1) (.object members)

/-- A written integer starts with its sign or a digit. -/
theorem ofInt_eq_cons (n : Int) :
    ∃ c tail, ofInt n = c :: tail ∧ 45 ≤ c.toNat ∧ c.toNat ≤ 57 := by
  by_cases negative : n < 0
  · refine ⟨'-', ofNat n.natAbs, ?_, by decide⟩
    rw [ofInt, if_pos negative]
  · obtain ⟨d, ds, digits, digit⟩ := ofNat_eq_cons n.natAbs
    have range : 48 ≤ d.toNat ∧ d.toNat ≤ 57 := CodePoint.isDigit_iff_toNat.mp digit
    refine ⟨d, ds, ?_, by omega⟩
    rw [ofInt, if_neg negative, digits]

/-- The first character of a written value is visible, and ends no list. -/
theorem writtenAt_eq_cons {room : Nat} {value : Json} (h : Readable room value) (depth : Nat) :
    ∃ c tail, writtenAt depth value = c :: tail ∧ 32 < c.toNat ∧ c.toNat < 127 ∧ c ≠ ']' := by
  cases h with
  | null => exact ⟨'n', _, rfl, by decide⟩
  | bool value =>
    cases value
    · exact ⟨'f', _, rfl, by decide⟩
    · exact ⟨'t', _, rfl, by decide⟩
  | @int room value short =>
    obtain ⟨c, tail, written, range⟩ := ofInt_eq_cons value
    refine ⟨c, tail, written, by omega, by omega, ?_⟩
    rintro rfl
    exact absurd range (by decide)
  | string value => exact ⟨Text.doubleQuote, _, rfl, by decide⟩
  | @list room items readable => cases items <;> exact ⟨'[', _, rfl, by decide⟩
  | @object room members distinct readable =>
    cases members <;> exact ⟨CodePoint.ofNat 0x7B, _, rfl, by decide⟩

/-- A visible character is no gap. -/
theorem isGap_of_visible {c : CodePoint} (h : 32 < c.toNat) : isGap c = false := by
  simp only [isGap, Bool.or_eq_false_iff, decide_eq_false_iff_not]
  refine ⟨⟨⟨?_, ?_⟩, ?_⟩, ?_⟩ <;> rintro rfl <;> exact absurd h (by decide)

/-- No gap is skipped in front of a character that is none. -/
theorem skipGap_cons {c : CodePoint} (h : isGap c = false) (rest : List CodePoint) :
    skipGap (c :: rest) = c :: rest :=
  List.dropWhile_cons_of_neg (by simp [h])

/-- No gap is skipped in front of a written value. -/
theorem skipGap_writtenAt {room : Nat} {value : Json} (h : Readable room value) (depth : Nat)
    (rest : List CodePoint) : skipGap (writtenAt depth value ++ rest) = writtenAt depth value ++ rest := by
  obtain ⟨c, tail, written, visible, -⟩ := writtenAt_eq_cons h depth
  rw [written, List.cons_append, skipGap_cons (isGap_of_visible visible)]

/-- A new line and its indentation are skipped. -/
theorem skipGap_newLine (depth : Nat) (rest : List CodePoint) :
    skipGap (newLine depth ++ rest) = skipGap rest := by
  apply List.dropWhile_append_of_pos
  intro c hc
  rcases List.mem_cons.mp hc with rfl | hc
  · decide
  · rw [List.eq_of_mem_replicate hc]
    decide

/-- A blank is skipped. -/
theorem skipGap_blank (rest : List CodePoint) : skipGap (' ' :: rest) = skipGap rest := rfl

/-- No gap is skipped in front of a written text. -/
theorem skipGap_writtenText (text : Text) (rest : List CodePoint) :
    skipGap (writtenText text ++ rest) = writtenText text ++ rest :=
  skipGap_cons (by decide) _

/-- A new line ends a number. -/
theorem ends_newLine (depth : Nat) (rest : List CodePoint) : Ends (newLine depth ++ rest) :=
  ends_cons (by decide)

/-- What is left to read of a container after one of its items: the others, and its end. -/
theorem ends_writtenItems (depth outer : Nat) (items : List Json) (rest : List CodePoint) :
    Ends (writtenItems depth items ++ (newLine outer ++ rest)) := by
  cases items with
  | nil => exact ends_newLine outer rest
  | cons item items => exact ends_cons (by decide)

/-- What is left to read of a container after one of its members: the others, and its end. -/
theorem ends_writtenMembers (depth outer : Nat) (members : List (Text × Json))
    (rest : List CodePoint) : Ends (writtenMembers depth members ++ (newLine outer ++ rest)) := by
  cases members with
  | nil => exact ends_newLine outer rest
  | cons member members => exact ends_cons (by decide)

/-- The characters of a written integer start no word. -/
theorem readScalar_ofInt {n : Int} (h : tooLong n = false) {rest : List CodePoint} (ends : Ends rest) :
    readScalar (ofInt n ++ rest) = .ok (.int n, rest) := by
  obtain ⟨d, ds, digits, digit⟩ := ofNat_eq_cons n.natAbs
  have noLetter (c : CodePoint) (hc : c.isDigit = false) : ¬ c = d := by
    rintro rfl
    rw [digit] at hc
    cases hc
  have noWord : (wordValues.findSome? fun word =>
      (dropStart? word.1 (ofInt n ++ rest)).map (word.2, ·)) = none := by
    by_cases negative : n < 0
    · rw [ofInt, if_pos negative, digits]
      simp [wordValues, dropStart?, noLetter 'I' (by decide)]
    · rw [ofInt, if_neg negative, digits]
      simp [wordValues, dropStart?, noLetter 'n' (by decide), noLetter 't' (by decide),
        noLetter 'f' (by decide), noLetter 'N' (by decide), noLetter 'I' (by decide),
        noLetter '-' (by decide)]
  rw [readScalar, noWord]
  exact readNumber_ofInt h ends

/-- A reader takes a value written inside `depth` containers for itself, up to a text that ends it, as
long as the whole is shorter than the bound. -/
def ReadsBack (read : List CodePoint → Except Stop (Json × List CodePoint)) (depth bound : Nat)
    (value : Json) : Prop :=
  ∀ after, Ends after → (writtenAt depth value ++ after).length < bound →
    read (writtenAt depth value ++ after) = .ok (value, after)

section Containers

variable {read : List CodePoint → Except Stop (Json × List CodePoint)} {depth outer : Nat}

/-- The items of a list are read one after another. -/
theorem readItems_written (bound : Nat) {items : List Json} {item : Json} {done : List Json} {fuel : Nat}
    {rest : List CodePoint} (readable : ∀ value ∈ item :: items, ∃ room, Readable room value)
    (reads : ∀ value ∈ item :: items, ReadsBack read depth bound value)
    (enough : items.length < fuel)
    (fits : (writtenAt depth item ++
      (writtenItems depth items ++ (newLine outer ++ .char ']' :: rest))).length < bound) :
    readItems read fuel done
        (writtenAt depth item ++ (writtenItems depth items ++ (newLine outer ++ .char ']' :: rest))) =
      .ok (.list (done.reverse ++ item :: items), rest) := by
  induction items generalizing item done fuel with
  | nil =>
    obtain ⟨fuel, rfl⟩ : ∃ n, fuel = n + 1 := ⟨fuel - 1, by omega⟩
    have first := reads item List.mem_cons_self _ (ends_writtenItems depth outer [] _) fits
    rw [readItems, first]
    simp only [writtenItems, List.nil_append]
    rw [skipGap_newLine, skipGap_cons (by decide)]
    simp only [List.reverse_cons]
  | cons next items ih =>
    obtain ⟨fuel, rfl⟩ : ∃ n, fuel = n + 1 := ⟨fuel - 1, by omega⟩
    have first := reads item List.mem_cons_self _ (ends_writtenItems depth outer _ _) fits
    obtain ⟨room, nextReadable⟩ := readable next (by simp)
    rw [readItems, first]
    simp only [writtenItems, List.cons_append, List.append_assoc] at fits ⊢
    rw [skipGap_cons (by decide)]
    simp only
    rw [skipGap_newLine, skipGap_writtenAt nextReadable, ih]
    · simp only [List.reverse_cons, List.append_assoc, List.singleton_append]
    · exact fun value hv => readable value (List.mem_cons_of_mem item hv)
    · exact fun value hv => reads value (List.mem_cons_of_mem item hv)
    · simp only [List.length_cons] at enough
      omega
    · simp only [List.length_append, List.length_cons] at fits ⊢
      omega

/-- A name is read up to its closing quote. -/
theorem readText_writtenText (opening : List CodePoint) (name : Text) (rest : List CodePoint) :
    readText opening [] (name.toList.flatMap writtenChar ++ Text.doubleQuote :: rest) =
      .ok (name, rest) := by
  rw [readText_written, List.reverse_nil, List.nil_append, Text.ofList_toList]

/-- A member with a new name is read, and what follows it decides how to go on. -/
theorem readMembers_member {done : List (Text × Json)} {name : Text} {value : Json}
    {fuel room : Nat} {after : List CodePoint} (readable : Readable room value)
    (new : name ∉ done.map Prod.fst)
    (first : read (writtenAt depth value ++ after) = .ok (value, after)) :
    readMembers read (fuel + 1) done
        (writtenText name ++ .char ':' :: .char ' ' :: (writtenAt depth value ++ after)) =
      match skipGap after with
      | ',' :: rest => readMembers read fuel (done ++ [(name, value)]) (skipGap rest)
      | last :: rest =>
        if last = CodePoint.ofNat 0x7D then .ok (.object (done ++ [(name, value)]), rest)
        else .error (.here .noComma (last :: rest))
      | [] => .error (.here .noComma []) := by
  rw [writtenText, List.append_assoc, List.cons_append, List.singleton_append, readMembers,
    if_neg (by simp), readText_writtenText]
  simp only
  rw [skipGap_cons (by decide)]
  simp only
  rewrite [skipGap_blank, skipGap_writtenAt readable, first, ← Entries.put_of_notMem value new]
  rfl

/-- The members of an object are read one after another; their names are all new. -/
theorem readMembers_written (bound : Nat) {members done : List (Text × Json)} {name : Text} {value : Json}
    {fuel : Nat} {rest : List CodePoint}
    (readable : ∀ member ∈ (name, value) :: members, ∃ room, Readable room member.2)
    (reads : ∀ member ∈ (name, value) :: members, ReadsBack read depth bound member.2)
    (distinct : ((done ++ (name, value) :: members).map Prod.fst).Nodup)
    (enough : members.length < fuel)
    (fits : (writtenAt depth value ++ (writtenMembers depth members ++
      (newLine outer ++ CodePoint.ofNat 0x7D :: rest))).length < bound) :
    readMembers read fuel done
        (writtenText name ++ .char ':' :: .char ' ' :: (writtenAt depth value ++
          (writtenMembers depth members ++ (newLine outer ++ CodePoint.ofNat 0x7D :: rest)))) =
      .ok (.object (done ++ (name, value) :: members), rest) := by
  induction members generalizing name value done fuel with
  | nil =>
    obtain ⟨fuel, rfl⟩ : ∃ n, fuel = n + 1 := ⟨fuel - 1, by omega⟩
    obtain ⟨room, valueReadable⟩ := readable (name, value) List.mem_cons_self
    have first := reads (name, value) List.mem_cons_self _
      (ends_writtenMembers depth outer [] _) fits
    have new : name ∉ done.map Prod.fst := by
      rw [List.map_append, List.map_cons, List.nodup_append] at distinct
      exact fun mem => distinct.2.2 name mem name List.mem_cons_self rfl
    rw [readMembers_member valueReadable new first]
    simp only [writtenMembers, List.nil_append]
    rw [skipGap_newLine, skipGap_cons (by decide)]
    rfl
  | cons next members ih =>
    obtain ⟨fuel, rfl⟩ : ∃ n, fuel = n + 1 := ⟨fuel - 1, by omega⟩
    obtain ⟨room, valueReadable⟩ := readable (name, value) List.mem_cons_self
    have first := reads (name, value) List.mem_cons_self _
      (ends_writtenMembers depth outer _ _) fits
    have new : name ∉ done.map Prod.fst := by
      rw [List.map_append, List.map_cons, List.nodup_append] at distinct
      exact fun mem => distinct.2.2 name mem name List.mem_cons_self rfl
    have move : done ++ (name, value) :: next :: members =
        (done ++ [(name, value)]) ++ next :: members := by
      rw [List.append_assoc, List.singleton_append]
    rw [readMembers_member valueReadable new first]
    obtain ⟨nextName, nextValue⟩ := next
    simp only [writtenMembers, List.cons_append, List.append_assoc] at fits ⊢
    rw [skipGap_cons (by decide)]
    simp only
    rw [skipGap_newLine, skipGap_writtenText, ih]
    · rw [move]
    · exact fun member hm => readable member (List.mem_cons_of_mem _ hm)
    · exact fun member hm => reads member (List.mem_cons_of_mem _ hm)
    · rwa [← move]
    · simp only [List.length_cons] at enough
      omega
    · simp only [List.length_append, List.length_cons] at fits ⊢
      omega

end Containers

/-- A value that is neither a text nor a container is read as a word or a number. -/
theorem readValue_scalar {bound room : Nat} {c : CodePoint} {rest : List CodePoint}
    (quote : c ≠ Text.doubleQuote) (bracket : c ≠ '[') (brace : c ≠ CodePoint.ofNat 0x7B) :
    readValue bound room (c :: rest) = readScalar (c :: rest) := by
  rw [readValue.eq_def]
  simp only [if_neg quote, if_neg bracket, if_neg brace]

/-- The written items of a list are at least as many characters. -/
theorem length_le_length_writtenItems (depth : Nat) (items : List Json) :
    items.length ≤ (writtenItems depth items).length := by
  induction items with
  | nil => exact Nat.zero_le _
  | cons item items ih =>
    simp only [writtenItems, List.length_append, List.length_cons]
    omega

/-- The written members of an object are at least as many characters. -/
theorem length_le_length_writtenMembers (depth : Nat) (members : List (Text × Json)) :
    members.length ≤ (writtenMembers depth members).length := by
  induction members with
  | nil => exact Nat.zero_le _
  | cons member members ih =>
    simp only [writtenMembers, List.length_append, List.length_cons]
    omega

/-- Every readable value is read back from its written form, whatever ends it. -/
theorem readsBack_readValue {room : Nat} {value : Json} (h : Readable room value) (bound depth : Nat) :
    ReadsBack (readValue bound room) depth bound value := by
  induction h generalizing depth with
  | null =>
    intro after ends fits
    exact readValue_scalar (by decide) (by decide) (by decide)
  | bool value =>
    intro after ends fits
    cases value <;> exact readValue_scalar (by decide) (by decide) (by decide)
  | @int room value short =>
    intro after ends fits
    obtain ⟨c, tail, written, range⟩ := ofInt_eq_cons value
    have other (d : CodePoint) (hd : ¬ (45 ≤ d.toNat ∧ d.toNat ≤ 57)) : c ≠ d := by
      rintro rfl
      exact hd range
    rw [writtenAt, written, List.cons_append, readValue_scalar (other _ (by decide))
      (other _ (by decide)) (other _ (by decide)), ← List.cons_append, ← written,
      readScalar_ofInt short ends]
  | @string room value =>
    intro after ends fits
    rw [writtenAt, writtenText, List.append_assoc, List.cons_append, List.singleton_append,
      readValue.eq_def]
    simp only [if_true, readText_writtenText]
  | @list room items readable ih =>
    intro after ends fits
    cases items with
    | nil => rfl
    | cons item items =>
      have itemReadable := readable item List.mem_cons_self
      obtain ⟨c, tail, written, -, -, bracket⟩ := writtenAt_eq_cons itemReadable (depth + 1)
      have count := length_le_length_writtenItems (depth + 1) items
      simp only [writtenAt, List.cons_append, List.append_assoc, List.nil_append] at fits ⊢
      simp only [List.length_cons, List.length_append] at fits
      rw [readValue.eq_def]
      simp only [if_neg (by decide : ¬ '[' = Text.doubleQuote), if_true]
      rw [skipGap_newLine, skipGap_writtenAt itemReadable]
      split
      · next rest e =>
        rw [written] at e
        exact absurd (List.cons.inj e).1 bracket
      · rw [readItems_written bound]
        · rfl
        · exact fun value hv => ⟨room, readable value hv⟩
        · exact fun value hv => ih value hv (depth + 1)
        · omega
        · simp only [List.length_cons, List.length_append]
          omega
  | @object room members distinct readable ih =>
    intro after ends fits
    cases members with
    | nil => rfl
    | cons member members =>
      obtain ⟨name, value⟩ := member
      have count := length_le_length_writtenMembers (depth + 1) members
      simp only [writtenAt, List.cons_append, List.append_assoc, List.nil_append] at fits ⊢
      simp only [List.length_cons, List.length_append] at fits
      rw [readValue.eq_def]
      simp only [if_neg (by decide : ¬ CodePoint.ofNat 0x7B = Text.doubleQuote),
        if_neg (by decide : ¬ CodePoint.ofNat 0x7B = '['), if_true]
      rw [skipGap_newLine, skipGap_writtenText]
      split
      · next e => exact absurd e (by simp [writtenText])
      · next first rest e =>
        have quote : Text.doubleQuote = first := (List.cons.inj e).1
        rw [← quote, if_neg (by decide), quote, ← e, readMembers_written bound]
        · rfl
        · exact fun member hm => ⟨room, readable member hm⟩
        · exact fun member hm => ih member hm (depth + 1)
        · exact distinct
        · omega
        · simp only [List.length_cons, List.length_append]
          omega

/-- A readable document is read back as a whole. -/
theorem read_written {room : Nat} {value : Json} (h : Readable room value) :
    read room (written value) = .ok value := by
  obtain ⟨c, tail, starts, -, plain, -⟩ := writtenAt_eq_cons h 0
  have mark : ¬ (written value).head? = some (CodePoint.ofNat 0xFEFF) := by
    rw [written, starts, List.head?_cons, Option.some.injEq]
    rintro rfl
    exact absurd plain (by decide)
  have whole := readsBack_readValue h ((written value).length + 1) 0 [] ends_nil
    (by rw [List.append_nil]; exact Nat.lt_succ_self _)
  have gap := skipGap_writtenAt h 0 []
  rw [List.append_nil, ← written] at whole gap
  rw [read, readDocument, if_neg mark, gap, whole]
  rfl

end Taskboard.Json
