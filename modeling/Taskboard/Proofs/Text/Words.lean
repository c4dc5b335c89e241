import Mathlib.Data.List.Basic
import Mathlib.Data.List.TakeWhile
import Taskboard.Text.Words

/-!
# Words of a text

What the words of a text are when something is put in front of it, when it is put together from two texts with a
blank between them, and when it is cut at a mark. A text is normal if single spaces stand between its words and
nothing else is blank. Cutting the normal text of a text at a mark and trimming the halves gives the normal texts of
the halves that the text itself is cut into.
-/

namespace Taskboard.Text

variable {mark c : CodePoint} {text word : List CodePoint} {list : List (List CodePoint)}

/-- Whether a text is a word: it is not empty, and no character of it is blank. -/
def IsWord (word : List CodePoint) : Prop := word ≠ [] ∧ ∀ c ∈ word, isBlank c = false

instance (word : List CodePoint) : Decidable (IsWord word) :=
  decidable_of_iff (word ≠ [] ∧ word.all (!isBlank ·) = true) (by simp [IsWord])

/-- Words with single spaces between them. -/
def joined (list : List (List CodePoint)) : List CodePoint := [.char ' '].intercalate list

/-- The words of a text with single spaces between them. -/
def normal (text : List CodePoint) : List CodePoint := joined (words text)

/-- Whether a text has single spaces between words and no other blanks. -/
def IsNormal (text : List CodePoint) : Prop := ∃ list, (∀ word ∈ list, IsWord word) ∧ text = joined list

theorem joined_nil : joined [] = [] := rfl

theorem joined_singleton (word : List CodePoint) : joined [word] = word := List.append_nil word

theorem joined_cons (word : List CodePoint) (more : list ≠ []) :
    joined (word :: list) = word ++ .char ' ' :: joined list := by
  cases list with
  | nil => exact absurd rfl more
  | cons next rest =>
    rw [joined, List.intercalate_cons_cons, List.append_assoc]
    rfl

/-! ### Trimming -/

/-- Characters that are trimmed do not count at the front. -/
theorem trimBy_front {p : CodePoint → Bool} {front : List CodePoint} (before : ∀ c ∈ front, p c = true)
    (text : List CodePoint) : trimBy p (front ++ text) = trimBy p text := by
  rw [trimBy, trimBy, List.dropWhile_append_of_pos before]

/-- Up to the last character that is not trimmed everything stays, unless it starts with a trimmed one. -/
theorem trimBy_append_cons {p : CodePoint → Bool} {front : List CodePoint} (stops : p c = false)
    (head : ∀ d ∈ (front ++ [c]).head?, p d = false) (rest : List CodePoint) :
    trimBy p (front ++ c :: rest) = front ++ c :: (rest.reverse.dropWhile p).reverse := by
  have starts : (front ++ c :: rest).dropWhile p = front ++ c :: rest := by
    cases front with
    | nil => exact List.dropWhile_cons_of_neg (by simp [stops])
    | cons d front => exact List.dropWhile_cons_of_neg (by simp [head d rfl])
  have turned : (front ++ c :: rest).reverse = rest.reverse ++ c :: front.reverse := by simp
  have ends : (rest.reverse ++ c :: front.reverse).dropWhile p = rest.reverse.dropWhile p ++ c :: front.reverse := by
    rw [List.dropWhile_append]
    split
    · next none =>
      rw [List.isEmpty_iff.mp none, List.dropWhile_cons_of_neg (by simp [stops])]
      rfl
    · rfl
  rw [trimBy, starts, turned, ends]
  simp

/-- What stands between trimmed characters stays if it neither starts nor ends with one. -/
theorem trimBy_append {p : CodePoint → Bool} {front back middle : List CodePoint} (before : ∀ c ∈ front, p c = true)
    (after : ∀ c ∈ back, p c = true) (head : ∀ c ∈ middle.head?, p c = false)
    (last : ∀ c ∈ middle.getLast?, p c = false) : trimBy p (front ++ middle ++ back) = middle := by
  rw [List.append_assoc, trimBy_front before]
  rcases List.eq_nil_or_concat' middle with rfl | ⟨start, c, rfl⟩
  · have none := trimBy_front after []
    rw [List.append_nil] at none
    exact none
  · have nothing : back.reverse.dropWhile p = [] :=
      List.dropWhile_eq_nil_iff.mpr fun c mem => after c (List.mem_reverse.mp mem)
    rw [List.append_assoc, List.singleton_append, trimBy_append_cons (last c (by simp)) head, nothing]
    rfl

theorem trimBy_sublist (p : CodePoint → Bool) (text : List CodePoint) : (trimBy p text).Sublist text := by
  have front : (text.dropWhile p).Sublist text := List.dropWhile_sublist p
  have back : ((text.dropWhile p).reverse.dropWhile p).Sublist (text.dropWhile p).reverse := List.dropWhile_sublist p
  have turned := back.reverse
  rw [List.reverse_reverse] at turned
  exact turned.trans front

/-- Words with spaces between them start and end with no blank. -/
theorem ends_joined (proper : ∀ word ∈ list, IsWord word) :
    (∀ c ∈ (joined list).head?, isBlank c = false) ∧ ∀ c ∈ (joined list).getLast?, isBlank c = false := by
  induction list with
  | nil => exact ⟨nofun, nofun⟩
  | cons word list ih =>
    obtain ⟨filled, solid⟩ := proper word List.mem_cons_self
    have head : ∀ c ∈ word.head?, isBlank c = false := fun c mem => solid c (List.mem_of_mem_head? mem)
    have last : ∀ c ∈ word.getLast?, isBlank c = false := fun c mem => solid c (List.mem_of_mem_getLast? mem)
    cases list with
    | nil =>
      rw [joined_singleton]
      exact ⟨head, last⟩
    | cons next rest =>
      have proper' : ∀ word ∈ next :: rest, IsWord word := fun word mem => proper word (List.mem_cons_of_mem _ mem)
      have more : joined (next :: rest) ≠ [] := by
        have nextFilled := (proper' next List.mem_cons_self).1
        cases rest with
        | nil => rwa [joined_singleton]
        | cons other rest => simp [joined_cons]
      rw [joined_cons word (List.cons_ne_nil next rest), List.head?_append_of_ne_nil word filled,
        List.getLast?_append_of_ne_nil _ (List.cons_ne_nil _ _), List.getLast?_cons_of_ne_nil more]
      exact ⟨head, (ih proper').2⟩

/-- Trimming takes nothing but the blanks around words with spaces between them. -/
theorem trimBy_joined {front back : List CodePoint} (proper : ∀ word ∈ list, IsWord word)
    (before : ∀ c ∈ front, isBlank c = true) (after : ∀ c ∈ back, isBlank c = true) :
    trimBy isBlank (front ++ joined list ++ back) = joined list :=
  trimBy_append before after (ends_joined proper).1 (ends_joined proper).2

/-! ### Words -/

@[simp]
theorem consWord_nil (list : List (List CodePoint)) : consWord [] list = list := rfl

@[simp]
theorem consWord_cons (c : CodePoint) (word : List CodePoint) (list : List (List CodePoint)) :
    consWord (c :: word) list = (c :: word) :: list := rfl

theorem consWord_append (word : List CodePoint) (list others : List (List CodePoint)) :
    consWord word list ++ others = consWord word (list ++ others) := by
  cases word <;> rfl

theorem leadingWord_cons_blank (blank : isBlank c = true) (text : List CodePoint) :
    leadingWord (c :: text) = ([], words text) := by
  simp only [leadingWord, blank, if_true, words]

theorem leadingWord_cons_solid (solid : isBlank c = false) (text : List CodePoint) :
    leadingWord (c :: text) = (c :: (leadingWord text).1, (leadingWord text).2) := by
  simp only [leadingWord, solid, Bool.false_eq_true, if_false]

/-- A blank in front does not count. -/
theorem words_cons_blank (blank : isBlank c = true) (text : List CodePoint) : words (c :: text) = words text := by
  rw [words, leadingWord_cons_blank blank, consWord_nil]

/-- Characters that are not blank lengthen the word that a text starts with. -/
theorem leadingWord_append (solid : ∀ c ∈ word, isBlank c = false) (text : List CodePoint) :
    leadingWord (word ++ text) = (word ++ (leadingWord text).1, (leadingWord text).2) := by
  induction word with
  | nil => rfl
  | cons c word ih =>
    rw [List.cons_append, leadingWord_cons_solid (solid c List.mem_cons_self),
      ih fun c mem => solid c (List.mem_cons_of_mem _ mem)]
    rfl

/-- What a text starts with, and the words after it, when another text follows after a blank. -/
theorem leadingWord_append_blank (blank : isBlank c = true) (text rest : List CodePoint) :
    leadingWord (text ++ c :: rest) = ((leadingWord text).1, (leadingWord text).2 ++ words rest) := by
  induction text with
  | nil => exact leadingWord_cons_blank blank rest
  | cons d text ih =>
    rw [List.cons_append]
    cases kind : isBlank d with
    | true =>
      rw [leadingWord_cons_blank kind, leadingWord_cons_blank kind, words, ih, ← consWord_append]
      rfl
    | false => rw [leadingWord_cons_solid kind, leadingWord_cons_solid kind, ih]

/-- The words of two texts with a blank between them are those of the first and then those of the second. -/
theorem words_append_blank (blank : isBlank c = true) (text rest : List CodePoint) :
    words (text ++ c :: rest) = words text ++ words rest := by
  rw [words, leadingWord_append_blank blank, ← consWord_append, ← words]

/-- A word is its only word. -/
theorem words_word (h : IsWord word) : words word = [word] := by
  have whole := leadingWord_append h.2 []
  rw [List.append_nil] at whole
  rw [words, whole]
  cases word with
  | nil => exact absurd rfl h.1
  | cons c word =>
    show [c :: word ++ []] = _
    rw [List.append_nil]

/-- A text is empty, starts with a blank, is a word, or starts with a word that a blank ends. -/
@[elab_as_elim]
theorem blank_or_word {motive : List CodePoint → Prop} (nil : motive [])
    (blank : ∀ c text, isBlank c = true → motive text → motive (c :: text))
    (word : ∀ word, IsWord word → motive word)
    (append : ∀ word c text, IsWord word → isBlank c = true → motive text → motive (word ++ c :: text))
    (text : List CodePoint) : motive text := by
  induction length : text.length using Nat.strongRecOn generalizing text with
  | ind n ih =>
  cases text with
  | nil => exact nil
  | cons c text =>
    have shrinks (rest : List CodePoint) (shorter : rest.length < (c :: text).length) : motive rest :=
      ih rest.length (length ▸ shorter) rest rfl
    cases kind : isBlank c with
    | true => exact blank c text kind (shrinks text (Nat.lt_succ_self _))
    | false =>
      have first : IsWord (c :: text.takeWhile (!isBlank ·)) := by
        refine ⟨List.cons_ne_nil _ _, fun d mem => ?_⟩
        rcases List.mem_cons.mp mem with rfl | mem
        · exact kind
        · simpa using List.mem_takeWhile_imp mem
      have whole := List.takeWhile_append_dropWhile (p := (!isBlank ·)) (l := text)
      cases rest : text.dropWhile (!isBlank ·) with
      | nil =>
        rw [rest, List.append_nil] at whole
        rw [whole] at first
        exact word _ first
      | cons d rest' =>
        have ends : isBlank d = true := by
          have stops := List.head?_dropWhile_not (!isBlank ·) text
          rw [rest] at stops
          simpa using stops
        have shorter : rest'.length < (c :: text).length := by
          rw [← whole, rest]
          simp only [List.length_cons, List.length_append]
          omega
        rw [← whole, rest]
        exact append _ d rest' first ends (shrinks rest' shorter)

/-- The words of a text are words. -/
theorem isWord_of_mem_words (mem : word ∈ words text) : IsWord word := by
  induction text using blank_or_word with
  | nil => cases mem
  | blank c text blank ih =>
    rw [words_cons_blank blank] at mem
    exact ih mem
  | word whole proper =>
    rw [words_word proper, List.mem_singleton] at mem
    rwa [mem]
  | append first c text proper blank ih =>
    rw [words_append_blank blank, words_word proper] at mem
    rcases List.mem_cons.mp mem with rfl | mem
    · exact proper
    · exact ih mem

/-- Words with spaces between them are the words of their text. -/
theorem words_joined (proper : ∀ word ∈ list, IsWord word) : words (joined list) = list := by
  induction list with
  | nil => rfl
  | cons word list ih =>
    have first := words_word (proper word List.mem_cons_self)
    cases list with
    | nil => rwa [joined_singleton]
    | cons next rest =>
      rw [joined_cons word (List.cons_ne_nil next rest), words_append_blank (by decide), first,
        ih fun word mem => proper word (List.mem_cons_of_mem _ mem)]
      rfl

/-- The normal text of a text is normal. -/
theorem isNormal_normal (text : List CodePoint) : IsNormal (normal text) :=
  ⟨words text, fun _ => isWord_of_mem_words, rfl⟩

/-- A normal text is its own normal text. -/
theorem IsNormal.normal_eq (h : IsNormal text) : normal text = text := by
  obtain ⟨list, proper, rfl⟩ := h
  rw [normal, words_joined proper]

/-- What follows the first word of a text. -/
def afterWord (text : List CodePoint) : List CodePoint := (text.dropWhile isBlank).dropWhile (!isBlank ·)

/-- The words that follow the first word. -/
theorem words_afterWord (split : words text = word :: list) : words (afterWord text) = list := by
  have passes {word : List CodePoint} (proper : IsWord word) (rest : List CodePoint) :
      afterWord (word ++ rest) = rest.dropWhile (!isBlank ·) := by
    obtain ⟨filled, solid⟩ := proper
    cases word with
    | nil => exact absurd rfl filled
    | cons c word =>
      rw [afterWord, List.cons_append, List.dropWhile_cons_of_neg (by simp [solid c List.mem_cons_self]),
        ← List.cons_append, List.dropWhile_append_of_pos fun d mem => by simp [solid d mem]]
  induction text using blank_or_word with
  | nil => cases split
  | blank c text blank ih =>
    rw [words_cons_blank blank] at split
    rw [afterWord, List.dropWhile_cons_of_pos blank]
    exact ih split
  | word whole proper =>
    rw [words_word proper] at split
    cases split
    have none := passes proper []
    rw [List.append_nil] at none
    rw [none]
    rfl
  | append first c text proper blank ih =>
    rw [words_append_blank blank, words_word proper] at split
    cases split
    rw [passes proper, List.dropWhile_cons_of_neg (by simp [blank]), words_cons_blank blank]
    rfl

/-! ### Cutting at a mark -/

/-- The words before a mark and the words after it. The word in which the mark stands is cut too, and what is empty
of it is left out. -/
def cutWords (mark : CodePoint) : List (List CodePoint) → List (List CodePoint) × List (List CodePoint)
  | [] => ([], [])
  | word :: rest =>
    if mark ∈ word then (consWord (cutAt mark word).1 [], consWord (cutAt mark word).2 rest)
    else (word :: (cutWords mark rest).1, (cutWords mark rest).2)

/-- A text without the mark is all before it. -/
theorem cutAt_of_notMem (notMem : mark ∉ word) (text : List CodePoint) :
    cutAt mark (word ++ text) = (word ++ (cutAt mark text).1, (cutAt mark text).2) := by
  have passes : ∀ c ∈ word, decide (c ≠ mark) = true :=
    fun c mem => decide_eq_true fun same => notMem (same ▸ mem)
  rw [cutAt, List.takeWhile_append_of_pos passes, List.dropWhile_append_of_pos passes, cutAt]

/-- A text with the mark is cut there, whatever follows. -/
theorem cutAt_of_mem (mem : mark ∈ word) (text : List CodePoint) :
    cutAt mark (word ++ text) = ((cutAt mark word).1, (cutAt mark word).2 ++ text) := by
  induction word with
  | nil => cases mem
  | cons c word ih =>
    by_cases same : c = mark
    · simp [cutAt, same]
    · have rest := ih ((List.mem_cons.mp mem).resolve_left (Ne.symm same))
      simpa [cutAt, same] using rest

/-- The text before the mark does not have it. -/
theorem notMem_cutAt (mark : CodePoint) (text : List CodePoint) : mark ∉ (cutAt mark text).1 := by
  intro mem
  simpa using List.mem_takeWhile_imp mem

/-- A piece of a word is its only word, unless it is empty. -/
theorem words_solid (solid : ∀ c ∈ word, isBlank c = false) : words word = consWord word [] := by
  cases word with
  | nil => rfl
  | cons c word => exact words_word ⟨List.cons_ne_nil c word, solid⟩

/-- Where the mark is not blank, the words of the halves of a text are the halves of its words. -/
theorem words_cutAt (solid : isBlank mark = false) (text : List CodePoint) :
    words (cutAt mark text).1 = (cutWords mark (words text)).1 ∧
      words (cutAt mark text).2 = (cutWords mark (words text)).2 := by
  have halves {word : List CodePoint} (h : IsWord word) :
      words (cutAt mark word).1 = consWord (cutAt mark word).1 [] ∧
        words (cutAt mark word).2 = consWord (cutAt mark word).2 [] :=
    ⟨words_solid fun c mem => h.2 c ((List.takeWhile_sublist _).mem mem),
      words_solid fun c mem => h.2 c ((List.dropWhile_sublist _).mem (List.mem_of_mem_drop mem))⟩
  induction text using blank_or_word with
  | nil => exact ⟨rfl, rfl⟩
  | blank c text blank ih =>
    have other : mark ∉ [c] := fun mem => by simp [← List.mem_singleton.mp mem, solid] at blank
    have cut := cutAt_of_notMem other text
    rw [List.singleton_append] at cut
    rw [cut, List.singleton_append, words_cons_blank blank, words_cons_blank blank]
    exact ih
  | word word proper =>
    rw [words_word proper, cutWords]
    by_cases mem : mark ∈ word
    · rw [if_pos mem]
      exact halves proper
    · have cut := cutAt_of_notMem mem []
      rw [List.append_nil] at cut
      rw [if_neg mem, cut]
      exact ⟨(congrArg words (List.append_nil word)).trans (words_word proper), rfl⟩
  | append word c text proper blank ih =>
    rw [words_append_blank blank, words_word proper, List.singleton_append, cutWords]
    by_cases mem : mark ∈ word
    · rw [if_pos mem, cutAt_of_mem mem, words_append_blank blank, (halves proper).2, consWord_append]
      exact ⟨(halves proper).1, rfl⟩
    · have other : mark ≠ c := fun same => by simp [← same, solid] at blank
      have notMem : mark ∉ word ++ [c] := by simp [mem, other]
      have cut := cutAt_of_notMem notMem text
      rw [List.append_assoc, List.singleton_append] at cut
      rw [if_neg mem, cut, List.append_assoc, List.singleton_append, words_append_blank blank, words_word proper, ih.1,
        ih.2]
      exact ⟨rfl, rfl⟩

theorem joined_consWord (word : List CodePoint) : joined (consWord word []) = word := by
  cases word with
  | nil => rfl
  | cons c word => exact joined_singleton (c :: word)

/-- Words with spaces between them are cut into the halves of the words, with at most a space at the cut. -/
theorem cutAt_joined (solid : isBlank mark = false) (list : List (List CodePoint)) :
    ∃ back front, (∀ c ∈ back, isBlank c = true) ∧ (∀ c ∈ front, isBlank c = true) ∧
      cutAt mark (joined list) = (joined (cutWords mark list).1 ++ back, front ++ joined (cutWords mark list).2) := by
  have space : ∀ c ∈ [CodePoint.char ' '], isBlank c = true := List.forall_mem_singleton.mpr rfl
  induction list with
  | nil => exact ⟨[], [], nofun, nofun, rfl⟩
  | cons word list ih =>
    rw [cutWords]
    cases list with
    | nil =>
      rw [joined_singleton]
      by_cases mem : mark ∈ word
      · rw [if_pos mem, joined_consWord, joined_consWord]
        exact ⟨[], [], nofun, nofun, by rw [List.append_nil, List.nil_append]⟩
      · have cut := cutAt_of_notMem mem []
        rw [List.append_nil] at cut
        rw [if_neg mem, cut, cutWords, joined_singleton]
        exact ⟨[], [], nofun, nofun, rfl⟩
    | cons next rest =>
      rw [joined_cons word (List.cons_ne_nil next rest)]
      by_cases mem : mark ∈ word
      · rw [if_pos mem, cutAt_of_mem mem, joined_consWord]
        cases after : (cutAt mark word).2 with
        | nil => exact ⟨[], [.char ' '], nofun, space, by rw [List.append_nil, consWord_nil]; rfl⟩
        | cons c piece =>
          refine ⟨[], [], nofun, nofun, ?_⟩
          rw [List.append_nil, consWord_cons, joined_cons _ (List.cons_ne_nil next rest), List.nil_append]
      · obtain ⟨back, front, backBlank, frontBlank, cut⟩ := ih
        have other : mark ≠ .char ' ' := fun same => by simp [same, isBlank] at solid
        have notMem : mark ∉ word ++ [.char ' '] := by simp [mem, other]
        have passes := cutAt_of_notMem notMem (joined (next :: rest))
        rw [List.append_assoc, List.singleton_append] at passes
        rw [if_neg mem, passes, cut]
        cases before : (cutWords mark (next :: rest)).1 with
        | nil =>
          refine ⟨' ' :: back, front, ?_, frontBlank, ?_⟩
          · exact List.forall_mem_cons.mpr ⟨space ' ' List.mem_cons_self, backBlank⟩
          · rw [joined_singleton, joined_nil, List.append_assoc]
            rfl
        | cons first others =>
          refine ⟨back, front, backBlank, frontBlank, ?_⟩
          rw [joined_cons word (List.cons_ne_nil first others)]
          simp only [List.append_assoc, List.cons_append, List.nil_append]

/-- To cut a normal text and to trim the halves is to cut the text and to make the halves normal. -/
theorem trimBy_cutAt_normal (solid : isBlank mark = false) (text : List CodePoint) :
    trimBy isBlank (cutAt mark (normal text)).1 = normal (cutAt mark text).1 ∧
      trimBy isBlank (cutAt mark (normal text)).2 = normal (cutAt mark text).2 := by
  obtain ⟨first, second⟩ := words_cutAt solid text
  obtain ⟨back, front, backBlank, frontBlank, cut⟩ := cutAt_joined solid (words text)
  rw [← first, ← second] at cut
  have proper (text : List CodePoint) : ∀ word ∈ words text, IsWord word := fun _ => isWord_of_mem_words
  have none : ∀ c ∈ [], isBlank c = true := nofun
  rw [normal, cut]
  constructor
  · exact trimBy_joined (proper _) none backBlank
  · have trimmed := trimBy_joined (proper (cutAt mark text).2) frontBlank none
    rwa [List.append_nil] at trimmed

end Taskboard.Text
