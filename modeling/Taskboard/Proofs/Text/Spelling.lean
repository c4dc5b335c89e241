import Taskboard.Proofs.Text.Words

/-!
# Identifiers in a text

Identifiers without blanks and commas, written one after the other with blanks and commas between them, are read from
the words of the text, without the commas around a word. That gives the identifiers that are meant where there is a
blank between any two of them; where there are only commas, two identifiers are read as one, commas included.
-/

namespace Taskboard

namespace Text

/-- Whether a character separates identifiers: it is a blank or a comma. -/
def separates (c : CodePoint) : Bool := isBlank c || c = ','

/-- The words of a text without the commas around them; words of commas alone are left out. -/
def bareWords (text : List CodePoint) : List (List CodePoint) :=
  ((words text).map (trimBy (· = .char ','))).filter (· ≠ [])

/-- An identifier with what is written behind it. -/
structure Spelled where
  /-- The identifier. -/
  id : List CodePoint
  /-- What is written behind it. -/
  gap : List CodePoint
  /-- The identifier has neither blanks nor commas. -/
  solid : ∀ c ∈ id, separates c = false
  /-- Behind it there is nothing else. -/
  separated : ∀ c ∈ gap, separates c = true

/-- Identifiers as they are written one after the other. -/
structure Spelling where
  /-- What is written in front of them. -/
  lead : List CodePoint
  /-- The identifiers. -/
  items : List Spelled
  /-- In front of them there are only blanks and commas. -/
  leads : ∀ c ∈ lead, separates c = true
  /-- Something stands between any two of them. -/
  apart : ∀ item ∈ items.dropLast, item.gap ≠ []

/-- What is written from an identifier on. -/
def spelled (items : List Spelled) : List CodePoint := items.flatMap fun item => item.id ++ item.gap

/-- The whole of what is written. -/
def Spelling.text (spelling : Spelling) : List CodePoint := spelling.lead ++ spelled spelling.items

/-- The identifiers that are meant. -/
def Spelling.ids (spelling : Spelling) : List (List CodePoint) := spelling.items.map Spelled.id

/-- Identifiers with every one tied to the next, by what is written between them, where that has no blank. -/
def tied : List Spelled → List (List CodePoint)
  | [] => []
  | item :: rest =>
    if item.gap.any isBlank then item.id :: tied rest
    else
      match tied rest with
      | [] => [item.id]
      | next :: others => (item.id ++ item.gap ++ next) :: others

variable {c : CodePoint} {text rest commas : List CodePoint} {item : Spelled} {items : List Spelled}

theorem isBlank_of_separates (solid : separates c = false) : isBlank c = false := by
  rw [separates, Bool.or_eq_false_iff] at solid
  exact solid.1

theorem ne_comma_of_separates (solid : separates c = false) : (c = ',' : Bool) = false := by
  rw [separates, Bool.or_eq_false_iff] at solid
  exact solid.2

theorem eq_comma_of_separates (separator : separates c = true) (solid : isBlank c = false) : c = ',' := by
  rw [separates, solid, Bool.false_or] at separator
  exact of_decide_eq_true separator

/-- A separator in front does not count. -/
theorem bareWords_cons (separator : separates c = true) (text : List CodePoint) :
    bareWords (c :: text) = bareWords text := by
  cases kind : isBlank c with
  | true => rw [bareWords, words_cons_blank kind, bareWords]
  | false =>
    have comma : ∀ d ∈ [c], (d = ',' : Bool) = true := by
      rw [List.forall_mem_singleton]
      exact decide_eq_true (eq_comma_of_separates separator kind)
    have first : trimBy (· = .char ',') (c :: (leadingWord text).1) = trimBy (· = .char ',') (leadingWord text).1 :=
      trimBy_front comma _
    rw [bareWords, words, leadingWord_cons_solid kind, bareWords, words]
    dsimp only
    rw [consWord_cons, List.map_cons, first]
    cases (leadingWord text).1 with
    | nil => rfl
    | cons d word => rfl

/-- Separators in front do not count. -/
theorem bareWords_lead {lead : List CodePoint} (separators : ∀ c ∈ lead, separates c = true) (text : List CodePoint) :
    bareWords (lead ++ text) = bareWords text := by
  induction lead with
  | nil => rfl
  | cons c lead ih =>
    rw [List.cons_append, bareWords_cons (separators c List.mem_cons_self),
      ih fun d mem => separators d (List.mem_cons_of_mem _ mem)]

/-- What a blank parts is read in two parts. -/
theorem bareWords_append_blank (blank : isBlank c = true) (text rest : List CodePoint) :
    bareWords (text ++ c :: rest) = bareWords text ++ bareWords rest := by
  rw [bareWords, words_append_blank blank, List.map_append, List.filter_append, ← bareWords, ← bareWords]

/-- No identifier that is read is empty. -/
theorem ne_nil_of_mem_bareWords {word : List CodePoint} (mem : word ∈ bareWords text) : word ≠ [] := by
  simpa using (List.mem_filter.mp mem).2

/-- What starts with an identifier and has only commas behind it is a word. -/
theorem isWord_spelled (filled : item.id ≠ []) (none : ∀ c ∈ commas, c = ',') : IsWord (item.id ++ commas) := by
  refine ⟨List.append_ne_nil_of_left_ne_nil filled _, fun c mem => ?_⟩
  rcases List.mem_append.mp mem with mem | mem
  · exact isBlank_of_separates (item.solid c mem)
  · rw [none c mem]
    decide

/-- Commas behind an identifier do not count. -/
theorem bareWords_spelled (filled : item.id ≠ []) (none : ∀ c ∈ commas, c = ',') :
    bareWords (item.id ++ commas) = [item.id] := by
  have trimmed : trimBy (· = .char ',') ([] ++ item.id ++ commas) = item.id :=
    trimBy_append nofun (fun c mem => decide_eq_true (none c mem))
      (fun c mem => ne_comma_of_separates (item.solid c (List.mem_of_mem_head? mem)))
      (fun c mem => ne_comma_of_separates (item.solid c (List.mem_of_mem_getLast? mem)))
  rw [List.nil_append] at trimmed
  rw [bareWords, words_word (isWord_spelled filled none), List.map_singleton, trimmed]
  exact List.filter_cons_of_pos (by simpa using filled)

/-- With nothing but commas between them, an identifier is read as one with what comes next. -/
theorem bareWords_tied (filled : item.id ≠ []) (none : ∀ c ∈ commas, c = ',') (solid : separates c = false)
    (rest : List CodePoint) :
    ∃ next others, bareWords (c :: rest) = next :: others ∧
      bareWords (item.id ++ commas ++ c :: rest) = (item.id ++ commas ++ next) :: others := by
  have reads {text front : List CodePoint}
      (split : words text = (front ++ c :: (leadingWord rest).1) :: (leadingWord rest).2)
      (head : ∀ d ∈ (front ++ [c]).head?, (d = ',' : Bool) = false) :
      bareWords text = (front ++ c :: ((leadingWord rest).1.reverse.dropWhile (· = .char ',')).reverse) ::
        ((leadingWord rest).2.map (trimBy (· = .char ','))).filter (· ≠ []) := by
    have trimmed := trimBy_append_cons (ne_comma_of_separates solid) head (leadingWord rest).1
    rw [bareWords, split, List.map_cons, trimmed]
    exact List.filter_cons_of_pos (by simp)
  have blankless := isBlank_of_separates solid
  have head : ∀ d ∈ (item.id ++ commas ++ [c]).head?, (d = ',' : Bool) = false := by
    intro d mem
    rw [List.append_assoc, List.head?_append_of_ne_nil item.id filled] at mem
    exact ne_comma_of_separates (item.solid d (List.mem_of_mem_head? mem))
  have alone : words (c :: rest) = ([] ++ c :: (leadingWord rest).1) :: (leadingWord rest).2 := by
    rw [words, leadingWord_cons_solid blankless]
    rfl
  have behind : words (item.id ++ commas ++ c :: rest) =
      (item.id ++ commas ++ c :: (leadingWord rest).1) :: (leadingWord rest).2 := by
    rw [words, leadingWord_append (isWord_spelled filled none).2, leadingWord_cons_solid blankless, consWord, if_neg]
    simp
  refine ⟨_, _, reads alone fun d mem => ?_, reads behind head⟩
  cases mem
  exact ne_comma_of_separates solid

/-- A gap has no blank, and then it is a run of commas, or it is a run of commas up to its first blank. -/
theorem commas_of_separated {gap : List CodePoint} (separated : ∀ c ∈ gap, separates c = true) :
    gap.any isBlank = false ∧ (∀ c ∈ gap, c = ',') ∨
      gap.any isBlank = true ∧ ∃ commas c more, gap = commas ++ c :: more ∧ isBlank c = true ∧
        (∀ c ∈ commas, c = .char ',') ∧ ∀ c ∈ more, separates c = true := by
  cases found : gap.find? isBlank with
  | none =>
    have solid : ∀ c ∈ gap, isBlank c = false := by simpa using found
    exact .inl ⟨by simpa using solid, fun c mem => eq_comma_of_separates (separated c mem) (solid c mem)⟩
  | some c =>
    obtain ⟨blank, commas, more, rfl, solid⟩ := List.find?_eq_some_iff_append.mp found
    refine .inr ⟨by simp [blank], commas, c, more, rfl, blank, fun d mem => ?_, fun d mem => ?_⟩
    · exact eq_comma_of_separates (separated d (List.mem_append_left _ mem)) (by simpa using solid d mem)
    · exact separated d (List.mem_append_right _ (List.mem_cons_of_mem _ mem))

/-- What is written is read as the identifiers, with those tied together that have no blank between them. -/
theorem bareWords_items (filled : ∀ item ∈ items, item.id ≠ []) : bareWords (spelled items) = tied items := by
  induction items with
  | nil => rfl
  | cons item rest ih =>
    have first := filled item List.mem_cons_self
    have others := ih fun item mem => filled item (List.mem_cons_of_mem _ mem)
    have unfolds : spelled (item :: rest) = item.id ++ item.gap ++ spelled rest := rfl
    rw [unfolds, tied]
    rcases commas_of_separated item.separated with
      ⟨unparted, commas⟩ | ⟨parted, commas, c, more, gap, blank, none, after⟩
    · rw [unparted, if_neg Bool.false_ne_true]
      cases rest with
      | nil =>
        rw [← others]
        exact (congrArg bareWords (List.append_nil _)).trans (bareWords_spelled first commas)
      | cons next rest =>
        have filled' := filled next (List.mem_cons_of_mem _ List.mem_cons_self)
        have solid := next.solid
        cases start : next.id with
        | nil => exact absurd start filled'
        | cons c id =>
          have begins : spelled (next :: rest) = c :: (id ++ next.gap ++ spelled rest) := by
            simp [spelled, start]
          obtain ⟨word, words, read, together⟩ :=
            bareWords_tied first commas (solid c (start ▸ List.mem_cons_self)) (id ++ next.gap ++ spelled rest)
          rw [← begins] at read together
          rw [together, ← others, read]
    · have parts : item.id ++ item.gap ++ spelled rest = item.id ++ commas ++ c :: (more ++ spelled rest) := by
        simp [gap]
      rw [if_pos parted, parts, bareWords_append_blank blank, bareWords_spelled first none, bareWords_lead after,
        others]
      rfl

/-- The whole of what is written is read in the same way. -/
theorem bareWords_text (spelling : Spelling) (filled : ∀ item ∈ spelling.items, item.id ≠ []) :
    bareWords spelling.text = tied spelling.items :=
  (bareWords_lead spelling.leads _).trans (bareWords_items filled)

/-- No more identifiers are read than are written. -/
theorem length_tied_le (items : List Spelled) : (tied items).length ≤ items.length := by
  induction items with
  | nil => exact Nat.le_refl 0
  | cons item rest ih =>
    rw [tied]
    split
    · simpa using ih
    · split
      · simp
      · next next others more =>
        rw [more] at ih
        simp only [List.length_cons] at ih ⊢
        omega

/-- Identifiers are read as they are meant exactly if there is a blank between any two of them. -/
theorem tied_eq_iff (items : List Spelled) :
    tied items = items.map Spelled.id ↔ ∀ item ∈ items.dropLast, item.gap.any isBlank = true := by
  induction items with
  | nil => simp [tied]
  | cons item rest ih =>
    cases rest with
    | nil => simp [tied]
    | cons next rest =>
      rw [List.dropLast_cons_cons, List.forall_mem_cons, tied, List.map_cons]
      cases parted : item.gap.any isBlank with
      | true =>
        rw [if_pos rfl, List.cons.injEq]
        exact and_congr (iff_of_true rfl rfl) ih
      | false =>
        have shorter := length_tied_le (next :: rest)
        rw [if_neg Bool.false_ne_true]
        refine ⟨fun same => ?_, fun parts => absurd parts.1 Bool.false_ne_true⟩
        have lengths := congrArg List.length same
        split at lengths
        · simp at lengths
        · next first others more =>
          rw [more] at shorter
          simp only [List.length_cons, List.length_map] at lengths shorter
          omega

/-- What a line says of dependencies is read as the identifiers that are meant exactly if none of them is empty and
there is a blank between any two of them. -/
theorem bareWords_eq_ids_iff (spelling : Spelling) :
    bareWords spelling.text = spelling.ids ↔
      (∀ item ∈ spelling.items, item.id ≠ []) ∧ ∀ item ∈ spelling.items.dropLast, item.gap.any isBlank = true := by
  rw [← tied_eq_iff]
  constructor
  · intro read
    have filled : ∀ item ∈ spelling.items, item.id ≠ [] := by
      intro item mem
      have listed : item.id ∈ bareWords spelling.text := by
        rw [read]
        exact List.mem_map_of_mem mem
      exact ne_nil_of_mem_bareWords listed
    exact ⟨filled, (bareWords_text spelling filled).symm.trans read⟩
  · rintro ⟨filled, ids⟩
    exact (bareWords_text spelling filled).trans ids

end Text

end Taskboard
