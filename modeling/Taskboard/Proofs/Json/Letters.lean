import Taskboard.Proofs.Json.RoundTrip

/-!
# The characters of a written document

The layout of a written document, its numbers and its escapes consist of printable characters and line feeds. Any
other character stands in the document exactly if it stands in one of its texts and is no control character. So no
written document holds a return, which is why a change of line ends on the way leaves it alone, and a surrogate
stands in it exactly if one of its texts holds it.
-/

namespace Taskboard.Json

open Decimal

/-- Whether a character may belong to the layout of a document. -/
def isLayout (c : CodePoint) : Bool := c = '\n' || 0x20 ≤ c.toNat && c.toNat < 0x7F

/-- Whether a character stands in a text of a value. -/
inductive Holds (c : CodePoint) : Json → Prop where
  /-- The value is that text. -/
  | string {text : Text} (here : c ∈ text.toList) : Holds c (.string text)
  /-- It stands in an item of a list. -/
  | item {items : List Json} {item : Json} (mem : item ∈ items) (holds : Holds c item) : Holds c (.list items)
  /-- It stands in the name of a member. -/
  | name {members : List (Text × Json)} {member : Text × Json} (mem : member ∈ members)
      (here : c ∈ member.1.toList) : Holds c (.object members)
  /-- It stands in the value of a member. -/
  | value {members : List (Text × Json)} {member : Text × Json} (mem : member ∈ members)
      (holds : Holds c member.2) : Holds c (.object members)

variable {c d : CodePoint} {depth room : Nat}

theorem holds_string {text : Text} : Holds c (.string text) ↔ c ∈ text.toList :=
  ⟨fun holds => by cases holds with | string here => exact here, .string⟩

theorem holds_list {items : List Json} : Holds c (.list items) ↔ ∃ item ∈ items, Holds c item := by
  constructor
  · intro holds
    cases holds with
    | item mem holds => exact ⟨_, mem, holds⟩
  · rintro ⟨item, mem, holds⟩
    exact .item mem holds

theorem holds_object {members : List (Text × Json)} :
    Holds c (.object members) ↔ ∃ member ∈ members, c ∈ member.1.toList ∨ Holds c member.2 := by
  constructor
  · intro holds
    cases holds with
    | name mem here => exact ⟨_, mem, .inl here⟩
    | value mem holds => exact ⟨_, mem, .inr holds⟩
  · rintro ⟨member, mem, here | holds⟩
    · exact .name mem here
    · exact .value mem holds

/-- What is foreign to the layout is none of its characters. -/
theorem ne_of_isLayout (foreign : isLayout c = false) (layout : isLayout d = true) : c ≠ d := by
  rintro rfl
  cases foreign.symm.trans layout

/-- Neither is it one of some of them. -/
theorem notMem_of_isLayout (foreign : isLayout c = false) {letters : List CodePoint}
    (layout : ∀ d ∈ letters, isLayout d = true) : c ∉ letters :=
  fun mem => ne_of_isLayout foreign (layout c mem) rfl

/-- A surrogate is foreign to the layout, and no control character. -/
theorem isLayout_surrogate (offset : Fin 0x800) : isLayout (.surrogate offset) = false := by
  have high : ¬ (CodePoint.surrogate offset).toNat < 0x7F := by
    rw [CodePoint.toNat]
    omega
  simp [isLayout, high]

/-- The code of a control character is written with digits. -/
theorem isLayout_hexDigits : ∀ n < 0x20, ∀ d ∈ Text.hexDigits 4 n, isLayout d = true := by decide

/-- A foreign character stands in the written form of a character only if it is that character, unless that is a
control character. -/
theorem mem_writtenChar (foreign : isLayout c = false) : c ∈ writtenChar d ↔ 0x20 ≤ c.toNat ∧ c = d := by
  have backslash : c ≠ .char '\\' := ne_of_isLayout foreign (by decide)
  have escape (letters : List CodePoint) (layout : ∀ d ∈ letters, isLayout d = true)
      (escaped : isLayout d = true ∨ d.toNat < 0x20) : c ∈ letters ↔ 0x20 ≤ c.toNat ∧ c = d := by
    refine iff_of_false (notMem_of_isLayout foreign layout) ?_
    rintro ⟨high, rfl⟩
    rcases escaped with layout | low
    · cases foreign.symm.trans layout
    · omega
  unfold writtenChar
  split
  · next quote => exact escape _ (by decide) (.inl (by rw [quote]; decide))
  split
  · next same => exact escape _ (by decide) (.inl (by rw [same]; decide))
  split
  · next same => exact escape _ (by decide) (.inl (by rw [same]; decide))
  split
  · next same => exact escape _ (by decide) (.inr (by rw [same]; decide))
  split
  · next same => exact escape _ (by decide) (.inr (by rw [same]; decide))
  split
  · next code => exact escape _ (by decide) (.inr (by omega))
  split
  · next code => exact escape _ (by decide) (.inr (by omega))
  split
  · next control =>
    refine escape _ (fun letter mem => ?_) (.inr control)
    simp only [List.mem_cons] at mem
    rcases mem with rfl | rfl | mem
    · decide
    · decide
    · exact isLayout_hexDigits _ control letter mem
  · next control =>
    rw [List.mem_singleton]
    refine ⟨fun same => ⟨?_, same⟩, And.right⟩
    rw [same]
    omega

/-- A foreign character stands in a written text exactly if it stands in the text and is no control character. -/
theorem mem_writtenText (foreign : isLayout c = false) {text : Text} :
    c ∈ writtenText text ↔ 0x20 ≤ c.toNat ∧ c ∈ text.toList := by
  have quote : c ≠ Text.doubleQuote := ne_of_isLayout foreign (by decide)
  simp only [writtenText, List.cons_append, List.mem_cons, List.mem_append, List.mem_flatMap, quote, false_or,
    List.not_mem_nil, or_false, mem_writtenChar foreign]
  constructor
  · rintro ⟨d, mem, high, rfl⟩
    exact ⟨high, mem⟩
  · rintro ⟨high, mem⟩
    exact ⟨c, mem, high, rfl⟩

/-- It stands in no new line. -/
theorem notMem_newLine (foreign : isLayout c = false) : c ∉ newLine depth := by
  refine notMem_of_isLayout foreign fun d mem => ?_
  rcases List.mem_cons.mp mem with rfl | mem
  · decide
  · rw [List.eq_of_mem_replicate mem]
    decide

/-- It stands in no written integer. -/
theorem notMem_ofInt (foreign : isLayout c = false) (n : Int) : c ∉ ofInt n := by
  have digits : ∀ d ∈ ofNat n.natAbs, isLayout d = true := by
    intro d mem
    obtain ⟨low, high⟩ := CodePoint.isDigit_iff_toNat.mp (isDigit_of_mem_ofNat mem)
    have printable : 0x20 ≤ d.toNat ∧ d.toNat < 0x7F := by omega
    simp [isLayout, printable]
  refine notMem_of_isLayout foreign fun d mem => ?_
  rw [ofInt] at mem
  split at mem
  · rcases List.mem_cons.mp mem with rfl | mem
    · decide
    · exact digits d mem
  · exact digits d mem

/-- It stands in written items exactly if it stands in one of them. -/
theorem mem_writtenItems (foreign : isLayout c = false) (items : List Json) :
    c ∈ writtenItems depth items ↔ ∃ item ∈ items, c ∈ writtenAt depth item := by
  have comma : c ≠ .char ',' := ne_of_isLayout foreign (by decide)
  induction items with
  | nil => simp [writtenItems]
  | cons item items ih => simp [writtenItems, ih, comma, notMem_newLine foreign]

/-- It stands in written members exactly if it stands in the name or the value of one of them. -/
theorem mem_writtenMembers (foreign : isLayout c = false) (members : List (Text × Json)) :
    c ∈ writtenMembers depth members ↔
      ∃ member ∈ members, c ∈ writtenText member.1 ∨ c ∈ writtenAt depth member.2 := by
  have comma : c ≠ .char ',' := ne_of_isLayout foreign (by decide)
  have colon : c ≠ .char ':' := ne_of_isLayout foreign (by decide)
  have blank : c ≠ .char ' ' := ne_of_isLayout foreign (by decide)
  induction members with
  | nil => simp [writtenMembers]
  | cons member members ih =>
    obtain ⟨name, value⟩ := member
    simp [writtenMembers, ih, comma, colon, blank, notMem_newLine foreign, or_assoc]

/-- It stands in a written list exactly if it stands in a written item. -/
theorem mem_writtenAt_list (foreign : isLayout c = false) (items : List Json) :
    c ∈ writtenAt depth (.list items) ↔ ∃ item ∈ items, c ∈ writtenAt (depth + 1) item := by
  cases items with
  | nil =>
    have apart : c ∉ (['[', ']'] : List CodePoint) := notMem_of_isLayout foreign (by decide)
    exact iff_of_false apart (by simp)
  | cons item items =>
    have opening : c ≠ .char '[' := ne_of_isLayout foreign (by decide)
    have closing : c ≠ .char ']' := ne_of_isLayout foreign (by decide)
    simp [writtenAt, opening, closing, notMem_newLine foreign, mem_writtenItems foreign]

/-- It stands in a written object exactly if it stands in the name or the value of a written member. -/
theorem mem_writtenAt_object (foreign : isLayout c = false) (members : List (Text × Json)) :
    c ∈ writtenAt depth (.object members) ↔
      ∃ member ∈ members, c ∈ writtenText member.1 ∨ c ∈ writtenAt (depth + 1) member.2 := by
  cases members with
  | nil =>
    have apart : c ∉ [CodePoint.ofNat 0x7B, CodePoint.ofNat 0x7D] := notMem_of_isLayout foreign (by decide)
    exact iff_of_false apart (by simp)
  | cons member members =>
    obtain ⟨name, value⟩ := member
    have opening : c ≠ CodePoint.ofNat 0x7B := ne_of_isLayout foreign (by decide)
    have closing : c ≠ CodePoint.ofNat 0x7D := ne_of_isLayout foreign (by decide)
    have colon : c ≠ .char ':' := ne_of_isLayout foreign (by decide)
    have blank : c ≠ .char ' ' := ne_of_isLayout foreign (by decide)
    simp [writtenAt, opening, closing, colon, blank, notMem_newLine foreign, mem_writtenMembers foreign, or_assoc]

/-- A character that is foreign to the layout stands in a written document exactly if it stands in one of its texts and
is no control character. -/
theorem mem_writtenAt {value : Json} (foreign : isLayout c = false) (readable : Readable room value) :
    c ∈ writtenAt depth value ↔ 0x20 ≤ c.toNat ∧ Holds c value := by
  induction readable generalizing depth with
  | null =>
    have apart : c ∉ (['n', 'u', 'l', 'l'] : List CodePoint) := notMem_of_isLayout foreign (by decide)
    exact iff_of_false apart fun ⟨_, holds⟩ => by cases holds
  | bool value =>
    have apart : c ∉ (['t', 'r', 'u', 'e'] : List CodePoint) := notMem_of_isLayout foreign (by decide)
    have apart' : c ∉ (['f', 'a', 'l', 's', 'e'] : List CodePoint) := notMem_of_isLayout foreign (by decide)
    refine iff_of_false ?_ fun ⟨_, holds⟩ => by cases holds
    cases value
    · exact apart'
    · exact apart
  | @int room value short =>
    exact iff_of_false (notMem_ofInt foreign value) fun ⟨_, holds⟩ => by cases holds
  | string text => rw [holds_string, writtenAt, mem_writtenText foreign]
  | @list room items readable ih =>
    rw [mem_writtenAt_list foreign, holds_list]
    constructor
    · rintro ⟨item, mem, here⟩
      obtain ⟨high, holds⟩ := (ih item mem).mp here
      exact ⟨high, item, mem, holds⟩
    · rintro ⟨high, item, mem, holds⟩
      exact ⟨item, mem, (ih item mem).mpr ⟨high, holds⟩⟩
  | @object room members distinct readable ih =>
    rw [mem_writtenAt_object foreign, holds_object]
    constructor
    · rintro ⟨member, mem, here | here⟩
      · obtain ⟨high, here⟩ := (mem_writtenText foreign).mp here
        exact ⟨high, member, mem, .inl here⟩
      · obtain ⟨high, holds⟩ := (ih member mem).mp here
        exact ⟨high, member, mem, .inr holds⟩
    · rintro ⟨high, member, mem, here | holds⟩
      · exact ⟨member, mem, .inl ((mem_writtenText foreign).mpr ⟨high, here⟩)⟩
      · exact ⟨member, mem, .inr ((ih member mem).mpr ⟨high, holds⟩)⟩

/-- No written document holds a return. -/
theorem return_notMem_written {value : Json} (readable : Readable room value) : .char '\r' ∉ written value := by
  intro mem
  have foreign : isLayout (.char '\r') = false := by decide
  obtain ⟨high, -⟩ := (mem_writtenAt foreign readable).mp mem
  exact absurd high (by decide)

/-- A surrogate stands in a written document exactly if it stands in one of its texts. -/
theorem surrogate_mem_written {value : Json} (readable : Readable room value) (offset : Fin 0x800) :
    .surrogate offset ∈ written value ↔ Holds (.surrogate offset) value := by
  rw [written, mem_writtenAt (isLayout_surrogate offset) readable]
  refine and_iff_right ?_
  rw [CodePoint.toNat]
  omega

end Taskboard.Json
