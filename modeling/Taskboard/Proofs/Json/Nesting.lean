import Taskboard.Proofs.Json.RoundTrip
import Taskboard.Proofs.Text.Utf8
import Taskboard.Task.Record

/-!
# Documents nested too deep

A reader with room for so many containers stops at one more, whatever follows. So a file that opens more lists
inside each other than a document may have is not a document, and that is all that is said of it.
-/

namespace Taskboard

namespace Json

/-- A bracket after a bracket is the first item of a list. -/
theorem readValue_bracket (bound room : Nat) (rest : List CodePoint) :
    readValue bound (room + 1) (.char '[' :: .char '[' :: rest) =
      readItems (readValue bound room) bound [] (.char '[' :: rest) := by
  have visible : skipGap (.char '[' :: rest) = .char '[' :: rest := skipGap_cons (isGap_of_visible (by decide)) rest
  have noText : ¬ .char '[' = Text.doubleQuote := by decide
  rw [readValue, if_neg noText, if_pos rfl, visible]
  rfl

/-- As many brackets as there is room for, and one more, are too many. -/
theorem readValue_nested {bound : Nat} (enough : 0 < bound) (room : Nat) (rest : List CodePoint) :
    readValue bound room (List.replicate (room + 1) (.char '[') ++ rest) = .error (.tooDeep .list) := by
  obtain ⟨fuel, rfl⟩ := Nat.exists_eq_succ_of_ne_zero (Nat.ne_of_gt enough)
  induction room with
  | zero => rfl
  | succ room ih =>
    have enters : readValue fuel.succ (room + 1) (List.replicate (room + 1 + 1) (.char '[') ++ rest) =
        readItems (readValue fuel.succ room) fuel.succ [] (List.replicate (room + 1) (.char '[') ++ rest) :=
      readValue_bracket fuel.succ room (List.replicate room (CodePoint.char '[') ++ rest)
    rw [enters, readItems, ih]

/-- A document of too many brackets is refused for that. -/
theorem read_nested (room : Nat) (rest : List CodePoint) :
    read room (List.replicate (room + 1) (.char '[') ++ rest) = .error (.tooDeep .list) := by
  have visible : skipGap (List.replicate (room + 1) (.char '[') ++ rest) =
      List.replicate (room + 1) (.char '[') ++ rest := skipGap_cons (isGap_of_visible (by decide)) _
  have unmarked : ¬ (List.replicate (room + 1) (CodePoint.char '[') ++ rest).head? = some (CodePoint.ofNat 0xFEFF) := by
    rw [List.replicate_succ, List.cons_append, List.head?_cons]
    decide
  rw [read, readDocument, if_neg unmarked, visible, readValue_nested (Nat.succ_pos _)]
  rfl

end Json

namespace TaskList

/-- A file of more brackets than there is room for is refused for that. -/
theorem load_nested (spare : Nat) :
    load spare (List.replicate (spare + depth + 1) 0x5B) = .error (.notDocument (.tooDeep .list)) := by
  have encoded : Utf8.encode (List.replicate (spare + depth + 1) (.char '[')) =
      .ok (List.replicate (spare + depth + 1) 0x5B) := by
    refine Utf8.encode_eq_ok_iff.mpr ⟨fun offset mem => ?_, ?_⟩
    · cases List.eq_of_mem_replicate mem
    · have byte : Utf8.bytesOf (.char '[') = [0x5B] := by decide
      rw [List.flatMap_replicate, byte, List.flatten_replicate_singleton]
  have noReturn : .char '\r' ∉ List.replicate (spare + depth + 1) (CodePoint.char '[') := fun mem =>
    absurd (List.eq_of_mem_replicate mem) (by decide)
  have refused := Json.read_nested (spare + depth) []
  rw [List.append_nil] at refused
  rw [load, Utf8.decode_encode encoded]
  dsimp only
  rw [Text.unifyLineEnds_eq noReturn, ofText, refused]

end TaskList

end Taskboard
